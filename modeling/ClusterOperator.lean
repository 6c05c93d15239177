import ClusterOperator.Declaration.Schema
import ClusterOperator.Rehearsal
import ClusterOperator.Rehearsal.Samples
import ClusterOperator.Simulation
import ClusterOperator.Proofs.Children.Conflicts
import ClusterOperator.Proofs.Children.Repeated
import ClusterOperator.Proofs.Documents.Bytes
import ClusterOperator.Proofs.Health.InTurn
import ClusterOperator.Proofs.Health.Reported
import ClusterOperator.Proofs.Health.Majority
import ClusterOperator.Proofs.Passes.Apart
import ClusterOperator.Proofs.Passes.Course
import ClusterOperator.Proofs.Passes.Edits
import ClusterOperator.Proofs.Passes.Footprint
import ClusterOperator.Proofs.Passes.Healing
import ClusterOperator.Proofs.Passes.Idempotent
import ClusterOperator.Proofs.Passes.Neighbours
import ClusterOperator.Proofs.Passes.Trouble
import ClusterOperator.Proofs.Passes.Workloads
import ClusterOperator.Proofs.Schedule.Resync
import ClusterOperator.Proofs.Schedule.Simulated
import ClusterOperator.Proofs.Drift.Paths
import ClusterOperator.Proofs.Drift.Requirements
import ClusterOperator.Proofs.Children.Peers
import ClusterOperator.Proofs.Documents.Cursors
import ClusterOperator.Proofs.Documents.Texts
import ClusterOperator.Proofs.Drift.Omitted
import ClusterOperator.Proofs.Documents.Declared
import ClusterOperator.Proofs.Documents.Patches
import ClusterOperator.Proofs.Status.Ready
import ClusterOperator.Proofs.Children.Variables
import ClusterOperator.Proofs.Stores.Selection
import ClusterOperator.Proofs.Settings
import ClusterOperator.Proofs.Health.Reach
