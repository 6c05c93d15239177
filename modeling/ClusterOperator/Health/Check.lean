import ClusterOperator.Health.Polling
import ClusterOperator.Labels
import ClusterOperator.Manifest
import ClusterOperator.Text.Numeral

/-!
# Checking a deployment

A deployment is healthy if its workload has the declared number of replicas, enough of its pods are
ready, and the server in every ready pod is well. More than half of the replicas are enough, so any
two majorities share a member. The ready pods are counted in 32 bits, as the replicas are.

## Main definitions

* `quorum`: how many ready pods are enough.
* `Kubernetes.Pod.ordinal?`, `Kubernetes.Pod.inOrder`: the order of pods.
* `Kubernetes.Pod.count`: how many pods there are.
* `check`: the check, which gives the ready pods.
-/

namespace ClusterOperator

open Kubernetes

/-- How many ready pods are enough for a number of replicas. -/
def quorum (replicas : Int) : Int := Int.tdiv replicas 2 + 1

namespace Kubernetes.Pod

/-- What a pod is called. -/
def displayName (p : Pod) : String := p.metadata.displayName

/-- The number at the end of the name of a pod, after the last hyphen. -/
def ordinal? (p : Pod) : Option Nat :=
  Text.unsigned? Text.maxUnsigned32 (p.displayName.toList.reverse.takeWhile (· ≠ '-')).reverse

/-- What pods are ordered by: their ordinals, a pod without one coming late, then their names. -/
def sortKey (p : Pod) : Nat × String := (p.ordinal?.getD Text.maxUnsigned32, p.displayName)

/-- Whether a pod does not come after another one. -/
def before (p q : Pod) : Bool :=
  decide (p.sortKey.1 < q.sortKey.1) ||
    (p.sortKey.1 == q.sortKey.1 && decide (p.sortKey.2 ≤ q.sortKey.2))

/-- Pods in their order. -/
def inOrder (pods : List Pod) : List Pod := pods.mergeSort before

/-- How many pods there are. From `2 ^ 31` on the count wraps around. -/
def count (pods : List Pod) : Signed32 := .wrap pods.length

/-- How to ask for the state of the server of a pod. -/
def target (p : Pod) : Target := ⟨p.displayName, p.address?⟩

end Kubernetes.Pod

/-- Checks the replicas, the quorum and the servers of a deployment, and gives its ready pods in
their order. The first thing that is wrong ends the check. -/
def check (limit : Nat) (d : Declaration) : Pass (List Pod) := do
  let space := d.metadata.spaceOrEmpty
  let name := d.displayName
  let replicas := d.spec.replicas.getD defaultReplicas
  let workload ← match ← Pass.request (.get .statefulSet space name) with
    | some workload => pure workload
    | none => Pass.fault (.workloadMissing space name)
  let spec := (StatefulSet.spec workload).getD {}
  if spec.replicas ≠ some replicas then
    Pass.fault (.replicasDiffer spec.replicas replicas)
  let selector := Labels.selector (spec.selector.matchLabels.getD ∅)
  let pods ← Pass.request (.list .pod space (some selector))
  let ready := Pod.inOrder (List.filter Pod.isReady pods)
  if (Pod.count ready).val < quorum replicas.val then
    Pass.fault (.tooFewReady (Pod.count ready) (quorum replicas.val) replicas)
  ExceptT.mk (Program.perform (.poll limit (ready.map Pod.target)))
  return ready

end ClusterOperator
