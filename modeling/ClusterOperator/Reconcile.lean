import ClusterOperator.Apply
import ClusterOperator.Declaration.Report
import ClusterOperator.Health.Check
import ClusterOperator.Settings

/-!
# The reconcile pass

One pass fetches a declared deployment, fills in its defaults, applies its children, applies a
remedy if the deployment had failed, checks its health, and writes what it found into the status.
Only a failure to fetch the deployment is an error of the pass; everything after that ends in an
outcome, and the next pass tries again.

The status is written only when it changes, and a status that cannot be written changes nothing
about the outcome.

## Main definitions

* `Outcome`: how a pass ended.
* `updateStatus`, `markCreating`, `report`: writing the status.
* `reconcile`: the pass.
-/

namespace ClusterOperator

/-- How a pass ended. -/
inductive Outcome where
  /-- The deployment is no longer declared. -/
  | notFound
  /-- The children are applied and the servers are well. -/
  | converged
  /-- A fault was recorded in the status. -/
  | failed (code : Signed32)
  /-- An error or a panic ended the pass. The status does not tell; at most it shows, from before,
  that a new deployment is being created. -/
  | aborted
  deriving DecidableEq

/-- Changes the status and writes it if that makes a difference. -/
def updateStatus (change : Status → Status) (d : Declaration) : Program Declaration :=
  let after : Declaration := { d with status := some (change (d.status.getD {})) }
  if after.status = d.status then return after
  else do
    let _ ← Program.request (.updateStatus after)
    return after

/-- Shows that a deployment is seen for the first time. -/
def markCreating (d : Declaration) : Program Declaration :=
  updateStatus (fun s => { s with phase := .creating }) d

/-- Records a report at the time of the clock. -/
def report (r : Report) (d : Declaration) : Program Declaration := do
  let now ← Program.perform .clock
  updateStatus (·.record now r) d

/-- What the phase that was seen at the start of a pass asks for, before the health is checked: a
new deployment is shown as such, a failed one is given its remedy. Nothing comes back if the remedy
panics. -/
def prepare (settings : Settings) (previous : Phase) (d : Declaration) :
    Program (Option Declaration) :=
  match previous with
  | .none => return some (← markCreating d)
  | .failed => do
    match ← Program.perform (.heal settings.healTimeout d) with
    | .returned => return some d
    | .panicked => return none
  | .creating | .running | .scale => return some d

/-- Ends a pass that was stopped: a fault is recorded in the status, and nothing is written about
anything else. What the pass has written before stays. -/
def giveUp (d : Declaration) : Stop → Program Outcome
  | .error (.fatal fault) => do
    let _ ← report (.failure fault.code fault.message) d
    return .failed fault.code
  | .error _ | .panic => return .aborted

/-- The pass over a deployment that was fetched. -/
def runPass (settings : Settings) (fetched : Declaration) : Program Outcome := do
  let d : Declaration := { fetched with spec := fetched.spec.withDefaults }
  match ← (ensure settings.clusterDomain d).run with
  | .error stop => giveUp d stop
  | .ok _ =>
    match ← prepare settings fetched.phase d with
    | none => return .aborted
    | some d =>
      match ← (check settings.healthConcurrency d).run with
      | .error stop => giveUp d stop
      | .ok _ =>
        let _ ← report .running d
        return .converged

/-- One pass for the deployment of a name. -/
def reconcile (settings : Settings) (space name : String) : Program (Except Error Outcome) := do
  match ← Program.request (.get .declaration space name) with
  | .error e => return .error e
  | .ok none => return .ok .notFound
  | .ok (some fetched) => return .ok (← runPass settings fetched)

end ClusterOperator
