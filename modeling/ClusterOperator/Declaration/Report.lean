import ClusterOperator.Declaration.Status

/-!
# Reports in a status

Each pass reports to the status that the deployment runs or that it failed. Failures in a row with
one code share an entry of the history, of which only the time of the last one moves. The condition
`Ready` says since when the deployment is as it is: its transition time moves when its value
changes, its probe time when its value or its reason does.

## Main definitions

* `Status.recordRunning`, `Status.recordFailure`.
* `Report`, `Status.record`: the two reports as data.
-/

namespace ClusterOperator

namespace Condition

/-- The type of the condition that the operator keeps. -/
def ready : String := "Ready"

/-- A condition of this type, set for the first time. -/
def first (value reason : String) (message : Option String) (now : Instant) : Condition where
  type := ready
  status := value
  lastProbeTime := some now
  lastTransitionTime := some now
  reason := some reason
  message := message

/-- The condition after a report. -/
def report (c : Condition) (value reason : String) (message : Option String) (now : Instant) :
    Condition :=
  if c.status = value ∧ c.reason = some reason then { c with message }
  else
    { c with
      status := value
      lastProbeTime := some now
      lastTransitionTime := if c.status = value then c.lastTransitionTime else some now
      reason := some reason
      message }

/-- The conditions after a report: the first one of this type changes, or one is added. -/
def reportAll (value reason : String) (message : Option String) (now : Instant) :
    List Condition → List Condition
  | [] => [first value reason message now]
  | c :: rest =>
    if c.type = ready then c.report value reason message now :: rest
    else c :: reportAll value reason message now rest

end Condition

namespace Event

/-- A failure that starts an entry of its own. -/
def first (code : Signed32) (message : String) (now : Instant) : Event where
  code := code
  message := message
  status := "false"
  firstAppearTime := some now
  lastTransitionTime := some now

/-- The history after a failure: the last entry is extended if it has the same code. -/
def fail (code : Signed32) (message : String) (now : Instant) : List Event → List Event
  | [] => [first code message now]
  | [last] =>
    if last.code = code then [{ last with lastTransitionTime := some now }]
    else [last, first code message now]
  | e :: rest => e :: fail code message now rest

end Event

/-- What a pass reports about a deployment. -/
inductive Report where
  | running
  | failure (code : Signed32) (message : String)
  deriving DecidableEq

namespace Status

/-- The reason of a condition that is true. -/
def healthyReason : String := "ClusterHealthy"

/-- The reason of a condition that is false because of a failure with a code. -/
def failureReason (code : Signed32) : String := "Fatal" ++ code.val.repr

/-- The status after the report that the deployment runs. -/
def recordRunning (s : Status) (now : Instant) : Status where
  phase := .running
  events := s.events
  conditions := Condition.reportAll "True" healthyReason none now s.conditions

/-- The status after the report of a failure. -/
def recordFailure (s : Status) (code : Signed32) (message : String) (now : Instant) : Status where
  phase := .failed
  events := Event.fail code message now s.events
  conditions := Condition.reportAll "False" (failureReason code) (some message) now s.conditions

/-- The status after a report. -/
def record (s : Status) (now : Instant) : Report → Status
  | .running => s.recordRunning now
  | .failure code message => s.recordFailure code message now

end Status

end ClusterOperator
