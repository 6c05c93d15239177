import ClusterOperator.Document

/-!
# The observed state of a deployment

What the operator reports about a deployment: a coarse phase, the history of its failures, and
conditions of which the operator keeps the one called `Ready`.

## Main definitions

* `Phase`, `Event`, `Condition`, `Status`.
* `Status.lastEvent?`, `Status.condition?`.
-/

namespace ClusterOperator

/-- The coarse phase of a deployment. -/
inductive Phase where
  | none
  | creating
  | running
  | failed
  | scale
  deriving DecidableEq, Repr, Inhabited

namespace Phase

/-- The phases in the order in which they are listed. -/
def ofIndex : Fin 5 → Phase
  | 0 => none
  | 1 => creating
  | 2 => running
  | 3 => failed
  | 4 => scale

/-- The place of a phase in the list. -/
def index : Phase → Fin 5
  | none => 0
  | creating => 1
  | running => 2
  | failed => 3
  | scale => 4

/-- How a phase is written. -/
def name : Phase → String
  | none => "None"
  | creating => "Creating"
  | running => "Running"
  | failed => "Failed"
  | scale => "Scale"

instance : Document Phase where
  shape := .choice "None" ["Creating", "Running", "Failed", "Scale"]
  ofVal := ofIndex
  toVal := index
  ofVal_toVal p := by cases p <;> rfl
  toVal_ofVal := (by decide : ∀ i : Fin 5, index (ofIndex i) = i)

end Phase

/-- One entry of the failure history: failures in a row with one code. -/
structure Event where
  code : Signed32
  message : String
  status : String
  firstAppearTime : Option Instant
  lastTransitionTime : Option Instant
  deriving DecidableEq

instance : Document Event :=
  .ofMembers (.strictNamed "Event")
    (.required "code" Signed32 <|
      .defaulted "message" String <|
      .defaulted "status" String <|
      .optional "firstAppearTime" Instant <|
      .optional "lastTransitionTime" Instant .nil)
    (fun (code, message, status, firstAppearTime, lastTransitionTime, _) =>
      { code, message, status, firstAppearTime, lastTransitionTime })
    (fun e => (e.code, e.message, e.status, e.firstAppearTime, e.lastTransitionTime, ()))
    (fun _ => rfl) (fun _ => rfl)

/-- A statement about the deployment: true, false or unknown, since when and why. -/
structure Condition where
  type : String
  status : String
  lastProbeTime : Option Instant
  lastTransitionTime : Option Instant
  reason : Option String
  message : Option String
  deriving DecidableEq

instance : Document Condition :=
  .ofMembers (.strictNamed "Condition")
    (.required "type" String <|
      .required "status" String <|
      .optional "lastProbeTime" Instant <|
      .optional "lastTransitionTime" Instant <|
      .optional "reason" String <|
      .optional "message" String .nil)
    (fun (type, status, lastProbeTime, lastTransitionTime, reason, message, _) =>
      { type, status, lastProbeTime, lastTransitionTime, reason, message })
    (fun c =>
      (c.type, c.status, c.lastProbeTime, c.lastTransitionTime, c.reason, c.message, ()))
    (fun _ => rfl) (fun _ => rfl)

/-- The observed state of a deployment. -/
structure Status where
  phase : Phase := .none
  events : List Event := []
  conditions : List Condition := []
  deriving DecidableEq, Inhabited

namespace Status

instance : Document Status :=
  .ofMembers (.strictNamed "NacosStatus")
    (.defaulted "phase" Phase <|
      .defaulted "events" (List Event) <|
      .defaulted "conditions" (List Condition) .nil)
    (fun (phase, events, conditions, _) => { phase, events, conditions })
    (fun s => (s.phase, s.events, s.conditions, ()))
    (fun _ => rfl) (fun _ => rfl)

/-- The most recent entry of the failure history. -/
def lastEvent? (s : Status) : Option Event := s.events.getLast?

/-- The first condition of a type. -/
def condition? (s : Status) (type : String) : Option Condition :=
  s.conditions.find? fun c => c.type == type

end Status

end ClusterOperator
