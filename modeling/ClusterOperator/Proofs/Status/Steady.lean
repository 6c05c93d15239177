import ClusterOperator.Declaration.Report
import ClusterOperator.Proofs.Documents.Objects

/-!
# A status that does not change

The report that a deployment runs changes the status only the first time. From then on the phase
and the condition `Ready` say so, and a report at any later time changes nothing. This is still so
when the status was written and is read back, though its times may then have lost a fraction of a
second.

## Main definitions

* `Condition.Shows`: what the first condition `Ready` says.
* `Status.Steady`: a status that says that the deployment runs.

## Main results

* `Status.steady_recordRunning`: after a report the status is steady.
* `Status.Steady.recordRunning_eq`: a report leaves a steady status as it is.
* `Status.Steady.reread`: a steady status is steady when it is read back.
-/

namespace ClusterOperator

namespace Condition

/-- What the first condition `Ready` says: its value, its reason and its message. -/
def Shows (value reason : String) (message : Option String) : List Condition → Prop
  | [] => False
  | c :: rest =>
    if c.type = ready then c.status = value ∧ c.reason = some reason ∧ c.message = message
    else Shows value reason message rest

variable {value reason : String} {message : Option String}

theorem report_shows (c : Condition) (value reason : String) (message : Option String)
    (now : Instant) :
    (c.report value reason message now).status = value ∧
      (c.report value reason message now).reason = some reason ∧
      (c.report value reason message now).message = message ∧
      (c.report value reason message now).type = c.type := by
  unfold report
  split
  · next h => exact ⟨h.1, h.2, rfl, rfl⟩
  · exact ⟨rfl, rfl, rfl, rfl⟩

/-- After a report the condition says what was reported. -/
theorem shows_reportAll (value reason : String) (message : Option String) (now : Instant)
    (cs : List Condition) : Shows value reason message (reportAll value reason message now cs) := by
  induction cs with
  | nil => exact (if_pos rfl).mpr ⟨rfl, rfl, rfl⟩
  | cons c rest ih =>
    rw [reportAll]
    split
    · next h =>
      obtain ⟨hstatus, hreason, hmessage, htype⟩ := report_shows c value reason message now
      exact (if_pos (htype.trans h)).mpr ⟨hstatus, hreason, hmessage⟩
    · next h => exact (if_neg h).mpr ih

/-- A report of what the condition says changes nothing, at whatever time. -/
theorem Shows.reportAll_eq {cs : List Condition} (h : Shows value reason message cs)
    (now : Instant) : reportAll value reason message now cs = cs := by
  induction cs with
  | nil => exact absurd h id
  | cons c rest ih =>
    rw [Shows] at h
    rw [reportAll]
    split
    · next htype =>
      obtain ⟨hstatus, hreason, rfl⟩ := (if_pos htype).mp h
      rw [report, if_pos ⟨hstatus, hreason⟩]
    · next htype => rw [ih ((if_neg htype).mp h)]

/-- All but the times of a condition is read back. -/
theorem reread_parts (c : Condition) :
    (Document.reread c).type = c.type ∧ (Document.reread c).status = c.status ∧
      (Document.reread c).reason = c.reason ∧ (Document.reread c).message = c.message := by
  obtain ⟨type, status, probed, changed, reason, message⟩ := c
  refine ⟨rfl, rfl, ?_, ?_⟩
  · cases reason <;> rfl
  · cases message <;> rfl

/-- What the condition says is read back. -/
theorem Shows.reread {cs : List Condition} (h : Shows value reason message cs) :
    Shows value reason message (cs.map Document.reread) := by
  induction cs with
  | nil => exact absurd h id
  | cons c rest ih =>
    obtain ⟨htype, hstatus, hreason, hmessage⟩ := reread_parts c
    rw [Shows] at h
    rw [List.map_cons, Shows, htype, hstatus, hreason, hmessage]
    split
    · next hready => exact (if_pos hready).mp h
    · next hready => exact ih ((if_neg hready).mp h)

end Condition

namespace Status

/-- A status that says that the deployment runs. -/
structure Steady (s : Status) : Prop where
  phase : s.phase = .running
  conditions : Condition.Shows "True" healthyReason none s.conditions

/-- After the report that the deployment runs the status is steady. -/
theorem steady_recordRunning (s : Status) (now : Instant) : (s.recordRunning now).Steady :=
  ⟨rfl, Condition.shows_reportAll _ _ _ now s.conditions⟩

/-- The report that the deployment runs leaves a steady status as it is, at whatever time. -/
theorem Steady.recordRunning_eq {s : Status} (h : s.Steady) (now : Instant) :
    s.recordRunning now = s := by
  obtain ⟨phase, events, conditions⟩ := s
  obtain ⟨hphase, hconditions⟩ := h
  have hphase : phase = .running := hphase
  subst hphase
  exact congrArg (Status.mk .running events) (hconditions.reportAll_eq now)

/-- A status is read back part by part. -/
theorem reread_mk (phase : Phase) (events : List Event) (conditions : List Condition) :
    Document.reread (Status.mk phase events conditions) =
      ⟨phase, events.map Document.reread, conditions.map Document.reread⟩ := by
  have hevents : (Document.reread (Status.mk phase events conditions)).events =
      events.map Document.reread :=
    (congrArg (List.map Document.ofVal) (List.map_map ..)).trans (List.map_map ..)
  have hconditions : (Document.reread (Status.mk phase events conditions)).conditions =
      conditions.map Document.reread :=
    (congrArg (List.map Document.ofVal) (List.map_map ..)).trans (List.map_map ..)
  have hphase : (Document.reread (Status.mk phase events conditions)).phase = phase :=
    Document.ofVal_toVal phase
  exact congr (congr (congrArg Status.mk hphase) hevents) hconditions

/-- A steady status is steady when it is read back. -/
theorem Steady.reread {s : Status} (h : s.Steady) : (Document.reread s).Steady := by
  obtain ⟨phase, events, conditions⟩ := s
  have hphase : phase = .running := h.phase
  subst hphase
  rw [reread_mk]
  exact ⟨rfl, h.conditions.reread⟩

end Status

end ClusterOperator
