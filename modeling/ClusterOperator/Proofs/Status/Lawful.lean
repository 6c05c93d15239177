import ClusterOperator.Proofs.Status.Events
import ClusterOperator.Proofs.Status.Steady

/-!
# The statuses that reports lead to

A deployment that was only seen is being created. Once a report was made, the one condition says
whether the servers are ready and agrees with the phase, and for a failure also with the last entry
of the history. Neighbouring entries of the history have different codes. A report leads from one
such status to another one, and the history only goes on. All this is so when the status is written
and read back.

## Main definitions

* `Event.Apart`, `Event.Continues`: histories without repeated codes, and how they go on.
* `Phase.Moves`: how the phase moves.
* `Status.Lawful`: the statuses that reports lead to.
* `Status.Succeeds`: a lawful status that goes on from an older one.
* `Status.Left`: what a pass can leave behind as the status.

## Main results

* `Status.Lawful.record`, `Status.Lawful.reread`: reports lead from lawful statuses to lawful ones.
* `Status.Kept.continues`: the history goes on when a report is written and read back.
* `Status.Left.succeeds`: what a pass leaves behind goes on from what it found.
-/

namespace ClusterOperator

/-! ### Histories -/

namespace Event

variable {old : List Event} {code : Signed32} {message : String} {now : Instant}

/-- Neighbouring entries have different codes. -/
def Apart (events : List Event) : Prop := events.IsChain fun e next => e.code ≠ next.code

/-- A history is the older one with new entries behind it, but the last old entry may last until
another time. -/
inductive Continues : List Event → List Event → Prop
  | added (old new : List Event) : Continues old (old ++ new)
  | extended (earlier : List Event) (last : Event) (time : Option Instant) (new : List Event) :
      Continues (earlier ++ [last])
        (earlier ++ { last with lastTransitionTime := time } :: new)

theorem Continues.refl (old : List Event) : Continues old old := by
  simpa only [List.append_nil] using Continues.added old []

/-- A failure extends the last entry, which has its code, or adds one with its code. -/
theorem fail_cases (code : Signed32) (message : String) (now : Instant) (old : List Event) :
    (∃ earlier last, old = earlier ++ [last] ∧ last.code = code ∧
      fail code message now old = earlier ++ [{ last with lastTransitionTime := some now }]) ∨
    ((∀ last ∈ old.getLast?, last.code ≠ code) ∧
      fail code message now old = old ++ [first code message now]) := by
  by_cases h : ∀ last ∈ old.getLast?, last.code ≠ code
  · exact .inr ⟨h, fail_fresh h⟩
  · push Not at h
    obtain ⟨last, hlast, hcode⟩ := h
    obtain ⟨earlier, rfl⟩ := List.getLast?_eq_some_iff.mp hlast
    exact .inl ⟨earlier, last, rfl, hcode, fail_append_same earlier hcode message now⟩

/-- After a failure the last entry has its code, and neighbouring entries have different ones. -/
theorem apart_fail (h : Apart old) (code : Signed32) (message : String) (now : Instant) :
    ∃ earlier last, fail code message now old = earlier ++ [last] ∧ last.code = code ∧
      Apart (earlier ++ [last]) := by
  rcases fail_cases code message now old with ⟨earlier, last, rfl, hcode, hfail⟩ | ⟨hne, hfail⟩
  · refine ⟨earlier, _, hfail, hcode, ?_⟩
    have hchain := List.isChain_append.mp h
    exact List.isChain_append.mpr ⟨hchain.1, List.isChain_singleton _, fun e he next hnext => by
      cases List.mem_singleton.mp (List.mem_of_mem_head? hnext)
      exact hchain.2.2 e he last rfl⟩
  · refine ⟨old, _, hfail, rfl, ?_⟩
    exact List.isChain_append.mpr ⟨h, List.isChain_singleton _, fun e he next hnext => by
      cases List.mem_singleton.mp (List.mem_of_mem_head? hnext)
      exact hne e he⟩

/-- All but the times of an entry is read back. -/
theorem reread_eq (e : Event) :
    Document.reread e =
      { e with
        firstAppearTime := e.firstAppearTime.map Instant.wholeSeconds
        lastTransitionTime := e.lastTransitionTime.map Instant.wholeSeconds } := by
  obtain ⟨code, message, status, appeared, changed⟩ := e
  cases appeared <;> cases changed <;> rfl

/-- An entry that was read back, and that lasts until another time now. -/
theorem reread_extended {e : Event} (h : Document.reread e = e) (time : Instant) :
    Document.reread { e with lastTransitionTime := some time } =
      { e with lastTransitionTime := some time.wholeSeconds } := by
  have hfirst : e.firstAppearTime.map Instant.wholeSeconds = e.firstAppearTime :=
    congrArg firstAppearTime (e.reread_eq.symm.trans h)
  rw [reread_eq]
  simp only [hfirst, Option.map_some]

/-- What is read back of an entry is read back again. -/
theorem reread_reread (e : Event) : Document.reread (Document.reread e) = Document.reread e := by
  obtain ⟨code, message, status, appeared, changed⟩ := e
  cases appeared <;> cases changed <;> rfl

theorem Apart.reread {events : List Event} (h : Apart events) :
    Apart (events.map Document.reread) := by
  refine List.isChain_map_of_isChain _ (fun e next hne => ?_) h
  rw [reread_eq, reread_eq]
  exact hne

end Event

/-! ### Conditions -/

namespace Condition

variable {value reason : String} {message : Option String}

/-- A condition says whether the deployment is ready, and why. -/
structure Tells (value reason : String) (c : Condition) : Prop where
  type : c.type = ready
  status : c.status = value
  reason : c.reason = some reason

theorem Tells.reread {c : Condition} (h : c.Tells value reason) :
    (Document.reread c).Tells value reason := by
  obtain ⟨htype, hstatus, hreason, -⟩ := c.reread_parts
  exact ⟨htype.trans h.type, hstatus.trans h.status, hreason.trans h.reason⟩

/-- Where there is no condition but that of this type, there is one after a report, and it says what
was reported. -/
theorem reportAll_tells {cs : List Condition} (h : cs = [] ∨ ∃ c, cs = [c] ∧ c.type = ready)
    (value reason : String) (message : Option String) (now : Instant) :
    ∃ c, reportAll value reason message now cs = [c] ∧ c.Tells value reason ∧
      c.message = message := by
  rcases h with rfl | ⟨c, rfl, htype⟩
  · exact ⟨_, rfl, ⟨rfl, rfl, rfl⟩, rfl⟩
  · obtain ⟨hstatus, hreason, hmessage, hsame⟩ := report_shows c value reason message now
    exact ⟨_, if_pos htype, ⟨hsame.trans htype, hstatus, hreason⟩, hmessage⟩

end Condition

/-! ### Phases -/

namespace Phase

/-- Where a pass can move a deployment from a phase, or when it has none yet. -/
def following : Option Phase → List Phase
  | Option.none => [creating, running, failed]
  | some creating => [running, failed]
  | some running => [failed]
  | some failed => [running]
  | some none | some scale => []

/-- A pass leaves the phase as it is or moves it on. -/
def Moves (old new : Option Phase) : Prop := new = old ∨ ∃ p ∈ following old, new = some p

end Phase

/-! ### Statuses -/

namespace Status

/-- The statuses that reports lead to. -/
inductive Lawful : Option Status → Prop
  | absent : Lawful none
  | creating : Lawful (some { phase := .creating, events := [], conditions := [] })
  | running {events : List Event} {c : Condition} (apart : Event.Apart events)
      (tells : c.Tells "True" healthyReason) (silent : c.message = none) :
      Lawful (some { phase := .running, events, conditions := [c] })
  | failed {earlier : List Event} {last : Event} {c : Condition}
      (apart : Event.Apart (earlier ++ [last]))
      (tells : c.Tells "False" (failureReason last.code)) :
      Lawful (some { phase := .failed, events := earlier ++ [last], conditions := [c] })

/-- The history of a status; there is none before there is a status. -/
def historyOf (status : Option Status) : List Event := (status.getD {}).events

variable {old new : Option Status}

theorem Lawful.eq_none_of_phase (h : Lawful old) (hphase : (old.getD {}).phase = .none) :
    old = none := by
  cases h with
  | absent => rfl
  | _ => cases hphase

theorem Lawful.apart (h : Lawful old) : Event.Apart (historyOf old) := by
  cases h with
  | absent => exact List.isChain_nil
  | creating => exact List.isChain_nil
  | running apart => exact apart
  | failed apart => exact apart

theorem Lawful.conditions (h : Lawful old) : (old.getD {}).conditions = [] ∨
    ∃ c, (old.getD {}).conditions = [c] ∧ c.type = Condition.ready := by
  cases h with
  | absent => exact .inl rfl
  | creating => exact .inl rfl
  | running apart tells => exact .inr ⟨_, rfl, tells.type⟩
  | failed apart tells => exact .inr ⟨_, rfl, tells.type⟩

/-- A report leads from a lawful status to a lawful one. -/
theorem Lawful.record (h : Lawful old) (now : Instant) (r : Report) :
    Lawful (some ((old.getD {}).record now r)) := by
  cases r with
  | running =>
    obtain ⟨c, hconditions, htells, hsilent⟩ :=
      Condition.reportAll_tells h.conditions "True" healthyReason none now
    rw [Status.record, recordRunning, hconditions]
    exact .running h.apart htells hsilent
  | failure code message =>
    obtain ⟨c, hconditions, htells, -⟩ := Condition.reportAll_tells h.conditions "False"
      (failureReason code) (some message) now
    obtain ⟨earlier, last, hevents, rfl, hapart⟩ := Event.apart_fail h.apart code message now
    have hevents : Event.fail last.code message now (old.getD {}).events = earlier ++ [last] :=
      hevents
    rw [Status.record, recordFailure, hconditions, hevents]
    exact .failed hapart htells

/-- A lawful status is lawful when it is read back. -/
theorem Lawful.reread {status : Status} (h : Lawful (some status)) :
    Lawful (some (Document.reread status)) := by
  cases h with
  | creating => exact .creating
  | running apart tells silent =>
    rw [reread_mk]
    exact .running apart.reread tells.reread ((Condition.reread_parts _).2.2.2.trans silent)
  | @failed earlier last c apart tells =>
    have hcode : (Document.reread last).code = last.code := by rw [Event.reread_eq]
    have hevents : (earlier ++ [last]).map Document.reread =
        earlier.map Document.reread ++ [Document.reread last] := List.map_append
    have hapart := apart.reread
    rw [hevents] at hapart
    rw [reread_mk, hevents]
    exact .failed hapart (hcode ▸ tells.reread)

/-- The history was read back: writing and reading it again does not change it. -/
def Kept (status : Option Status) : Prop := ∀ e ∈ historyOf status, Document.reread e = e

theorem kept_reread (status : Status) : Kept (some (Document.reread status)) := by
  intro e he
  have hhistory : historyOf (some (Document.reread status)) =
      status.events.map Document.reread := congrArg Status.events (reread_mk ..)
  obtain ⟨e, -, rfl⟩ := List.mem_map.mp (hhistory ▸ he)
  exact e.reread_reread

/-- A history that was read back goes on when a report is written and read back. -/
theorem Kept.continues (h : Kept old) (now : Instant) (r : Report) :
    Event.Continues (historyOf old)
      (historyOf (some (Document.reread ((old.getD {}).record now r)))) := by
  have hhistory : historyOf (some (Document.reread ((old.getD {}).record now r))) =
      ((old.getD {}).record now r).events.map Document.reread :=
    congrArg Status.events (reread_mk ..)
  have hkept : ∀ {events : List Event}, (∀ e ∈ events, Document.reread e = e) →
      events.map Document.reread = events := fun h =>
    (List.map_congr_left h).trans (List.map_id' _)
  rw [hhistory]
  cases r with
  | running =>
    have hsame : ((old.getD {}).record now .running).events.map Document.reread = historyOf old :=
      hkept h
    exact hsame ▸ .refl _
  | failure code message =>
    have hevents : ((old.getD {}).record now (.failure code message)).events =
        Event.fail code message now (historyOf old) := rfl
    rw [hevents]
    rcases Event.fail_cases code message now (historyOf old) with
      ⟨earlier, last, hold, -, hfail⟩ | ⟨-, hfail⟩
    · rw [Kept, hold] at h
      obtain ⟨hearlier, hlast⟩ := List.forall_mem_append.mp h
      rw [hfail, hold, List.map_append, hkept hearlier, List.map_singleton,
        Event.reread_extended (hlast last List.mem_cons_self)]
      exact .extended earlier last _ []
    · rw [hfail, List.map_append, hkept h]
      exact .added _ _

/-- A lawful status that goes on from an older one. -/
structure Succeeds (old new : Option Status) : Prop where
  lawful : Lawful new
  moves : Phase.Moves (old.map phase) (new.map phase)
  continues : Event.Continues (historyOf old) (historyOf new)

/-- A report moves the phase of a lawful status on, or leaves it. -/
theorem Lawful.moves_record (h : Lawful old) (now : Instant) (r : Report) :
    Phase.Moves (old.map phase) (some ((old.getD {}).record now r).phase) := by
  cases h with
  | absent =>
    cases r with
    | running => exact .inr ⟨.running, by decide, rfl⟩
    | failure => exact .inr ⟨.failed, by decide, rfl⟩
  | creating =>
    cases r with
    | running => exact .inr ⟨.running, by decide, rfl⟩
    | failure => exact .inr ⟨.failed, by decide, rfl⟩
  | running =>
    cases r with
    | running => exact .inl rfl
    | failure => exact .inr ⟨.failed, List.mem_singleton_self _, rfl⟩
  | failed =>
    cases r with
    | running => exact .inr ⟨.running, List.mem_singleton_self _, rfl⟩
    | failure => exact .inl rfl

/-- What a pass can leave behind as the status: the one it found, that a deployment is being
created where there was none, or what a report makes of the one it found. -/
inductive Left (old : Option Status) : Option Status → Prop
  | same : Left old old
  | creating (h : old = none) :
      Left old (some { phase := .creating, events := [], conditions := [] })
  | recorded (now : Instant) (r : Report) :
      Left old (some (Document.reread ((old.getD {}).record now r)))

theorem Left.succeeds (h : Left old new) (lawful : Lawful old) (kept : Kept old) :
    Succeeds old new := by
  cases h with
  | same => exact ⟨lawful, .inl rfl, .refl _⟩
  | creating hnone =>
    subst hnone
    exact ⟨.creating, .inr ⟨_, List.mem_cons_self, rfl⟩, .refl _⟩
  | recorded now r =>
    have hphase : (Document.reread ((old.getD {}).record now r)).phase =
        ((old.getD {}).record now r).phase := Document.ofVal_toVal _
    refine ⟨(lawful.record now r).reread, ?_, kept.continues now r⟩
    rw [Option.map_some, hphase]
    exact lawful.moves_record now r

theorem Left.kept (h : Left old new) (kept : Kept old) : Kept new := by
  cases h with
  | same => exact kept
  | creating => exact fun e he => absurd he List.not_mem_nil
  | recorded => exact kept_reread _

end Status

end ClusterOperator
