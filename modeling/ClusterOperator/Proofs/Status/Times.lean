import ClusterOperator.Proofs.Status.Lawful

/-!
# Reports at different times

A report that is made at another time makes the same of a status but for the times in it. Whether it
changes the status at all does not depend on the time either, as long as this is none that the last
entry of the history shows: a failure with the code of this entry moves its time, and only at the
very moment that the entry shows is there nothing to move.

## Main definitions

* `Status.withoutTimes`: a status without the times in it.
* `Status.ShowsAt`: the last entry of the history shows a moment.

## Main results

* `Status.withoutTimes_record`: a report at two times.
* `Status.record_eq_iff`: a report changes a status at both of two times, or at neither.
-/

namespace ClusterOperator

/-- An entry of the history without its times. -/
def Event.withoutTimes (e : Event) : Event :=
  { e with firstAppearTime := none, lastTransitionTime := none }

/-- A condition without its times. -/
def Condition.withoutTimes (c : Condition) : Condition :=
  { c with lastProbeTime := none, lastTransitionTime := none }

namespace Status

/-- A status without the times in it. -/
def withoutTimes (s : Status) : Status where
  phase := s.phase
  events := s.events.map Event.withoutTimes
  conditions := s.conditions.map Condition.withoutTimes

/-- The last entry of the history shows a moment. -/
def ShowsAt (s : Status) (moment : Instant) : Prop :=
  ∃ last, s.lastEvent? = some last ∧ last.lastTransitionTime = some moment

end Status

/-! ### A report at two times -/

theorem Condition.withoutTimes_report (c : Condition) (value reason : String)
    (message : Option String) (now now' : Instant) :
    (c.report value reason message now).withoutTimes =
      (c.report value reason message now').withoutTimes := by
  unfold report
  split <;> rfl

theorem Condition.withoutTimes_reportAll (value reason : String) (message : Option String)
    (now now' : Instant) (cs : List Condition) :
    (reportAll value reason message now cs).map withoutTimes =
      (reportAll value reason message now' cs).map withoutTimes := by
  induction cs with
  | nil => rfl
  | cons c rest ih =>
    rw [reportAll, reportAll]
    split
    · rw [List.map_cons, List.map_cons, withoutTimes_report c value reason message now now']
    · rw [List.map_cons, List.map_cons, ih]

theorem Event.withoutTimes_fail (code : Signed32) (message : String) (now now' : Instant)
    (old : List Event) :
    (fail code message now old).map withoutTimes =
      (fail code message now' old).map withoutTimes := by
  rcases fail_cases code message now old with ⟨earlier, last, rfl, hcode, hfail⟩ | ⟨hne, hfail⟩
  · rw [hfail, fail_append_same earlier hcode message now', List.map_append, List.map_append]
    rfl
  · rw [hfail, fail_fresh hne, List.map_append, List.map_append]
    rfl

namespace Status

variable {s : Status} {now : Instant} {code : Signed32} {message : String}

/-- A report makes the same of a status at any two times, but for the times in it. -/
theorem withoutTimes_record (s : Status) (r : Report) (now now' : Instant) :
    (s.record now r).withoutTimes = (s.record now' r).withoutTimes := by
  cases r with
  | running =>
    exact congrArg (Status.mk .running _)
      (Condition.withoutTimes_reportAll "True" healthyReason none now now' s.conditions)
  | failure code message =>
    exact congrArg₂ (Status.mk .failed) (Event.withoutTimes_fail code message now now' s.events)
      (Condition.withoutTimes_reportAll "False" (failureReason code) (some message) now now'
        s.conditions)

/-- A failure changes a status unless the last entry shows the very moment of the report. -/
theorem showsAt_of_recordFailure_eq (h : s.recordFailure code message now = s) :
    s.ShowsAt now := by
  have hevents : Event.fail code message now s.events = s.events := congrArg Status.events h
  rcases Event.fail_cases code message now s.events with
    ⟨earlier, last, hold, -, hfail⟩ | ⟨-, hfail⟩
  · rw [hevents, hold] at hfail
    have hlast := List.singleton_inj.mp (List.append_cancel_left hfail)
    refine ⟨last, ?_, congrArg Event.lastTransitionTime hlast⟩
    rw [lastEvent?, hold, List.getLast?_concat]
  · have hlength := congrArg List.length (hevents.symm.trans hfail)
    rw [List.length_append] at hlength
    exact absurd hlength (Nat.ne_of_lt (Nat.lt_succ_self _))

/-- A report changes a status at both of two times or at neither, if the last entry shows none of
them. -/
theorem record_eq_iff {r : Report} {now' : Instant} (h : ¬ s.ShowsAt now) (h' : ¬ s.ShowsAt now') :
    s.record now r = s ↔ s.record now' r = s := by
  cases r with
  | running =>
    have steady : ∀ time, s.record time .running = s → s.Steady := fun time heq =>
      heq ▸ s.steady_recordRunning time
    exact ⟨fun heq => (steady now heq).recordRunning_eq now',
      fun heq => (steady now' heq).recordRunning_eq now⟩
  | failure code message =>
    exact iff_of_false (fun heq => h (showsAt_of_recordFailure_eq heq))
      fun heq => h' (showsAt_of_recordFailure_eq heq)

end Status

end ClusterOperator
