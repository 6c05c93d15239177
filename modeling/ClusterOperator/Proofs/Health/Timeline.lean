import ClusterOperator.Proofs.Health.Polling
import Mathlib.Algebra.GroupWithZero.Nat

/-!
# The times of polling

A request starts when the one that lies the limit before it is accounted for, and no request is
accounted for before it is answered. So at no time are more requests under way than the limit
allows, whatever the delays are, and polling is over after at most the sum of the delays.

## Main definitions

* `Polling.Slot.IsUnderWay`, `Polling.underWay`: the requests that are under way at a time.
* `Polling.Spaced`: requests that make way for those that lie a number of places behind them.

## Main results

* `Polling.spaced_timeline`: requests are spaced by the limit.
* `Polling.length_underWay_le`: at most as many requests as the limit are under way.
* `Polling.accounted_le`: how long polling takes.
-/

namespace ClusterOperator.Polling

/-- A request is under way from its start until it is answered. -/
def Slot.IsUnderWay (time : Nat) (s : Slot) : Bool := decide (s.start ≤ time ∧ time < s.finish)

/-- The requests that are under way at a time, of those that are made at all. -/
def underWay (limit : Nat) (jobs : List Job) (time : Nat) : List Slot :=
  ((timeline (max 1 limit) [] jobs).take (reached limit jobs)).filter (Slot.IsUnderWay time)

/-- Requests of which each is answered before one starts that lies so many places behind it. -/
def Spaced (places : Nat) : List Slot → Prop
  | [] => True
  | slot :: rest =>
    (∀ later ∈ rest.drop (places - 1), slot.finish ≤ later.start) ∧ Spaced places rest

variable {limit time : Nat} {before earlier : List Nat} {jobs : List Job} {slots : List Slot}

/-- A request that lies the limit behind a time at which one was accounted for starts no earlier.
The requests in between are accounted for at the times in `earlier`. -/
theorem le_start_of_accounted (hearlier : ∀ other ∈ earlier, time ≤ other) :
    ∀ slot ∈ (timeline limit (earlier ++ time :: before) jobs).drop (limit - 1 - earlier.length),
      time ≤ slot.start := by
  induction jobs generalizing earlier with
  | nil =>
    intro slot hslot
    rw [timeline, List.drop_nil] at hslot
    cases hslot
  | cons job rest ih =>
    have hhead : time ≤ (earlier ++ time :: before).head?.getD 0 := by
      cases earlier with
      | nil => exact Nat.le_refl _
      | cons first others => exact hearlier first List.mem_cons_self
    -- the request at the front is accounted for after those before it
    have hnext := fun finish =>
      @ih (max finish ((earlier ++ time :: before).head?.getD 0) :: earlier)
        (List.forall_mem_cons.mpr ⟨Nat.le_trans hhead (Nat.le_max_right _ _), hearlier⟩)
    rw [timeline]
    cases hplaces : limit - 1 - earlier.length with
    | zero =>
      have hrest : limit - 1 - (earlier.length + 1) = 0 := by omega
      rw [List.drop_zero]
      refine List.forall_mem_cons.mpr ⟨?_, ?_⟩
      · have hindex : limit - 1 ≤ earlier.length := by omega
        show time ≤ (earlier ++ time :: before)[limit - 1]?.getD 0
        rcases Nat.lt_or_eq_of_le hindex with hlt | heq
        · rw [List.getElem?_append_left hlt, List.getElem?_eq_getElem hlt]
          exact hearlier _ (List.getElem_mem hlt)
        · rw [heq, List.getElem?_append_right (Nat.le_refl _), Nat.sub_self]
          exact Nat.le_refl _
      · have hrest' := hnext ((earlier ++ time :: before)[limit - 1]?.getD 0 + job.delay)
        rw [List.length_cons, hrest, List.drop_zero] at hrest'
        exact hrest'
    | succ places =>
      have hrest : limit - 1 - (earlier.length + 1) = places := by omega
      have hrest' := hnext ((earlier ++ time :: before)[limit - 1]?.getD 0 + job.delay)
      rw [List.length_cons, hrest] at hrest'
      exact hrest'

/-- Requests are spaced by the limit. -/
theorem spaced_timeline (limit : Nat) (before : List Nat) (jobs : List Job) :
    Spaced limit (timeline limit before jobs) := by
  induction jobs generalizing before with
  | nil => trivial
  | cons job rest ih =>
    refine ⟨fun later hlater => ?_, ih _⟩
    have hnone : ∀ other ∈ ([] : List Nat), max (before[limit - 1]?.getD 0 + job.delay)
        (before.head?.getD 0) ≤ other := fun _ h => absurd h List.not_mem_nil
    have haccounted := le_start_of_accounted hnone later hlater
    exact Nat.le_trans (Nat.le_max_left _ _) haccounted

/-- Of spaced requests no more are under way at a time than the places between them. -/
theorem Spaced.length_filter_le (h : Spaced limit slots) (hpos : 0 < limit) (time : Nat) :
    (slots.filter (Slot.IsUnderWay time)).length ≤ limit := by
  induction slots with
  | nil => exact Nat.zero_le _
  | cons slot rest ih =>
    rw [List.filter_cons]
    split
    · next hunder =>
      have hbusy := of_decide_eq_true hunder
      have hlater : (rest.drop (limit - 1)).filter (Slot.IsUnderWay time) = [] := by
        refine List.filter_eq_nil_iff.mpr fun later hmem hlater => ?_
        have hstarted := of_decide_eq_true hlater
        have hspace := h.1 later hmem
        omega
      have hsplit : rest.filter (Slot.IsUnderWay time) =
          (rest.take (limit - 1)).filter (Slot.IsUnderWay time) := by
        have happend := congrArg (List.filter (Slot.IsUnderWay time))
          (List.take_append_drop (limit - 1) rest)
        rw [List.filter_append, hlater, List.append_nil] at happend
        exact happend.symm
      have hfew : ((rest.take (limit - 1)).filter (Slot.IsUnderWay time)).length ≤ limit - 1 :=
        Nat.le_trans (List.length_filter_le _ _) (List.length_take_le _ _)
      rw [hsplit, List.length_cons]
      omega
    · exact ih h.2

/-- At most as many requests as the limit are under way at a time, and at least one is allowed. -/
theorem length_underWay_le (limit : Nat) (jobs : List Job) (time : Nat) :
    (underWay limit jobs time).length ≤ max 1 limit := by
  have hsublist := (List.take_sublist (reached limit jobs)
    (timeline (max 1 limit) [] jobs)).filter (Slot.IsUnderWay time)
  exact Nat.le_trans hsublist.length_le
    ((spaced_timeline (max 1 limit) [] jobs).length_filter_le (by omega) time)

/-- Polling goes on for at most the sum of the delays. -/
theorem accounted_le (hbefore : ∀ other ∈ before, other ≤ time) :
    ∀ slot ∈ timeline limit before jobs, slot.accounted ≤ time + (jobs.map Job.delay).sum := by
  induction jobs generalizing before time with
  | nil => exact fun _ h => absurd h List.not_mem_nil
  | cons job rest ih =>
    have hstart : before[limit - 1]?.getD 0 ≤ time := by
      cases hfound : before[limit - 1]? with
      | none => exact Nat.zero_le _
      | some other => exact hbefore other (List.mem_of_getElem? hfound)
    have hhead : before.head?.getD 0 ≤ time := by
      cases before with
      | nil => exact Nat.zero_le _
      | cons first others => exact hbefore first List.mem_cons_self
    have haccounted : max (before[limit - 1]?.getD 0 + job.delay) (before.head?.getD 0) ≤
        time + job.delay := by omega
    have hlater : ∀ other ∈ max (before[limit - 1]?.getD 0 + job.delay) (before.head?.getD 0) ::
        before, other ≤ time + job.delay :=
      List.forall_mem_cons.mpr ⟨haccounted, fun other hother =>
        Nat.le_trans (hbefore other hother) (Nat.le_add_right _ _)⟩
    rw [timeline, List.map_cons, List.sum_cons, ← Nat.add_assoc]
    exact List.forall_mem_cons.mpr ⟨Nat.le_trans haccounted (Nat.le_add_right _ _), ih hlater⟩

end ClusterOperator.Polling
