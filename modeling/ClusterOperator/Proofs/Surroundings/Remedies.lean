import ClusterOperator.Proofs.Surroundings.Frame

/-!
# Remedies that take their time

A remedy may come to its end after a while, hang, or panic after a while. It is given up when its
time limit is reached, so that a pass sees of it only whether it panicked before, and that the clock
has moved on. A program that neither applies a remedy nor looks at the clock does the same whatever
the remedy and the clock are, and a program that applies no remedy does the same until one has been
applied.

## Main definitions

* `TimedRemedy`: what a remedy does, and after which time.
* `Surroundings.healing`, `Surroundings.withRemedy`: surroundings with another remedy, and with a
  clock that shows another time after it.
* `Call.Unhealing`, `Call.Asks`: calls that apply no remedy, and those to the API and the servers.

## Main results

* `Surroundings.run_of_asks`: runs that depend neither on the remedy nor on the clock.
* `Surroundings.run_withRemedy`: runs before a remedy is applied.
-/

namespace ClusterOperator

/-- What a remedy does, and after how many milliseconds. -/
structure TimedRemedy where
  remedy : Rehearsal.Remedy
  delay : Nat := 0

namespace TimedRemedy

/-- The remedy that does nothing. -/
def idle : TimedRemedy := { remedy := .returns }

/-- How a remedy ends under a limit of so many seconds. It is given up after them. -/
def healed (limit : Nat) (h : TimedRemedy) : Healed :=
  if h.delay ≤ limit * 1000 then h.remedy.healed else .returned

@[simp] theorem healed_idle (limit : Nat) : idle.healed limit = .returned := if_pos (Nat.zero_le _)

/-- Only a remedy that panics can do anything else than return. -/
theorem healed_eq_returned {limit : Nat} {h : TimedRemedy} (calm : h.remedy ≠ .panics) :
    h.healed limit = .returned := by
  obtain ⟨remedy, delay⟩ := h
  unfold healed
  split
  · cases remedy with
    | returns => rfl
    | hangs => rfl
    | panics => exact absurd rfl calm
  · rfl

end TimedRemedy

namespace Call

/-- Whether a call applies a remedy. -/
def isHeal : Call → Bool
  | heal _ _ => true
  | request _ | poll _ _ | clock => false

/-- A call to the orchestration API or to the servers. -/
def Asks : Call → Prop
  | request _ | poll _ _ => True
  | heal _ _ | clock => False

/-- A call that applies no remedy. -/
def Unhealing (c : Call) : Prop := c.isHeal = false

theorem Asks.unhealing {c : Call} (h : c.Asks) : c.Unhealing := by
  cases c with
  | heal limit d => exact h.elim
  | _ => rfl

end Call

/-- How often a remedy was applied. -/
def Scene.heals (scene : Scene) : Nat := scene.calls.countP Call.isHeal

theorem Scene.heals_after (scene : Scene) (c : Call) :
    (scene.after c).heals = scene.heals + if c.isHeal then 1 else 0 := by
  rw [heals, calls_after, List.countP_append, List.countP_singleton]
  rfl

namespace Surroundings

variable {α : Type} (u : Surroundings)

/-- The same surroundings with another end of the remedy and another clock. -/
def healing (healed : Healed) (clock : List Call → Instant) : Surroundings :=
  { u with healed, clock }

/-- The same surroundings with a remedy under a limit of so many seconds. Once it was applied the
clock shows another time. -/
def withRemedy (limit : Nat) (h : TimedRemedy) (late : List Call → Instant) : Surroundings :=
  u.healing (h.healed limit) fun earlier =>
    if earlier.any Call.isHeal then late earlier else u.clock earlier

/-- A program that only asks the orchestration API and the servers depends neither on the remedy nor
on the clock. -/
theorem run_of_asks {p : Program α} (h : p.Within Call.Asks) (healed : Healed)
    (clock : List Call → Instant) (scene : Scene) :
    (u.healing healed clock).run p scene = u.run p scene := by
  induction p generalizing scene with
  | done a => rfl
  | call c next ih =>
    cases c with
    | request r => exact ih _ (h.2 _) _
    | poll limit targets => exact ih _ (h.2 _) _
    | _ => exact h.1.elim

/-- A program that applies no remedy leaves the number of remedies as it is. -/
theorem heals_run {p : Program α} (h : p.Within Call.Unhealing) (scene : Scene) :
    (u.run p scene).2.heals = scene.heals := by
  obtain ⟨more, hmore, hnone⟩ := u.run_calls h scene
  have hzero : more.countP Call.isHeal = 0 :=
    List.countP_eq_zero.mpr fun c hc => by rw [hnone c hc]; decide
  rw [Scene.heals, hmore, List.countP_append, hzero]
  rfl

/-- Before a remedy is applied the clock is that of the surroundings. -/
theorem run_withRemedy {p : Program α} (h : p.Within Call.Unhealing) (limit : Nat)
    (remedy : TimedRemedy) (late : List Call → Instant) {scene : Scene} (hscene : scene.heals = 0) :
    (u.withRemedy limit remedy late).run p scene = u.run p scene := by
  induction p generalizing scene with
  | done a => rfl
  | call c next ih =>
    have hafter : ∀ store, (Scene.mk store (scene.calls ++ [c])).heals = 0 := fun store => by
      rw [Scene.heals, List.countP_append, List.countP_singleton, h.1]
      exact hscene
    cases c with
    | request r => exact ih _ (h.2 _) (hafter _)
    | poll limit targets => exact ih _ (h.2 _) (hafter _)
    | heal limit d => cases h.1
    | clock =>
      have hclock : (u.withRemedy limit remedy late).clock scene.calls = u.clock scene.calls := by
        have hany : scene.calls.any Call.isHeal = false :=
          List.any_eq_false.mpr (List.countP_eq_zero.mp hscene)
        exact if_neg (hany ▸ Bool.false_ne_true)
      have hnext := ih (u.clock scene.calls) (h.2 _) (hafter scene.store)
      refine Eq.trans ?_ hnext
      exact congrArg (fun now => ((u.withRemedy limit remedy late).run (next now) _)) hclock

end Surroundings

end ClusterOperator
