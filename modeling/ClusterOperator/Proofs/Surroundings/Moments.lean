import ClusterOperator.Proofs.Surroundings.Failures

/-!
# The moments of a run

What others see while a program runs: the scene at its start and after each of its calls. A program
that is ended from outside leaves one of these behind. What every call preserves holds at every
moment.

## Main definitions

* `Surroundings.moments`: the scenes of a run.

## Main results

* `Surroundings.run_mem_moments`: the last moment is the scene that a run leaves.
* `Surroundings.mem_moments_bind`: the moments of a program after another one.
* `Surroundings.moments_preserve_of_steps`, `Surroundings.moments_preserve`: what every call
  preserves holds at every moment.
-/

namespace ClusterOperator

namespace Surroundings

variable {α β : Type} {u : Surroundings} {scene m : Scene}

/-- The scenes of a run: at its start and after each call. -/
def moments (u : Surroundings) : Program α → Scene → List Scene
  | .done _, scene => [scene]
  | .call c next, scene =>
    scene :: u.moments (next (u.world.reply c scene).1) (u.world.reply c scene).2

/-- The last moment is the scene that a run leaves. -/
theorem run_mem_moments (u : Surroundings) (p : Program α) (scene : Scene) :
    (u.run p scene).2 ∈ u.moments p scene := by
  induction p generalizing scene with
  | done a => exact List.mem_singleton_self _
  | call c next ih => exact List.mem_cons_of_mem _ (ih _ _)

/-- A moment of two programs in a row is one of the first, or one of the second after it. -/
theorem mem_moments_bind {p : Program α} {f : α → Program β} (h : m ∈ u.moments (p >>= f) scene) :
    m ∈ u.moments p scene ∨ m ∈ u.moments (f (u.run p scene).1) (u.run p scene).2 := by
  induction p generalizing scene with
  | done a => exact .inr h
  | call c next ih =>
    rcases List.mem_cons.mp h with rfl | h
    · exact .inl List.mem_cons_self
    · exact (ih _ h).imp_left (List.mem_cons_of_mem _)

/-- What the calls of a run preserve holds at every moment of it. -/
theorem moments_preserve_of_steps {P : Store → Prop} {Q : Call → Prop}
    (step : ∀ r scene, Q (.request r) → P scene.store → P (u.answer r scene).2)
    {p : Program α} (hp : ∀ step ∈ u.steps p scene, Q step.1) (h : P scene.store) :
    ∀ m ∈ u.moments p scene, P m.store := by
  induction p generalizing scene with
  | done a =>
    intro m hm
    exact List.mem_singleton.mp hm ▸ h
  | call c next ih =>
    obtain ⟨hc, hnext⟩ := List.forall_mem_cons.mp hp
    have hreply : P (u.world.reply c scene).2.store := by
      cases c with
      | request r => exact step r scene hc h
      | _ => exact h
    exact List.forall_mem_cons.mpr ⟨h, ih _ hnext hreply⟩

/-- What every call of a kind preserves holds at every moment of a run of such calls. -/
theorem moments_preserve {P : Store → Prop} {Q : Call → Prop}
    (step : ∀ r scene, Q (.request r) → P scene.store → P (u.answer r scene).2)
    {p : Program α} (hp : p.Within Q) (h : P scene.store) :
    ∀ m ∈ u.moments p scene, P m.store :=
  moments_preserve_of_steps step (steps_of_within hp) h

/-- Documents are tidy at every moment. -/
theorem moments_tidy (keeps : u.KeepsTidy) (p : Program α) (tidy : scene.store.Tidy) :
    ∀ m ∈ u.moments p scene, m.store.Tidy :=
  moments_preserve (fun r _ _ => answer_tidy keeps r) p.within_true tidy

end Surroundings

end ClusterOperator
