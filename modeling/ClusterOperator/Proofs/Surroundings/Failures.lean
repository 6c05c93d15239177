import ClusterOperator.Proofs.Health.Polling
import ClusterOperator.Proofs.Surroundings.Frame

/-!
# Programs that stop at failures

A candid program stops at the first request that fails, and at the first panic, and hands on what it
was; of its own accord it stops only for a fault. So how it ended tells whether anything went wrong:
if no failure poses as a fault, it ends with a fault or with a result exactly if nothing did. A
status that cannot be written counts for nothing here: candid programs leave declarations alone.

## Main definitions

* `Surroundings.steps`, `Surroundings.Stumbles`: the calls of a run, and whether one goes wrong.
* `Surroundings.Gentle`: no failure poses as a fault.
* `Program.Candid`, `Pass.Candid`: programs that stop at failures.

## Main results

* `Surroundings.stumbles_bind`: what goes wrong in a program after another one.
* `Pass.Candid.bind`: candid programs after each other are candid.
* `Program.Candid.stumbles_iff`: a candid program tells whether anything went wrong.
* `Program.Candid.eq_fault`: a candid program tells the truth about faults.
-/

namespace ClusterOperator

/-- A reason to stop that is a fault of the deployment. -/
def Stop.IsFault (stop : Stop) : Prop := ∃ fault, stop = .error (.fatal fault)

/-- A request about another object writes no status. -/
theorem Request.verb_ne_updateStatus {r : Request} (h : r.kind ≠ .declaration) :
    r.verb ≠ .updateStatus := by
  cases r with
  | updateStatus d => exact absurd rfl h
  | _ => exact nofun

/-- A call that writes a status or reads the clock. -/
def Call.Reports (c : Call) : Prop := c = .clock ∨ ∃ d, c = .request (.updateStatus d)

namespace Surroundings

variable {α β : Type} (u : Surroundings)

/-! ### What goes wrong in a run -/

/-- The calls of a run, each with the scene in which it is made. -/
def steps : Program α → Scene → List (Call × Scene)
  | .done _, _ => []
  | .call c next, scene =>
    (c, scene) :: steps (next (u.world.reply c scene).1) (u.world.reply c scene).2

/-- A call goes wrong: a request fails, but for those to write a status, or there is a panic. -/
def Fails : Call → Scene → Prop
  | .request r, scene => r.verb ≠ .updateStatus ∧ ∃ e, (u.answer r scene).1 = .error e
  | .poll limit targets, _ => Polling.run limit (targets.map (Target.job u.probe)) = .error .panic
  | .heal _ _, _ => u.healed = .panicked
  | .clock, _ => False

/-- A call of a run goes wrong. -/
def Stumbles (p : Program α) (scene : Scene) : Prop :=
  ∃ step ∈ u.steps p scene, u.Fails step.1 step.2

variable {u}

theorem steps_bind (p : Program α) (f : α → Program β) (scene : Scene) :
    u.steps (p >>= f) scene =
      u.steps p scene ++ u.steps (f (u.run p scene).1) (u.run p scene).2 := by
  induction p generalizing scene with
  | done a => rfl
  | call c next ih => exact congrArg ((c, scene) :: ·) (ih _ _)

/-- The calls of a program that may stop early are those up to its stop. -/
theorem steps_pass_bind (x : Pass α) (f : α → Pass β) (scene : Scene) :
    u.steps (x >>= f).run scene = u.steps x.run scene ++
      match u.pass x scene with
      | (.ok a, left) => u.steps (f a).run left
      | (.error _, _) => [] := by
  have h := u.steps_bind x.run (ExceptT.bindCont f) scene
  refine Eq.trans h ?_
  unfold pass
  rcases u.run x.run scene with ⟨_ | a, left⟩ <;> rfl

/-- The calls of a run are those that the program can make. -/
theorem steps_of_within {P : Call → Prop} {p : Program α} (h : p.Within P) {scene : Scene} :
    ∀ step ∈ u.steps p scene, P step.1 := by
  induction p generalizing scene with
  | done a => exact fun _ hstep => nomatch hstep
  | call c next ih => exact List.forall_mem_cons.mpr ⟨h.1, ih _ (h.2 _)⟩

/-- Something goes wrong in a program after another one if it does in one of the two. -/
theorem stumbles_bind {p : Program α} {f : α → Program β} {scene : Scene} :
    u.Stumbles (p >>= f) scene ↔
      u.Stumbles p scene ∨ u.Stumbles (f (u.run p scene).1) (u.run p scene).2 := by
  unfold Stumbles
  rw [steps_bind]
  constructor
  · rintro ⟨step, hstep, hfails⟩
    exact (List.mem_append.mp hstep).imp (⟨step, ·, hfails⟩) (⟨step, ·, hfails⟩)
  · rintro (⟨step, hstep, hfails⟩ | ⟨step, hstep, hfails⟩)
    · exact ⟨step, List.mem_append_left _ hstep, hfails⟩
    · exact ⟨step, List.mem_append_right _ hstep, hfails⟩

theorem stumbles_call {c : Call} {next : c.Reply → Program α} {scene : Scene} :
    u.Stumbles (.call c next) scene ↔ u.Fails c scene ∨
      u.Stumbles (next (u.world.reply c scene).1) (u.world.reply c scene).2 := by
  unfold Stumbles
  constructor
  · rintro ⟨step, hstep, hfails⟩
    rcases List.mem_cons.mp hstep with rfl | hstep
    · exact .inl hfails
    · exact .inr ⟨step, hstep, hfails⟩
  · rintro (hfails | ⟨step, hstep, hfails⟩)
    · exact ⟨(c, scene), List.mem_cons_self, hfails⟩
    · exact ⟨step, List.mem_cons_of_mem _ hstep, hfails⟩

theorem not_stumbles_done {a : α} {scene : Scene} : ¬ u.Stumbles (.done a) scene :=
  fun ⟨_, hstep, _⟩ => List.not_mem_nil hstep

/-- Writing a status and reading the clock do not count as going wrong. -/
theorem not_stumbles_of_within {p : Program α} (h : p.Within Call.Reports) (scene : Scene) :
    ¬ u.Stumbles p scene := by
  induction p generalizing scene with
  | done a => exact not_stumbles_done
  | call c next ih =>
    rw [stumbles_call]
    rintro (hfails | hlater)
    · rcases h.1 with rfl | ⟨d, rfl⟩
      · exact hfails
      · exact hfails.1 rfl
    · exact ih _ (h.2 _) _ hlater

variable (u) in
/-- No failure poses as a fault. -/
structure Gentle : Prop where
  failure : ∀ earlier r f, u.failure earlier r = some f → f.error.isFatal = false
  refusal : ∀ why, (u.refusal why).isFatal = false

theorem Gentle.answer (gentle : u.Gentle) {r : Request} {scene : Scene} {e : Error}
    (h : (u.answer r scene).1 = .error e) : e.isFatal = false := by
  unfold Surroundings.answer at h
  split at h
  · obtain ⟨why, -, rfl⟩ := mapError_eq_error.mp h
    exact gentle.refusal why
  · next f hf =>
    cases h
    exact gentle.failure _ _ f hf

theorem not_isFault_of_isFatal {e : Error} (h : e.isFatal = false) : ¬ (Stop.error e).IsFault := by
  rintro ⟨fault, ⟨⟩⟩
  cases h

end Surroundings

/-! ### Candid programs -/

namespace Polling

theorem conclude_eq_error {slots : List Slot} {stop : Stop} (h : conclude slots = .error stop) :
    stop = .panic ∨ ∃ slot ∈ slots, ∃ fault, slot.outcome = .unwell fault ∧
      stop = .error (.fatal fault) := by
  induction slots with
  | nil => cases h
  | cons slot rest ih =>
    rw [conclude] at h
    split at h
    · rcases ih h with hpanic | ⟨later, hlater, hfault⟩
      · exact .inl hpanic
      · exact .inr ⟨later, List.mem_cons_of_mem _ hlater, hfault⟩
    · cases h
      exact .inl rfl
    · next fault hfault =>
      split at h
      · cases h
        exact .inl rfl
      · cases h
        exact .inr ⟨slot, List.mem_cons_self, fault, hfault, rfl⟩

/-- Polling that does not end well ends by a panic or with the fault of a pod. -/
theorem run_eq_error {limit : Nat} {jobs : List Job} {stop : Stop}
    (h : run limit jobs = .error stop) :
    stop = .panic ∨ ∃ job ∈ jobs, ∃ fault, job.outcome = .unwell fault ∧
      stop = .error (.fatal fault) := by
  refine (conclude_eq_error h).imp_right fun ⟨slot, hslot, fault, hfault, hstop⟩ => ?_
  have houtcomes := List.mem_map_of_mem (f := Slot.outcome) hslot
  rw [map_outcome_timeline] at houtcomes
  obtain ⟨job, hjob, houtcome⟩ := List.mem_map.mp houtcomes
  exact ⟨job, hjob, fault, houtcome.trans hfault, hstop⟩

end Polling

/-- A program that stops at failures, and of its own accord only for faults of a kind. -/
inductive Program.Candid {α : Type} (Q : Fault → Prop) : Program (Except Stop α) → Prop
  | ok (a : α) : Candid Q (.done (.ok a))
  | fault {f : Fault} (h : Q f) : Candid Q (.done (.error (.error (.fatal f))))
  | request {r : Request} {next : Except Error r.Result → Program (Except Stop α)}
      (about : r.kind ≠ .declaration) (stops : ∀ e, next (.error e) = .done (.error (.error e)))
      (goes : ∀ a, Candid Q (next (.ok a))) : Candid Q (.call (.request r) next)
  | poll {limit : Nat} {targets : List Target}
      {next : Except Stop Unit → Program (Except Stop α)}
      (tells : ∀ probe, ∀ t ∈ targets, ∀ f, (t.job probe).outcome = .unwell f → Q f)
      (stops : ∀ stop, next (.error stop) = .done (.error stop))
      (goes : Candid Q (next (.ok ()))) : Candid Q (.call (.poll limit targets) next)

namespace Program

variable {α β : Type} {Q : Fault → Prop} {u : Surroundings}

theorem Candid.bindCont {p : Program (Except Stop α)} {f : α → Pass β} (hp : p.Candid Q)
    (hf : ∀ a, (f a).run.Candid Q) : Candid Q (p.bind (ExceptT.bindCont f)) := by
  induction hp with
  | ok a => exact hf a
  | fault h => exact .fault h
  | request about stops goes ih =>
    exact .request about (fun e => congrArg (Program.bind · _) (stops e)) ih
  | poll tells stops goes ih =>
    exact .poll tells (fun stop => congrArg (Program.bind · _) (stops stop)) ih

/-- A candid program stops for something that is no fault exactly if anything went wrong. -/
theorem Candid.stumbles_iff {p : Program (Except Stop α)} (h : p.Candid Q) (gentle : u.Gentle)
    (scene : Scene) :
    u.Stumbles p scene ↔ ∃ stop, (u.run p scene).1 = .error stop ∧ ¬ stop.IsFault := by
  induction h generalizing scene with
  | ok a => exact iff_of_false Surroundings.not_stumbles_done fun ⟨_, h, _⟩ => nomatch h
  | fault h =>
    refine iff_of_false Surroundings.not_stumbles_done ?_
    rintro ⟨_, ⟨⟩, hstop⟩
    exact hstop ⟨_, rfl⟩
  | @request r next about stops goes ih =>
    rw [Surroundings.stumbles_call]
    have hrun : u.run (.call (.request r) next) scene =
        u.run (next (u.answer r scene).1) (u.requested r scene) := rfl
    rw [hrun]
    show _ ∨ u.Stumbles (next (u.answer r scene).1) (u.requested r scene) ↔ _
    cases hanswer : (u.answer r scene).1 with
    | error e =>
      refine iff_of_true (.inl ⟨Request.verb_ne_updateStatus about, e, hanswer⟩) ⟨.error e, ?_,
        Surroundings.not_isFault_of_isFatal (gentle.answer hanswer)⟩
      rw [stops]
      rfl
    | ok a =>
      refine Iff.trans (or_iff_right ?_) (ih a _)
      rintro ⟨-, e, he⟩
      cases hanswer.symm.trans he
  | @poll limit targets next tells stops goes ih =>
    rw [Surroundings.stumbles_call]
    let polled := Polling.run limit (targets.map (Target.job u.probe))
    have hrun : u.run (.call (.poll limit targets) next) scene =
        u.run (next polled) (scene.after (.poll limit targets)) := rfl
    rw [hrun]
    show polled = .error .panic ∨ u.Stumbles (next polled) (scene.after _) ↔ _
    cases hpolled : polled with
    | error stop =>
      rw [stops]
      constructor
      · rintro (hpanic | hlater)
        · exact ⟨stop, rfl, Except.error.inj hpanic ▸ fun ⟨_, h⟩ => nomatch h⟩
        · exact absurd hlater Surroundings.not_stumbles_done
      · rintro ⟨_, ⟨⟩, hstop⟩
        rcases Polling.run_eq_error hpolled with rfl | ⟨_, -, fault, -, rfl⟩
        · exact .inl rfl
        · exact absurd ⟨fault, rfl⟩ hstop
    | ok result => exact Iff.trans (or_iff_right nofun) (ih _)

/-- A candid program tells the truth about faults. -/
theorem Candid.eq_fault {p : Program (Except Stop α)} (h : p.Candid Q) (gentle : u.Gentle)
    {scene : Scene} {f : Fault} (hrun : (u.run p scene).1 = .error (.error (.fatal f))) : Q f := by
  induction h generalizing scene with
  | ok a => cases hrun
  | fault h =>
    cases hrun
    exact h
  | @request r next about stops goes ih =>
    have hnext : (u.run (next (u.answer r scene).1) (u.requested r scene)).1 =
        .error (.error (.fatal f)) := hrun
    cases hanswer : (u.answer r scene).1 with
    | error e =>
      rw [hanswer, stops] at hnext
      cases hnext
      cases gentle.answer hanswer
    | ok a =>
      rw [hanswer] at hnext
      exact ih a hnext
  | @poll limit targets next tells stops goes ih =>
    have hnext : (u.run (next (Polling.run limit (targets.map (Target.job u.probe))))
        (scene.after (.poll limit targets))).1 = .error (.error (.fatal f)) := hrun
    cases hpolled : Polling.run limit (targets.map (Target.job u.probe)) with
    | error stop =>
      rw [hpolled, stops] at hnext
      cases hnext
      rcases Polling.run_eq_error hpolled with h | ⟨job, hjob, fault, hfault, hstop⟩
      · cases h
      · cases hstop
        obtain ⟨t, ht, rfl⟩ := List.mem_map.mp hjob
        exact tells u.probe t ht f hfault
    | ok result =>
      rw [hpolled] at hnext
      exact ih hnext

end Program

namespace Pass

variable {α β : Type} {Q : Fault → Prop}

/-- A pass that stops at failures, and of its own accord only for faults of a kind. -/
def Candid (Q : Fault → Prop) (x : Pass α) : Prop := Program.Candid Q x.run

theorem candid_pure (a : α) : Candid Q (pure a : Pass α) := .ok a

theorem candid_fault {f : Fault} (h : Q f) : Candid Q (fault f : Pass α) := .fault h

theorem candid_request {r : Request} (about : r.kind ≠ .declaration) :
    Candid Q (Pass.request r) :=
  .request about (fun _ => rfl) fun a => .ok a

theorem candid_poll {limit : Nat} {targets : List Target}
    (tells : ∀ probe, ∀ t ∈ targets, ∀ f, (t.job probe).outcome = .unwell f → Q f) :
    Candid Q (ExceptT.mk (Program.perform (.poll limit targets))) :=
  .poll tells (fun _ => rfl) (.ok ())

/-- Candid passes after each other are candid. -/
theorem Candid.bind {x : Pass α} {f : α → Pass β} (hx : Candid Q x)
    (hf : ∀ a, Candid Q (f a)) : Candid Q (x >>= f) :=
  Program.Candid.bindCont hx hf

end Pass

end ClusterOperator
