import ClusterOperator.Proofs.Passes.History
import ClusterOperator.Proofs.Surroundings.Failures

/-!
# Passes that stop at failures

Applying children and checking the health stop at the first request that fails and at a panic, and
of their own accord only for a fault of the deployment. What is done between and after them does not
stop for a status that cannot be written. So a pass is aborted exactly if a request other than these
fails, or if there is a panic.

## Main definitions

* `orGiveUp`: what is done with the result of a step of a pass.

## Main results

* `candid_ensure`, `candid_check`: the steps of a pass stop at failures.
* `Surroundings.aborted_iff_of_candid`: the passes that a step aborts.
* `Surroundings.runPass_aborted_iff`: the passes that are aborted.
-/

namespace ClusterOperator

/-! ### Steps that stop at failures -/

/-- A declaration in a namespace has no plan only if it is at fault for a bad parameter. -/
theorem Plan.ofDeclaration_eq_error {d : Declaration} {domain space : String} {e : Error}
    (hspace : d.metadata.space = some space) (h : Plan.ofDeclaration d domain = .error e) :
    ∃ fault, e = .fatal fault ∧ fault.code = Fault.badParameter := by
  rw [ofDeclaration_of_space domain hspace] at h
  cases hmode : Mode.parse d.spec.type with
  | error fault =>
    rw [hmode] at h
    cases h
    exact ⟨fault, rfl, Mode.code_of_parse hmode⟩
  | ok mode =>
    cases hbackend : Backend.parse d.spec.database.type with
    | error fault =>
      rw [hmode, hbackend] at h
      cases h
      exact ⟨fault, rfl, Backend.code_of_parse hbackend⟩
    | ok backend =>
      rw [hmode, hbackend] at h
      by_cases hr : 0 ≤ (d.spec.replicas.getD defaultReplicas).val
      · cases (dif_pos hr).symm.trans h
      · cases (dif_neg hr).symm.trans h
        exact ⟨_, rfl, rfl⟩

theorem candid_apply {Q : Fault → Prop} (c : Child) (space : String) (desired : c.Object) :
    Pass.Candid Q (apply c space desired) := by
  have hkind := c.kind_ne_declaration
  refine (Pass.candid_request (r := .get _ _ _) hkind).bind fun found => ?_
  cases found with
  | none => exact (Pass.candid_request (r := .create _ _ _) hkind).bind fun _ => Pass.candid_pure _
  | some live =>
    simp only
    split
    · exact (Pass.candid_request (r := .update _ _ _) hkind).bind fun _ => Pass.candid_pure _
    · exact Pass.candid_pure _

theorem candid_applyAll {Q : Fault → Prop} (space : String)
    (children : List ((c : Child) × c.Object)) : Pass.Candid Q (applyAll space children) := by
  induction children with
  | nil => exact Pass.candid_pure _
  | cons child rest ih =>
    exact (candid_apply child.1 space child.2).bind fun _ => ih.bind fun _ => Pass.candid_pure _

/-- Applying the children of a declaration in a namespace stops at failures, or for a fault of the
declaration. -/
theorem candid_ensure {d : Declaration} {space : String} (hspace : d.metadata.space = some space)
    (domain : String) :
    Pass.Candid (fun fault => Plan.ofDeclaration d domain = .error (.fatal fault) ∧
      fault.code = Fault.badParameter) (ensure domain d) := by
  cases hplan : Plan.ofDeclaration d domain with
  | error e =>
    obtain ⟨fault, rfl, hcode⟩ := Plan.ofDeclaration_eq_error hspace hplan
    rw [ensure_of_error hplan]
    exact .fault ⟨rfl, hcode⟩
  | ok p =>
    rw [ensure_of_plan hplan]
    exact candid_applyAll p.space p.children

/-- The codes of the faults that a check finds. -/
def Fault.IsFound (fault : Fault) : Prop :=
  fault.code = replicaMismatch ∨ fault.code = quorumLost ∨ fault.code = serverUnreachable

/-- A check stops at failures, or for the fault that it finds. -/
theorem candid_check (limit : Nat) (d : Declaration) :
    Pass.Candid Fault.IsFound (check limit d) := by
  rw [check_eq]
  refine (Pass.candid_request (r := .get .statefulSet _ _) nofun).bind fun found => ?_
  cases found with
  | none => exact Pass.candid_fault (.inl rfl)
  | some workload =>
    simp only
    split
    · exact Pass.candid_fault (.inl rfl)
    · refine (Pass.candid_request (r := .list .pod _ _) nofun).bind fun pods => ?_
      unfold checkReady
      simp only
      split
      · exact Pass.candid_fault (.inr (.inl rfl))
      · refine (Pass.candid_poll fun probe t _ fault hfault => ?_).bind fun _ => Pass.candid_pure _
        exact .inr (.inr (Target.code_of_unwell hfault))

/-! ### What is done with the result of a step -/

/-- What is done with the result of a step: a pass that was stopped gives up, another one goes
on. -/
def orGiveUp {α : Type} (d : Declaration) (next : α → Program Outcome) :
    Except Stop α → Program Outcome
  | .error stop => giveUp d stop
  | .ok a => next a

theorem runPass_eq_orGiveUp (settings : Settings) (d : Declaration) :
    runPass settings d = (ensure settings.clusterDomain d.withDefaults).run >>=
      orGiveUp d.withDefaults fun _ => afterEnsure settings d.phase d.withDefaults := by
  rw [runPass_eq]
  exact congrArg (_ >>= ·) (funext fun result => by cases result <;> rfl)

theorem checkAndReport_eq_orGiveUp (settings : Settings) (d : Declaration) :
    checkAndReport settings d = (check settings.healthConcurrency d).run >>=
      orGiveUp d fun _ => do
        let _ ← report .running d
        return .converged := by
  rw [checkAndReport]
  exact congrArg (_ >>= ·) (funext fun result => by cases result <;> rfl)

theorem Call.allowsReports_reports (d : Declaration) : AllowsReports Reports d :=
  ⟨.inl rfl, fun _ => .inr ⟨_, rfl⟩⟩

namespace Surroundings

variable {α : Type} {Q : Fault → Prop} {u : Surroundings} {settings : Settings}
  {space name : String} {d : Declaration} {scene : Scene} {stop : Stop} {code : Signed32}

/-! ### Passes that are aborted -/

theorem run_giveUp_aborted_iff :
    (u.run (giveUp d stop) scene).1 = .aborted ↔ ¬ stop.IsFault := by
  unfold giveUp
  split
  · next fault =>
    refine iff_of_false (fun h => ?_) fun h => h ⟨fault, rfl⟩
    rw [run_bind] at h
    cases h
  · next e hne => exact iff_of_true rfl fun ⟨fault, h⟩ => hne fault (Stop.error.inj h)
  · exact iff_of_true rfl fun ⟨_, h⟩ => nomatch h

/-- A step that stops at failures aborts a pass exactly if something goes wrong in it. -/
theorem aborted_iff_of_candid (gentle : u.Gentle) {x : Pass α} (candid : x.Candid Q)
    {next : α → Program Outcome}
    (hnext : ∀ a left, (u.run (next a) left).1 = .aborted ↔ u.Stumbles (next a) left)
    (scene : Scene) : (u.run (x.run >>= orGiveUp d next) scene).1 = .aborted ↔
      u.Stumbles (x.run >>= orGiveUp d next) scene := by
  rw [run_bind, stumbles_bind, Program.Candid.stumbles_iff candid gentle]
  cases hresult : (u.run x.run scene).1 with
  | error stop =>
    have hreports := giveUp_within (Call.allowsReports_reports d) stop
    have hgiveUp := not_stumbles_of_within (u := u) hreports (u.run x.run scene).2
    refine run_giveUp_aborted_iff.trans ⟨fun h => .inl ⟨stop, rfl, h⟩, ?_⟩
    rintro (⟨_, ⟨⟩, h⟩ | h)
    · exact h
    · exact absurd h hgiveUp
  | ok a => exact (hnext a _).trans (or_iff_right fun ⟨_, h, _⟩ => nomatch h).symm

theorem checkAndReport_aborted_iff (gentle : u.Gentle) (settings : Settings) (d : Declaration)
    (scene : Scene) : (u.run (checkAndReport settings d) scene).1 = .aborted ↔
      u.Stumbles (checkAndReport settings d) scene := by
  rw [checkAndReport_eq_orGiveUp]
  refine aborted_iff_of_candid gentle (candid_check _ d) (fun _ left => ?_) scene
  have hreports := report_within (Call.allowsReports_reports d) .running
  refine iff_of_false (fun h => ?_)
    (not_stumbles_of_within (hreports.bind fun _ => Program.within_pure _) left)
  rw [run_bind] at h
  cases h

/-- Preparing comes to nothing exactly if the remedy panics. -/
theorem prepare_eq_none_iff (settings : Settings) (previous : Phase) (d : Declaration)
    (scene : Scene) : (u.run (prepare settings previous d) scene).1 = none ↔
      u.Stumbles (prepare settings previous d) scene := by
  cases previous with
  | none =>
    have hreports : (prepare settings .none d).Within Call.Reports :=
      prepare_within (fun _ => (Call.allowsReports_reports d).write) Phase.noConfusion
    refine iff_of_false (fun h => ?_) (not_stumbles_of_within hreports scene)
    rw [prepare, run_bind] at h
    cases h
  | failed =>
    have hheal : u.Stumbles (Program.perform (.heal settings.healTimeout d)) scene ↔
        u.healed = .panicked := stumbles_call.trans (or_iff_left not_stumbles_done)
    rw [prepare, run_bind, stumbles_bind, hheal, run_heal]
    cases u.healed with
    | returned =>
      refine iff_of_false (Option.some_ne_none d) ?_
      rintro (hpanic | hlater)
      · cases hpanic
      · exact not_stumbles_done hlater
    | panicked => exact iff_of_true rfl (.inl rfl)
  | _ => exact iff_of_false (Option.some_ne_none d) not_stumbles_done

theorem afterEnsure_aborted_iff (gentle : u.Gentle) (settings : Settings) (previous : Phase)
    (d : Declaration) (scene : Scene) :
    (u.run (afterEnsure settings previous d) scene).1 = .aborted ↔
      u.Stumbles (afterEnsure settings previous d) scene := by
  rw [afterEnsure, run_bind, stumbles_bind, ← prepare_eq_none_iff]
  cases (u.run (prepare settings previous d) scene).1 with
  | none => exact iff_of_true rfl (.inl rfl)
  | some prepared =>
    exact (checkAndReport_aborted_iff gentle settings prepared _).trans
      (or_iff_right (Option.some_ne_none prepared)).symm

/-- A pass over a deployment in a namespace is aborted exactly if something goes wrong in it. -/
theorem runPass_aborted_iff (gentle : u.Gentle) (settings : Settings)
    (named : d.IsNamed space name) (scene : Scene) :
    (u.run (runPass settings d) scene).1 = .aborted ↔ u.Stumbles (runPass settings d) scene := by
  rw [runPass_eq_orGiveUp]
  exact aborted_iff_of_candid gentle (candid_ensure named.withDefaults.space _)
    (fun _ left => afterEnsure_aborted_iff gentle settings d.phase d.withDefaults left) scene

end Surroundings

end ClusterOperator
