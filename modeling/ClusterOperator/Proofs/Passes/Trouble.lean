import ClusterOperator.Proofs.ClientErrors
import ClusterOperator.Proofs.Passes.Aborted
import ClusterOperator.Proofs.Passes.Candid
import ClusterOperator.Proofs.Passes.Reports
import ClusterOperator.Proofs.Surroundings.Losing

/-!
# Trouble with the orchestration API

A request that fails says nothing about the deployment. If it fails to fetch the deployment, this is
an error of the pass; any other failure aborts the pass, and so does a panic. Only a declaration
that makes no sense and a check that finds a fault make a pass fail, and then the fault is recorded
in the status. Whether the status can be written makes no difference to how a pass ends.

## Main definitions

* `Surroundings.Raises`: the faults of a pass.

## Main results

* `Surroundings.afterEnsure_failed`, `Surroundings.runPass_failed`: the faults that a pass records.
* `Surroundings.reconcile_losing`: status writes make no difference to how a pass ends.
* `Surroundings.reconcile_fetch`: the passes over what cannot be fetched.
* `trouble_is_no_fault`: what becomes of failures, from the response to the outcome of a pass.
-/

namespace ClusterOperator

open Web (Message Response)

namespace Surroundings

variable {α : Type} {u : Surroundings} {settings : Settings} {space name : String}
  {d : Declaration} {scene : Scene} {stop : Stop} {code : Signed32}

/-! ### Passes that fail -/

/-- A pass that gives up without being aborted reports a fault. -/
theorem run_giveUp_of_failed (h : (u.run (giveUp d stop) scene).1 = .failed code) :
    ∃ fault, stop = .error (.fatal fault) ∧ fault.code = code := by
  unfold giveUp at h
  split at h
  · next fault =>
    rw [run_bind] at h
    exact ⟨fault, rfl, Outcome.failed.inj h⟩
  · cases h
  · cases h

/-- A pass fails by the fault of a step or after it. -/
theorem run_orGiveUp_of_failed {x : Pass α} {next : α → Program Outcome}
    (h : (u.run (x.run >>= orGiveUp d next) scene).1 = .failed code) :
    (∃ fault left, u.pass x scene = (.error (.error (.fatal fault)), left) ∧ fault.code = code ∧
      (u.run (x.run >>= orGiveUp d next) scene).2 =
        (u.run (report (.failure code fault.message) d) left).2) ∨
    ∃ a left, u.pass x scene = (.ok a, left) ∧
      u.run (x.run >>= orGiveUp d next) scene = u.run (next a) left := by
  rw [run_bind] at h ⊢
  show (∃ fault left, u.run x.run scene = _ ∧ _) ∨ ∃ a left, u.run x.run scene = _ ∧ _
  rcases hx : u.run x.run scene with ⟨stop | a, left⟩
  · rw [hx] at h
    obtain ⟨fault, rfl, rfl⟩ := run_giveUp_of_failed h
    exact .inl ⟨fault, left, rfl, rfl, congrArg Prod.snd (u.run_giveUp_fatal d fault left)⟩
  · exact .inr ⟨a, left, rfl, rfl⟩

theorem run_afterEnsure_of_failed {previous : Phase}
    (h : (u.run (afterEnsure settings previous d) scene).1 = .failed code) :
    ∃ prepared middle fault checked,
      u.run (prepare settings previous d) scene = (some prepared, middle) ∧
      u.pass (check settings.healthConcurrency prepared) middle =
        (.error (.error (.fatal fault)), checked) ∧
      fault.code = code ∧ (u.run (afterEnsure settings previous d) scene).2 =
        (u.run (report (.failure code fault.message) prepared) checked).2 := by
  rw [afterEnsure, run_bind] at h ⊢
  rcases hprepare : u.run (prepare settings previous d) scene with ⟨_ | prepared, middle⟩
  · rw [hprepare] at h
    cases h
  · rw [hprepare] at h
    have hcheck : (u.run (checkAndReport settings prepared) middle).1 = .failed code := h
    show ∃ prepared' middle' fault checked, _ ∧ _ ∧ _ ∧
      (u.run (checkAndReport settings prepared) middle).2 = _
    rw [checkAndReport_eq_orGiveUp] at hcheck ⊢
    rcases run_orGiveUp_of_failed hcheck with ⟨fault, checked, hpass, hcode, hend⟩ |
      ⟨ready, checked, -, hrun⟩
    · exact ⟨prepared, middle, fault, checked, rfl, hpass, hcode, hend⟩
    · rw [hrun, run_bind] at hcheck
      cases hcheck

/-- The faults of a pass: the declaration makes no sense, or the check finds one once the children
are applied. -/
inductive Raises (u : Surroundings) (settings : Settings) (d : Declaration) (scene : Scene)
    (fault : Fault) : Prop
  | declared
      (plan : Plan.ofDeclaration d.withDefaults settings.clusterDomain = .error (.fatal fault))
      (code : fault.code = Fault.badParameter)
  | found {applied : List Applied} {ensured middle : Scene} {prepared : Declaration}
      (ensure : u.pass (ensure settings.clusterDomain d.withDefaults) scene =
        (.ok applied, ensured))
      (prepare : u.run (prepare settings d.phase d.withDefaults) ensured = (some prepared, middle))
      (check : (u.pass (check settings.healthConcurrency prepared) middle).1 =
        .error (.error (.fatal fault)))
      (code : fault.IsFound)

/-- After the report of a failure the recorded status shows it, if it could be written. -/
theorem records_failure (keeps : u.KeepsStatus space name) (keepsTidy : u.KeepsTidy)
    (named : d.IsNamed space name) (tidy : scene.store.Tidy) {status : Option Status}
    (records : scene.store.Records space name status)
    (agrees : status = d.status ∨ ∀ s, d.status = some s → s.phase = .creating)
    {message : String}
    (written : ∀ earlier d', (u.run (report (.failure code message) d) scene).2.calls =
      earlier ++ [.request (.updateStatus d')] → u.failure earlier (.updateStatus d') = none) :
    ∃ shown : Status, shown.ShowsFailure code message ∧
      (u.run (report (.failure code message) d) scene).2.store.Records space name
        (some shown) := by
  obtain ⟨now, recorded, hrecorded, hor⟩ := records_report keeps keepsTidy named tidy records
    agrees (.failure code message) written
  refine ⟨recorded, ?_, hrecorded⟩
  rcases hor with rfl | rfl
  · exact Status.showsFailure_recordFailure _ code message now
  · exact (Status.showsFailure_recordFailure _ code message now).reread

/-- A pass that fails after its children does so for the fault that the check finds, and records it
if the status can be written. -/
theorem afterEnsure_failed (gentle : u.Gentle) (keeps : u.KeepsStatus space name)
    (keepsTidy : u.KeepsTidy) (named : d.IsNamed space name) (tidy : scene.store.Tidy)
    (records : scene.store.Records space name d.status) {previous : Phase}
    (h : (u.run (afterEnsure settings previous d) scene).1 = .failed code) :
    ∃ prepared middle fault,
      u.run (prepare settings previous d) scene = (some prepared, middle) ∧
      (u.pass (check settings.healthConcurrency prepared) middle).1 =
        .error (.error (.fatal fault)) ∧
      fault.code = code ∧ fault.IsFound ∧
      ((∀ earlier d', (u.run (afterEnsure settings previous d) scene).2.calls =
          earlier ++ [.request (.updateStatus d')] →
            u.failure earlier (.updateStatus d') = none) →
        ∃ shown : Status, shown.ShowsFailure code fault.message ∧
          (u.run (afterEnsure settings previous d) scene).2.store.Records space name
            (some shown)) := by
  obtain ⟨prepared, middle, fault, checked, hprepare, hpass, hcode, hend⟩ :=
    run_afterEnsure_of_failed h
  have hcheck := congrArg Prod.fst hpass
  have hfound := Program.Candid.eq_fault (candid_check settings.healthConcurrency prepared) gentle
    hcheck
  refine ⟨prepared, middle, fault, hprepare, hcheck, hcode, hfound, fun written => ?_⟩
  rw [hend] at written ⊢
  obtain ⟨after, status, rfl, hmiddle, hagrees⟩ :=
    records_prepare keeps keepsTidy named tidy records hprepare
  have hmiddleTidy := run_tidy keepsTidy (prepare settings previous d) tidy
  rw [hprepare] at hmiddleTidy
  let prepared : Declaration := { d with status := after }
  have hsame := run_sameStatus keeps
    (check_within_sparesDeclarations settings.healthConcurrency prepared) middle
  have hchecked : (u.pass (check settings.healthConcurrency prepared) middle).2.store.Records
      space name status := hsame.records _ hmiddle
  have hcheckedTidy : (u.pass (check settings.healthConcurrency prepared) middle).2.store.Tidy :=
    run_tidy keepsTidy _ hmiddleTidy
  rw [hpass] at hchecked hcheckedTidy
  exact records_failure keeps keepsTidy (named.withStatus after) hcheckedTidy hchecked hagrees
    written

/-- A pass that fails does so for a fault of its own, and records it if the status can be
written. -/
theorem runPass_failed (gentle : u.Gentle) (keeps : u.KeepsStatus space name)
    (keepsTidy : u.KeepsTidy) (named : d.IsNamed space name) (tidy : scene.store.Tidy)
    (records : scene.store.Records space name d.status)
    (h : (u.run (runPass settings d) scene).1 = .failed code) :
    ∃ fault, fault.code = code ∧ u.Raises settings d scene fault ∧
      ((∀ earlier d', (u.run (runPass settings d) scene).2.calls =
          earlier ++ [.request (.updateStatus d')] →
            u.failure earlier (.updateStatus d') = none) →
        ∃ shown : Status, shown.ShowsFailure code fault.message ∧
          (u.run (runPass settings d) scene).2.store.Records space name (some shown)) := by
  have hsame := run_sameStatus keeps
    (ensure_within_sparesDeclarations settings.clusterDomain d.withDefaults) scene
  have hrecords : (u.pass (ensure settings.clusterDomain d.withDefaults) scene).2.store.Records
      space name d.status := hsame.records _ records
  have htidy : (u.pass (ensure settings.clusterDomain d.withDefaults) scene).2.store.Tidy :=
    run_tidy keepsTidy _ tidy
  rw [runPass_eq_orGiveUp] at h ⊢
  rcases run_orGiveUp_of_failed h with ⟨fault, left, hensure, hcode, hend⟩ |
    ⟨applied, left, hensure, hrun⟩
  · rw [hensure] at hrecords htidy
    have hplan := Program.Candid.eq_fault
      (candid_ensure named.withDefaults.space settings.clusterDomain) gentle
      (congrArg Prod.fst hensure)
    refine ⟨fault, hcode, .declared hplan.1 hplan.2, fun written => ?_⟩
    rw [hend] at written ⊢
    exact records_failure keeps keepsTidy named.withDefaults htidy hrecords (.inl rfl) written
  · rw [hensure] at hrecords htidy
    rw [hrun] at h ⊢
    obtain ⟨prepared, middle, fault, hprepare, hcheck, hcode, hfound, hshown⟩ :=
      afterEnsure_failed gentle keeps keepsTidy named.withDefaults htidy hrecords h
    exact ⟨fault, hcode, .found hensure hprepare hcheck hfound, hshown⟩

/-- A pass ends with an outcome of its own. -/
theorem run_giveUp_ne_notFound (d : Declaration) (stop : Stop) (scene : Scene) :
    (u.run (giveUp d stop) scene).1 ≠ .notFound := by
  unfold giveUp
  split
  · rw [run_bind]
    nofun
  · nofun
  · nofun

theorem run_orGiveUp_ne_notFound {x : Pass α} {next : α → Program Outcome}
    (h : ∀ a left, (u.run (next a) left).1 ≠ .notFound) (scene : Scene) :
    (u.run (x.run >>= orGiveUp d next) scene).1 ≠ .notFound := by
  rw [run_bind]
  cases (u.run x.run scene).1 with
  | error stop => exact run_giveUp_ne_notFound d stop _
  | ok a => exact h a _

/-- A deployment that was fetched is not reported as not found. -/
theorem runPass_ne_notFound (settings : Settings) (d : Declaration) (scene : Scene) :
    (u.run (runPass settings d) scene).1 ≠ .notFound := by
  rw [runPass_eq_orGiveUp]
  refine run_orGiveUp_ne_notFound (fun _ left => ?_) scene
  rw [afterEnsure, run_bind]
  cases (u.run (prepare settings d.phase d.withDefaults) left).1 with
  | none =>
    intro h
    cases h
  | some prepared =>
    show (u.run (checkAndReport settings prepared) _).1 ≠ _
    rw [checkAndReport_eq_orGiveUp]
    refine run_orGiveUp_ne_notFound (fun _ last h => ?_) _
    rw [run_bind] at h
    cases h

end Surroundings

/-! ### Status writes that fail -/

/-- A candid program looks at no declaration. -/
theorem Program.Candid.heedless {α : Type} {Q : Fault → Prop} {p : Program (Except Stop α)}
    (h : p.Candid Q) : p.Heedless := by
  induction h with
  | ok a => exact .done _
  | fault h => exact .done _
  | request about stops goes ih =>
    refine .call (fun r' heq => Call.request.inj heq ▸ about) fun reply => ?_
    cases reply with
    | error e => exact stops e ▸ .done _
    | ok a => exact ih a
  | poll tells stops goes ih =>
    refine .call (fun _ h => nomatch h) fun reply => ?_
    cases reply with
    | error stop => exact stops stop ▸ .done _
    | ok result => exact ih

theorem heedless_updateStatus (change : Status → Status) (d : Declaration) :
    (updateStatus change d).Heedless := by
  unfold updateStatus
  simp only
  split
  · exact .done _
  · exact .status (fun _ _ => rfl) fun _ => .done _

theorem heedless_report (r : Report) (d : Declaration) : (report r d).Heedless :=
  (Program.heedless_perform (c := .clock) fun _ h => nomatch h).bind fun _ =>
    heedless_updateStatus _ _

theorem heedless_giveUp (d : Declaration) (stop : Stop) : (giveUp d stop).Heedless := by
  unfold giveUp
  split
  · exact (heedless_report _ _).bind fun _ => .done _
  · exact .done _
  · exact .done _

theorem heedless_prepare (settings : Settings) (previous : Phase) (d : Declaration) :
    (prepare settings previous d).Heedless := by
  cases previous with
  | none => exact (heedless_updateStatus _ _).bind fun _ => .done _
  | failed =>
    refine (Program.heedless_perform (c := .heal _ d) fun _ h => nomatch h).bind fun healed => ?_
    cases healed <;> exact .done _
  | _ => exact .done _

theorem heedless_orGiveUp {α : Type} {Q : Fault → Prop} {x : Pass α} (candid : x.Candid Q)
    {d : Declaration} {next : α → Program Outcome} (hnext : ∀ a, (next a).Heedless) :
    (x.run >>= orGiveUp d next).Heedless :=
  (Program.Candid.heedless candid).bind fun result => by
    cases result with
    | error stop => exact heedless_giveUp d stop
    | ok a => exact hnext a

/-- A pass over a deployment in a namespace looks at no stored declaration, and at no reply to a
status write. -/
theorem heedless_runPass (settings : Settings) {d : Declaration} {space name : String}
    (named : d.IsNamed space name) : (runPass settings d).Heedless := by
  rw [runPass_eq_orGiveUp]
  refine heedless_orGiveUp (candid_ensure named.withDefaults.space _) fun _ => ?_
  refine (heedless_prepare settings d.phase d.withDefaults).bind fun prepared => ?_
  cases prepared with
  | none => exact .done _
  | some prepared =>
    show (checkAndReport settings prepared).Heedless
    rw [checkAndReport_eq_orGiveUp]
    exact heedless_orGiveUp (candid_check _ prepared) fun _ =>
      (heedless_report _ _).bind fun _ => .done _

namespace Surroundings

variable {u : Surroundings} {settings : Settings} {space name : String} {s : Store}

/-! ### The fetch -/

/-- A pass over what cannot be fetched makes no further call. -/
theorem run_reconcile_of_error {e : Error}
    (h : (u.answer (.get .declaration space name) ⟨s, []⟩).1 = .error e) :
    u.run (reconcile settings space name) ⟨s, []⟩ =
      (.error e, u.requested (.get .declaration space name) ⟨s, []⟩) := by
  rw [reconcile, run_bind, run_request, h]
  rfl

theorem run_reconcile_of_absent
    (h : (u.answer (.get .declaration space name) ⟨s, []⟩).1 = .ok none) :
    u.run (reconcile settings space name) ⟨s, []⟩ =
      (.ok .notFound, u.requested (.get .declaration space name) ⟨s, []⟩) := by
  rw [reconcile, run_bind, run_request, h]
  rfl

/-- Whether the status can be written makes no difference to how a pass ends. -/
theorem reconcile_losing (heedless : u.Heedless)
    (named : ∀ d, (u.answer (.get .declaration space name) ⟨s, []⟩).1 = .ok (some d) →
      d.IsNamed space name) (lost : List Call → Declaration → Option Failure) :
    ((u.losing lost).run (reconcile settings space name) ⟨s, []⟩).1 =
      (u.run (reconcile settings space name) ⟨s, []⟩).1 := by
  have hsame : (u.losing lost).answer (.get .declaration space name) ⟨s, []⟩ =
      u.answer (.get .declaration space name) ⟨s, []⟩ := rfl
  cases hfetched : (u.answer (.get .declaration space name) ⟨s, []⟩).1 with
  | error e =>
    rw [run_reconcile_of_error hfetched, run_reconcile_of_error (hsame ▸ hfetched)]
  | ok found =>
    cases found with
    | none =>
      rw [run_reconcile_of_absent hfetched, run_reconcile_of_absent (hsame ▸ hfetched)]
    | some d =>
      rw [u.run_reconcile_of_found hfetched,
        (u.losing lost).run_reconcile_of_found (hsame ▸ hfetched)]
      exact congrArg Except.ok (run_losing heedless (heedless_runPass settings (named d hfetched))
        rfl (Store.Alike.refl _)).symm

/-- A pass is an error exactly if the fetch fails, and the deployment is not found exactly if the
fetch finds nothing. In both cases there is no further call. -/
theorem reconcile_fetch (settings : Settings) (u : Surroundings) (s : Store) (space name : String) :
    let fetched := (u.answer (.get .declaration space name) ⟨s, []⟩).1
    let ended := u.run (reconcile settings space name) ⟨s, []⟩
    (∀ e, ended.1 = .error e ↔ fetched = .error e) ∧
      (ended.1 = .ok .notFound ↔ fetched = .ok none) ∧
      ((∀ d, fetched ≠ .ok (some d)) →
        ended.2.calls = [.request (.get .declaration space name)]) := by
  intro fetched ended
  cases hfetched : fetched with
  | error e =>
    have hended : ended = _ := run_reconcile_of_error hfetched
    rw [hended]
    exact ⟨fun _ => ⟨fun h => congrArg _ (Except.error.inj h),
      fun h => congrArg _ (Except.error.inj h)⟩, iff_of_false nofun nofun, fun _ => rfl⟩
  | ok found =>
    cases found with
    | none =>
      have hended : ended = _ := run_reconcile_of_absent hfetched
      rw [hended]
      exact ⟨fun _ => iff_of_false nofun nofun, iff_of_true rfl rfl, fun _ => rfl⟩
    | some d =>
      have hended : ended = _ := u.run_reconcile_of_found hfetched
      rw [hended]
      refine ⟨fun _ => iff_of_false nofun nofun, iff_of_false (fun h => ?_) nofun,
        fun h => absurd rfl (h d)⟩
      exact runPass_ne_notFound settings d _ (Except.ok.inj h)

end Surroundings

/-! ### From the response to the outcome -/

open Surroundings in
/-- Failures of requests never make a deployment look faulty. The client never reports a fault, and
reports that a write came too late exactly if it was sent and the response says so. A pass is an
error exactly if the fetch fails, finds nothing exactly if the fetch does, and makes no further call
then. It is aborted exactly if another request fails, but for status writes, or if there is a panic.
It fails only for a fault of the declaration or one that the check finds, and shows it in the status
if this can be written. Failures of status writes make no difference to how it ends. -/
theorem trouble_is_no_fault (settings : Settings) (space name : String) :
    (∀ (σ : Type) (send : Message → σ → Option Response × σ) (r : Request) (state : σ),
      (∀ e, (Client.answer send r state).1 = .error e → e.isFatal = false) ∧
      (r.Writes → ∀ subject, (Client.answer send r state).1 = .error (.conflict subject) ↔
        ∃ m reply, r.message = .ok m ∧ (send m state).1 = some reply ∧ Client.IsTooLate reply ∧
          subject = r.lateSubject (Client.refusal reply))) ∧
    ∀ (u : Surroundings) (s : Store), u.Gentle → u.KeepsStatus space name → u.KeepsTidy →
      u.Heedless → s.Tidy →
      (∀ d, (u.answer (.get .declaration space name) ⟨s, []⟩).1 = .ok (some d) →
        d.IsNamed space name) →
      let fetched := u.answer (.get .declaration space name) ⟨s, []⟩
      let begun := u.requested (.get .declaration space name) ⟨s, []⟩
      let ended := u.run (reconcile settings space name) ⟨s, []⟩
      (∀ e, ended.1 = .error e ↔ fetched.1 = .error e) ∧
      (ended.1 = .ok .notFound ↔ fetched.1 = .ok none) ∧
      ((∀ d, fetched.1 ≠ .ok (some d)) →
        ended.2.calls = [.request (.get .declaration space name)]) ∧
      (∀ d, fetched.1 = .ok (some d) →
        (ended.1 = .ok .aborted ↔ u.Stumbles (runPass settings d) begun) ∧
        ∀ code, ended.1 = .ok (.failed code) →
          ∃ fault, fault.code = code ∧ u.Raises settings d begun fault ∧
            ((∀ earlier d', ended.2.calls = earlier ++ [.request (.updateStatus d')] →
                u.failure earlier (.updateStatus d') = none) →
              ∃ shown : Status, shown.ShowsFailure code fault.message ∧
                ended.2.store.Records space name (some shown))) ∧
      ∀ lost, ((u.losing lost).run (reconcile settings space name) ⟨s, []⟩).1 = ended.1 := by
  refine ⟨fun σ send r state => ⟨fun e => Client.isFatal_of_answer,
    fun writes subject => Client.answer_eq_conflict writes⟩, ?_⟩
  intro u s gentle keeps keepsTidy heedless tidy named fetched begun ended
  obtain ⟨herror, hnotFound, hcalls⟩ := reconcile_fetch settings u s space name
  refine ⟨herror, hnotFound, hcalls, fun d hfetched => ?_, reconcile_losing heedless named⟩
  have hended : ended = _ := u.run_reconcile_of_found hfetched
  have hnamed := named d hfetched
  rw [hended]
  refine ⟨Iff.trans ⟨Except.ok.inj, congrArg Except.ok⟩
    (runPass_aborted_iff gentle settings hnamed begun), fun code hcode => ?_⟩
  exact runPass_failed gentle keeps keepsTidy hnamed (answer_tidy keepsTidy _ tidy)
    (records_get hfetched) (Except.ok.inj hcode)

open Declaration Surroundings in
theorem plainSample_failure_shown :
    let ended := well.run (reconcile {} "default" "nc") ⟨plainStore, []⟩
    ended.1 = .ok (.failed Fault.quorumLost) ∧
      (∃ (fault : Fault) (shown : Status), fault.code = Fault.quorumLost ∧
        shown.ShowsFailure Fault.quorumLost fault.message ∧
        ended.2.store.Records "default" "nc" (some shown)) ∧
      ((well.losing fun _ _ => some { error := .internal "no answer" }).run
        (reconcile {} "default" "nc") ⟨plainStore, []⟩).1 = .ok (.failed Fault.quorumLost) := by
  have gentle : well.Gentle := ⟨fun _ _ _ h => (nomatch h), fun why => by cases why <;> rfl⟩
  have hget : plainStore.answer (.get .declaration "default" "nc") =
      (.ok (some (Document.reread plainSample)), plainStore) :=
    congrArg (·, plainStore) plainStore_get
  have hfetched : (well.answer (.get .declaration "default" "nc") ⟨plainStore, []⟩).1 =
      .ok (some (Document.reread plainSample)) := by
    rw [calm_well.answer_of_ok hget]
  have named : ∀ d, (well.answer (.get .declaration "default" "nc") ⟨plainStore, []⟩).1 =
      .ok (some d) → d.IsNamed "default" "nc" := by
    intro d hd
    cases hfetched.symm.trans hd
    exact ⟨rfl, rfl⟩
  have hended : (well.run (reconcile {} "default" "nc") ⟨plainStore, []⟩).1 =
      .ok (.failed Fault.quorumLost) := toOption_eq_some.mp (by decide +kernel)
  obtain ⟨-, -, -, hfound, hlosing⟩ := (trouble_is_no_fault {} "default" "nc").2 well plainStore
    gentle (calm_well.keepsStatus _ _) calm_well.keepsTidy calm_well.heedless plainStore_tidy named
  obtain ⟨fault, hcode, -, hshown⟩ := (hfound _ hfetched).2 _ hended
  obtain ⟨shown, hfailure, hrecords⟩ := hshown fun _ _ _ => rfl
  exact ⟨hended, ⟨fault, shown, hcode, hfailure, hrecords⟩, (hlosing _).trans hended⟩

end ClusterOperator
