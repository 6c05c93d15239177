import ClusterOperator.Proofs.Passes.History
import ClusterOperator.Proofs.Passes.Outcome
import ClusterOperator.Proofs.Status.Recorded

/-!
# Passes that are aborted

A pass that is aborted reports nothing. But a new deployment is shown as being created as soon as
its children are applied, and its health is checked only then. So a pass over a new deployment that
is aborted by its check leaves a status behind that says so; every other pass that is aborted leaves
the status as it was and has not written it.

## Main definitions

* `Scene.statusWrites`: the statuses that were written.
* `Declaration.created`: a declaration that is shown as being created.

## Main results

* `Surroundings.run_sameStatus`: what leaves declarations alone leaves their status alone.
* `Surroundings.reconcile_aborted`: what a pass that is aborted leaves of the status.
-/

namespace ClusterOperator

/-! ### Writing the status -/

/-- The declaration whose status a call writes. -/
def Call.statusWrite? : Call → Option Declaration
  | .request (.updateStatus d) => some d
  | _ => none

/-- The declarations whose status was written. -/
def Scene.statusWrites (scene : Scene) : List Declaration := scene.calls.filterMap Call.statusWrite?

/-- A call that leaves all declarations alone. -/
def Call.SparesDeclarations (c : Call) : Prop := ∀ space name, c.Spares ⟨.declaration, space, name⟩

/-- A declaration that is shown as being created. -/
def Declaration.created (d : Declaration) : Declaration :=
  d.mapStatus fun s => { s with phase := .creating }

theorem Call.SparesDeclarations.statusWrite? {c : Call} (h : c.SparesDeclarations) :
    c.statusWrite? = none := by
  cases c with
  | request r =>
    cases r with
    | updateStatus d =>
      rcases h d.metadata.spaceOrEmpty d.displayName with hreads | hne
      · cases hreads
      · exact absurd rfl hne
    | _ => rfl
  | _ => rfl

/-- A program is within all of several kinds of calls if it is within each. -/
theorem Program.within_forall {ι α : Type} {P : ι → Call → Prop} {p : Program α}
    (h : ∀ i, p.Within (P i)) : p.Within fun c => ∀ i, P i c := by
  induction p with
  | done a => trivial
  | call c next ih => exact ⟨fun i => (h i).1, fun r => ih r fun i => (h i).2 r⟩

theorem ensure_within_sparesDeclarations (domain : String) (d : Declaration) :
    Pass.Within Call.SparesDeclarations (ensure domain d) :=
  Program.within_forall fun _ => Program.within_forall fun _ => ensure_spares fun _ _ child _ heq =>
    child.1.kind_ne_declaration (congrArg Key.kind heq)

theorem check_within_sparesDeclarations (limit : Nat) (d : Declaration) :
    Pass.Within Call.SparesDeclarations (check limit d) :=
  Program.Within.mono Surroundings.check_within fun _ hc _ _ => hc.spares _

namespace Surroundings

variable {α : Type} {u : Surroundings} {space name : String} {settings : Settings}
  {d : Declaration} {scene : Scene}

/-- A later scene in which the status is as it was, and no other one was written. -/
structure SameStatus (space name : String) (scene left : Scene) : Prop where
  writes : left.statusWrites = scene.statusWrites
  records : ∀ status, scene.store.Records space name status → left.store.Records space name status

theorem SameStatus.trans {first second third : Scene} (h : SameStatus space name first second)
    (h' : SameStatus space name second third) : SameStatus space name first third :=
  ⟨h'.writes.trans h.writes, fun status hrecords => h'.records status (h.records status hrecords)⟩

/-- What leaves declarations alone writes no status. -/
theorem statusWrites_run (u : Surroundings) {p : Program α} (h : p.Within Call.SparesDeclarations)
    (scene : Scene) : (u.run p scene).2.statusWrites = scene.statusWrites := by
  obtain ⟨more, hmore, hspares⟩ := u.run_calls h scene
  have hnone : more.filterMap Call.statusWrite? = [] :=
    List.filterMap_eq_nil_iff.mpr fun c hc => (hspares c hc).statusWrite?
  rw [Scene.statusWrites, hmore, List.filterMap_append, hnone, List.append_nil]
  rfl

/-- What leaves declarations alone leaves their status alone. -/
theorem run_sameStatus (keeps : u.KeepsStatus space name) {p : Program α}
    (h : p.Within Call.SparesDeclarations) (scene : Scene) :
    SameStatus space name scene (u.run p scene).2 :=
  ⟨u.statusWrites_run h scene, fun _ => run_records keeps (h.mono fun _ hc => hc space name)⟩

/-! ### The steps of a pass that is aborted -/

/-- Giving up reports a fault, or does nothing. -/
theorem run_giveUp_of_aborted {stop : Stop} (h : (u.run (giveUp d stop) scene).1 = .aborted) :
    u.run (giveUp d stop) scene = (.aborted, scene) := by
  unfold giveUp at h ⊢
  split at h
  · rw [run_bind] at h
    cases h
  · rfl
  · rfl

/-- A check that aborts a pass is the last thing in it. -/
theorem run_checkAndReport_of_aborted (h : (u.run (checkAndReport settings d) scene).1 = .aborted) :
    (u.run (checkAndReport settings d) scene).2 =
      (u.pass (check settings.healthConcurrency d) scene).2 := by
  rcases hcheck : u.pass (check settings.healthConcurrency d) scene with ⟨stop | ready, left⟩
  · rw [u.run_checkAndReport_of_error hcheck] at h ⊢
    rw [run_giveUp_of_aborted h]
  · rw [u.run_checkAndReport_of_ok hcheck] at h
    cases h

/-- A new deployment is shown as being created. -/
theorem run_prepare_of_new (settings : Settings) (new : d.phase = .none) (scene : Scene) :
    u.run (prepare settings .none d) scene =
      (some d.created, u.requested (.updateStatus d.created) scene) := by
  have hne : d.created.status ≠ d.status := by
    intro heq
    have hphase : d.created.phase = d.phase :=
      congrArg (fun status => (Option.getD status {}).phase) heq
    cases hphase.trans new
  have hupdate : u.run (markCreating d) scene =
      (d.created, u.requested (.updateStatus d.created) scene) := u.run_updateStatus_of_ne hne
  rw [prepare, run_bind]
  exact congrArg (fun out : Declaration × Scene => (some out.1, out.2)) hupdate

/-- A deployment that is not new is prepared without any report. -/
theorem prepare_within_sparesDeclarations (settings : Settings) {previous : Phase}
    (known : previous ≠ .none) (d : Declaration) :
    (prepare settings previous d).Within Call.SparesDeclarations :=
  prepare_within (absurd · known) fun _ _ _ => trivial

/-- After its children a deployment that is not new is left with its status if the pass is
aborted. -/
theorem afterEnsure_sameStatus (keeps : u.KeepsStatus space name) {previous : Phase}
    (known : previous ≠ .none) (h : (u.run (afterEnsure settings previous d) scene).1 = .aborted) :
    SameStatus space name scene (u.run (afterEnsure settings previous d) scene).2 := by
  have hprepare := run_sameStatus keeps (prepare_within_sparesDeclarations settings known d) scene
  rw [afterEnsure, run_bind] at h ⊢
  cases hprepared : (u.run (prepare settings previous d) scene).1 with
  | none => exact hprepare
  | some prepared =>
    rw [hprepared] at h
    rw [run_checkAndReport_of_aborted h]
    exact hprepare.trans (run_sameStatus keeps (check_within_sparesDeclarations _ _) _)

/-- After its children a new deployment is left as one that is being created, if the pass is aborted
and this could be written. -/
theorem records_afterEnsure_of_new (keeps : u.KeepsStatus space name) (keepsTidy : u.KeepsTidy)
    (named : d.IsNamed space name) (new : d.phase = .none) (tidy : scene.store.Tidy)
    (recorded : scene.store.Records space name d.status)
    (h : (u.run (afterEnsure settings .none d) scene).1 = .aborted) :
    (u.run (afterEnsure settings .none d) scene).2.statusWrites =
        scene.statusWrites ++ [d.created] ∧
      ∃ status, (u.run (afterEnsure settings .none d) scene).2.store.Records space name status ∧
        (status = d.status ∨ status.map Status.phase = some .creating) ∧
        (u.failure scene.calls (.updateStatus d.created) = none → status ≠ d.status) := by
  obtain ⟨status, hrecords, hor, hwritten⟩ := records_requested (d := d.created) keeps keepsTidy
    (named.withStatus _) rfl scene tidy recorded
  rw [afterEnsure, run_bind, run_prepare_of_new settings new] at h ⊢
  rw [run_checkAndReport_of_aborted h]
  have hcheck := run_sameStatus keeps (check_within_sparesDeclarations settings.healthConcurrency
    d.created) (u.requested (.updateStatus d.created) scene)
  refine ⟨hcheck.writes.trans List.filterMap_append, status, hcheck.records _ hrecords, ?_, ?_⟩
  · rcases hor with rfl | rfl
    · exact .inl rfl
    · exact .inr rfl
  · rintro hnone rfl
    have hphase := congrArg (fun status => (Option.getD status {}).phase) (hwritten hnone)
    cases new.symm.trans hphase

/-- A pass that is aborted leaves the status as it was and writes none, unless the deployment is new
and its children were applied. Then all it writes is that the deployment is being created, and this
replaces the old status unless the write fails. -/
theorem reconcile_aborted (keeps : u.KeepsStatus space name) (keepsTidy : u.KeepsTidy)
    (settings : Settings) {s : Store} (tidy : s.Tidy) {old : Option Status}
    (recorded : s.Records space name old)
    (fetched : (u.answer (.get .declaration space name) ⟨s, []⟩).1 = .ok (some d))
    (named : d.IsNamed space name)
    (aborted : (u.run (reconcile settings space name) ⟨s, []⟩).1 = .ok .aborted) :
    let applied := u.pass (ensure settings.clusterDomain d.withDefaults)
      (u.requested (.get .declaration space name) ⟨s, []⟩)
    let left := (u.run (reconcile settings space name) ⟨s, []⟩).2
    (¬ (d.phase = .none ∧ applied.1.isOk = true) →
      left.statusWrites = [] ∧ left.store.Records space name old) ∧
    (d.phase = .none ∧ applied.1.isOk = true →
      left.statusWrites = [d.withDefaults.created] ∧
        ∃ status, left.store.Records space name status ∧
          (status = old ∨ status.map Status.phase = some .creating) ∧
          (u.failure applied.2.calls (.updateStatus d.withDefaults.created) = none →
            status ≠ old)) := by
  have hget : Program.Within Call.SparesDeclarations
      (Program.request (.get .declaration space name)) :=
    Program.within_perform fun _ _ => .inl rfl
  have hfetch := run_sameStatus keeps hget ⟨s, []⟩
  obtain rfl := (records_get fetched).unique (hfetch.records _ recorded)
  rw [u.run_reconcile_of_found fetched] at aborted ⊢
  have haborted := Except.ok.inj aborted
  have hensure : SameStatus space name ⟨s, []⟩
      (u.pass (ensure settings.clusterDomain d.withDefaults)
        (u.requested (.get .declaration space name) ⟨s, []⟩)).2 :=
    hfetch.trans (run_sameStatus keeps (ensure_within_sparesDeclarations _ _) _)
  have htidy : (u.pass (ensure settings.clusterDomain d.withDefaults)
      (u.requested (.get .declaration space name) ⟨s, []⟩)).2.store.Tidy :=
    run_tidy keepsTidy _ (answer_tidy keepsTidy _ tidy)
  rcases hpass : u.pass (ensure settings.clusterDomain d.withDefaults)
      (u.requested (.get .declaration space name) ⟨s, []⟩) with ⟨stop | children, ensured⟩
  · rw [u.run_runPass_of_error hpass] at haborted ⊢
    rw [hpass] at hensure
    simp only
    rw [run_giveUp_of_aborted haborted]
    exact ⟨fun _ => ⟨hensure.writes, hensure.records _ recorded⟩, fun h => nomatch h.2⟩
  · rw [u.run_runPass_of_ok hpass] at haborted ⊢
    rw [hpass] at hensure htidy
    refine ⟨fun hnew => ?_, fun ⟨hnew, _⟩ => ?_⟩
    · have hknown : d.phase ≠ .none := fun h => hnew ⟨h, rfl⟩
      have hsame := hensure.trans (afterEnsure_sameStatus keeps hknown haborted)
      exact ⟨hsame.writes, hsame.records _ recorded⟩
    · rw [hnew] at haborted ⊢
      obtain ⟨hwrites, hrecords⟩ := records_afterEnsure_of_new keeps keepsTidy named.withDefaults
        hnew htidy (hensure.records _ recorded) haborted
      rw [hensure.writes] at hwrites
      exact ⟨hwrites, hrecords⟩

end Surroundings

/-! ### A new deployment whose pods cannot be listed -/

namespace Declaration

/-- Surroundings in which nothing can be listed. -/
def unlistable : Surroundings :=
  { Surroundings.well with
    failure := fun _ r => if r.verb = .list then some { error := .internal "no answer" } else none }

end Declaration

open Declaration in
theorem plainSample_aborted :
    plainStore.Records "default" "nc" none ∧
      let ended := unlistable.run (reconcile {} "default" "nc") ⟨plainStore, []⟩
      ended.1 = .ok .aborted ∧ ended.2.statusWrites.length = 1 ∧
        ∃ status, ended.2.store.Records "default" "nc" status ∧ status ≠ none := by
  have keeps : unlistable.KeepsStatus "default" "nc" := fun _ _ _ _ h => h
  have keepsTidy : unlistable.KeepsTidy := fun _ _ _ h => h
  have hrecords : plainStore.Records "default" "nc" none := ⟨_, plainStore_get, rfl⟩
  have hfetched : (unlistable.answer (.get .declaration "default" "nc") ⟨plainStore, []⟩).1 =
      .ok (some (Document.reread plainSample)) := by
    refine Eq.trans ?_ (congrArg (Except.mapError Store.Refusal.error) plainStore_get)
    rfl
  have haborted : (unlistable.run (reconcile {} "default" "nc") ⟨plainStore, []⟩).1 =
      .ok .aborted := toOption_eq_some.mp (by decide +kernel)
  obtain ⟨-, hnew⟩ := Surroundings.reconcile_aborted keeps keepsTidy {} plainStore_tidy hrecords
    hfetched ⟨rfl, rfl⟩ haborted
  obtain ⟨hwrites, status, hstatus, -, hchanged⟩ := hnew ⟨rfl, by decide +kernel⟩
  exact ⟨hrecords, haborted, congrArg List.length hwrites, status, hstatus, hchanged rfl⟩

end ClusterOperator
