import ClusterOperator.Proofs.Surroundings.Frame

/-!
# The recorded status

The status that is stored with a declaration. Requests for other objects leave it as it is, and a
request to write it replaces it, unless it fails: then it may have been replaced or not.

## Main definitions

* `Store.Records`: the status that is stored with a declaration.
* `Surroundings.KeepsStatus`: other clients leave the status alone.

## Main results

* `Surroundings.run_records`: a run that does not write declarations leaves the status alone.
* `Surroundings.records_requested`: what a request to write the status comes to.
-/

namespace ClusterOperator

/-- A declaration of a name in a namespace. -/
structure Declaration.IsNamed (space name : String) (d : Declaration) : Prop where
  space : d.metadata.space = some space
  name : d.displayName = name

namespace Declaration.IsNamed

variable {space name : String} {d : Declaration}

theorem spaceOrEmpty (named : d.IsNamed space name) : d.metadata.spaceOrEmpty = space :=
  congrArg (Option.getD · "") named.space

theorem keyOf (named : d.IsNamed space name) :
    Store.keyOf .declaration d.metadata.spaceOrEmpty d = ⟨.declaration, space, name⟩ := by
  rw [named.spaceOrEmpty]
  exact congrArg (fun name => (⟨.declaration, space, name⟩ : Key)) named.name

end Declaration.IsNamed

/-- The status that is stored with a declaration. -/
def Store.Records (space name : String) (status : Option Status) (s : Store) : Prop :=
  ∃ d : Declaration, s.get .declaration space name = .ok (some d) ∧ d.status = status

theorem Store.Records.congr {space name : String} {status : Option Status} {s s' : Store}
    (h : s.Records space name status)
    (same : s'.get? ⟨.declaration, space, name⟩ = s.get? ⟨.declaration, space, name⟩) :
    s'.Records space name status := by
  obtain ⟨d, hd, hstatus⟩ := h
  exact ⟨d, (Store.get_congr same).trans hd, hstatus⟩

theorem Store.Records.unique {space name : String} {status status' : Option Status} {s : Store}
    (h : s.Records space name status) (h' : s.Records space name status') : status = status' := by
  obtain ⟨d, hd, rfl⟩ := h
  obtain ⟨d', hd', rfl⟩ := h'
  exact congrArg Declaration.status (Option.some.inj (Except.ok.inj (hd.symm.trans hd')))

/-- A status that is written is read back. -/
theorem Store.records_updateStatus {space name : String} {s : Store} (tidy : s.Tidy)
    {d : Declaration} (named : d.IsNamed space name) {status : Status}
    (hstatus : d.status = some status) {old : Option Status} (h : s.Records space name old) :
    (s.updateStatus d).2.Records space name (some (Document.reread status)) ∧
      (s.updateStatus d).1 = .ok () := by
  obtain ⟨stored, hstored, -⟩ := h
  obtain ⟨j, hj, hread⟩ : ∃ j, s.get? ⟨.declaration, space, name⟩ = some j ∧
      Document.read Declaration j = .ok stored := Store.get_eq_ok_some.mp hstored
  have hkey := named.keyOf
  have hupdate := Store.updateStatus_stored ((congrArg s.get? hkey).trans hj)
  rw [hkey, hstatus] at hupdate
  rw [hupdate]
  refine ⟨⟨{ stored with status := some (Document.reread status) }, ?_, rfl⟩, rfl⟩
  exact Store.get_eq_ok_some.mpr ⟨_, SortedMap.get?_insert_self _ _ _,
    Declaration.read_set_status (tidy _ j hj) hread status⟩

namespace Surroundings

variable {α : Type} {u : Surroundings} {space name : String} {status : Option Status}

/-- Other clients leave the status of a declaration alone. -/
def KeepsStatus (u : Surroundings) (space name : String) : Prop :=
  ∀ earlier r s status, s.Records space name status →
    (u.others earlier r s).Records space name status

theorem Calm.keepsStatus (calm : u.Calm) (space name : String) : u.KeepsStatus space name :=
  fun _ _ _ _ h => by rwa [calm.others]

/-- A declaration that is got is stored with its status. -/
theorem records_get {scene : Scene} {d : Declaration}
    (h : (u.answer (.get .declaration space name) scene).1 = .ok (some d)) :
    (u.answer (.get .declaration space name) scene).2.Records space name d.status := by
  have hothers : (u.others scene.calls (.get .declaration space name) scene.store).get .declaration
      space name = .ok (some d) := answer_eq_ok h
  rcases u.answer_store (.get .declaration space name) scene with hstore | ⟨hstore, -⟩
  · exact hstore ▸ ⟨d, hothers, rfl⟩
  · exact hstore ▸ ⟨d, hothers, rfl⟩

/-- A request for another object leaves the status alone. -/
theorem records_answer (keeps : u.KeepsStatus space name) {r : Request}
    (h : r.Spares ⟨.declaration, space, name⟩) {scene : Scene}
    (records : scene.store.Records space name status) :
    (u.answer r scene).2.Records space name status := by
  have hothers := keeps scene.calls r scene.store status records
  rcases u.answer_store r scene with hstore | ⟨hstore, -⟩
  · exact hstore ▸ hothers.congr (Store.get?_answer _ h)
  · exact hstore ▸ hothers

/-- A run that does not write the declaration leaves its status alone. -/
theorem run_records (keeps : u.KeepsStatus space name) {p : Program α}
    (h : p.Within (Call.Spares ⟨.declaration, space, name⟩)) {scene : Scene}
    (records : scene.store.Records space name status) :
    (u.run p scene).2.store.Records space name status := by
  obtain ⟨more, hcalls, hspares⟩ := u.run_calls h scene
  exact u.run_related (R := fun s s' => s.Records space name status → s'.Records space name status)
    (fun _ => id) (fun _ _ _ hst htv => htv ∘ hst) (fun _ _ hr => records_answer keeps hr) hcalls
    hspares records

/-- A request to write the status leaves the declaration stored, with the old status or the new one,
and with the new one unless it fails. -/
theorem records_requested (keeps : u.KeepsStatus space name) (keepsTidy : u.KeepsTidy)
    {d : Declaration} (named : d.IsNamed space name) {written : Status}
    (hstatus : d.status = some written) (scene : Scene) (tidy : scene.store.Tidy)
    (records : scene.store.Records space name status) :
    ∃ left, (u.requested (.updateStatus d) scene).store.Records space name left ∧
      (left = status ∨ left = some (Document.reread written)) ∧
      (u.failure scene.calls (.updateStatus d) = none →
        left = some (Document.reread written)) := by
  have hothers := keeps scene.calls (.updateStatus d) scene.store status records
  have htidy := keepsTidy scene.calls (.updateStatus d) scene.store tidy
  obtain ⟨hwritten, hok⟩ := Store.records_updateStatus htidy named hstatus hothers
  rcases u.answer_store (.updateStatus d) scene with hstore | ⟨hstore, e, herror⟩
  · exact ⟨_, (congrArg _ hstore).mpr hwritten, .inr rfl, fun _ => rfl⟩
  · refine ⟨status, (congrArg _ hstore).mpr hothers, .inl rfl, fun hnone => ?_⟩
    have hanswer : (u.answer (.updateStatus d) scene).1 = .ok () := by
      rw [answer, hnone]
      exact mapError_eq_ok.mpr hok
    cases hanswer.symm.trans herror

end Surroundings

end ClusterOperator
