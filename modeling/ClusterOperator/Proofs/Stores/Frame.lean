import ClusterOperator.Proofs.Documents.Objects
import ClusterOperator.Proofs.SortedMaps
import ClusterOperator.Rehearsal

/-!
# What a request leaves alone

A request changes at most the document under its own key, and a request that only reads changes
nothing. Every document that a request writes is tidy, so a store of tidy documents stays one.
What a selector picks out depends only on the documents of its kind and namespace.

## Main definitions

* `Request.reads`, `Request.Spares`: the requests that leave all documents, or one, alone.
* `Store.Tidy`: all documents are tidy.

## Main results

* `Store.answer_of_reads`, `Store.get?_answer`: what a request leaves alone.
* `Store.Tidy.put`, `Store.Tidy.answer`: writers keep documents tidy.
* `Store.select_congr`: what a selector looks at.
* `Store.get_eq_ok_some`: an object that is found is read from its document.
-/

namespace ClusterOperator

open SortedMap.Entries (lookup)

/-! ### Requests and keys -/

namespace Request

/-- Whether a request only reads. -/
def reads : Request → Bool
  | get _ _ _ | list _ _ _ => true
  | create _ _ _ | update _ _ _ | delete _ _ _ | updateStatus _ => false

/-- A request that leaves the document under a key alone. -/
def Spares (key : Key) (r : Request) : Prop := r.reads = true ∨ r.key ≠ key

end Request

namespace Store

theorem get?_write_self (s : Store) (key : Key) (o : key.kind.Object) :
    (s.write key o).2.get? key =
      some (Document.write (key.kind.withVersion (some (versionText (s.version + 1))) o)) :=
  SortedMap.get?_insert_self _ key _

theorem get?_write_of_ne (s : Store) {key other : Key} (o : key.kind.Object) (h : other ≠ key) :
    (s.write key o).2.get? other = s.get? other :=
  SortedMap.get?_insert_of_ne _ _ h

/-! ### What writes come to -/

theorem create_fresh {s : Store} {k : Kind} {space : String} {o : k.Object}
    (h : s.get? (keyOf k space o) = none) :
    s.create k space o =
      (.ok (s.write (keyOf k space o) o).1, (s.write (keyOf k space o) o).2) := by
  simp [create, h]

theorem update_current {s : Store} {k : Kind} {space : String} {o : k.Object} {j : Json}
    (h : s.get? (keyOf k space o) = some j) (hv : versionOf j = (k.metadata o).resourceVersion) :
    s.update k space o =
      (.ok (s.write (keyOf k space o) o).1, (s.write (keyOf k space o) o).2) := by
  simp [update, h, hv]

theorem updateStatus_missing {s : Store} {d : Declaration}
    (h : s.get? (keyOf .declaration d.metadata.spaceOrEmpty d) = none) :
    s.updateStatus d = (.error (.missing (keyOf .declaration d.metadata.spaceOrEmpty d)), s) := by
  simp [updateStatus, h]

theorem updateStatus_stored {s : Store} {d : Declaration} {j : Json}
    (h : s.get? (keyOf .declaration d.metadata.spaceOrEmpty d) = some j) :
    s.updateStatus d = (.ok (), { s with
      objects := s.objects.insert (keyOf .declaration d.metadata.spaceOrEmpty d)
        (j.set "status" ((d.status.map Document.write).getD .null)) }) := by
  simp [updateStatus, h]

/-! ### What requests leave alone -/

theorem get?_create_of_ne (s : Store) (k : Kind) (space : String) (o : k.Object) {other : Key}
    (h : other ≠ keyOf k space o) : (s.create k space o).2.get? other = s.get? other := by
  cases hfound : s.get? (keyOf k space o) with
  | some j => rw [create_taken hfound]
  | none =>
    rw [create_fresh hfound]
    exact get?_write_of_ne s o h

theorem get?_update_of_ne (s : Store) (k : Kind) (space : String) (o : k.Object) {other : Key}
    (h : other ≠ keyOf k space o) : (s.update k space o).2.get? other = s.get? other := by
  cases hfound : s.get? (keyOf k space o) with
  | none => rw [update_missing hfound]
  | some j =>
    by_cases hv : versionOf j = (k.metadata o).resourceVersion
    · rw [update_current hfound hv]
      exact get?_write_of_ne s o h
    · rw [update_stale hfound hv]

theorem get?_updateStatus_of_ne (s : Store) (d : Declaration) {other : Key}
    (h : other ≠ keyOf .declaration d.metadata.spaceOrEmpty d) :
    (s.updateStatus d).2.get? other = s.get? other := by
  cases hfound : s.get? (keyOf .declaration d.metadata.spaceOrEmpty d) with
  | none => rw [updateStatus_missing hfound]
  | some j =>
    rw [updateStatus_stored hfound]
    exact SortedMap.get?_insert_of_ne _ _ h

/-- A request that only reads leaves the store as it is. -/
theorem answer_of_reads (s : Store) {r : Request} (h : r.reads = true) : (s.answer r).2 = s := by
  cases r with
  | get => rfl
  | list => rfl
  | _ => cases h

/-- A request changes at most the document under its key. -/
theorem get?_answer (s : Store) {r : Request} {key : Key} (h : r.Spares key) :
    (s.answer r).2.get? key = s.get? key := by
  rcases h with hreads | hne
  · rw [answer_of_reads s hreads]
  · cases r with
    | get => rfl
    | list => rfl
    | create k space o => exact get?_create_of_ne s k space o (Ne.symm hne)
    | update k space o => exact get?_update_of_ne s k space o (Ne.symm hne)
    | delete k space name => exact SortedMap.get?_erase_of_ne _ (Ne.symm hne)
    | updateStatus d => exact get?_updateStatus_of_ne s d (Ne.symm hne)

/-! ### Tidy stores -/

/-- All documents are tidy. -/
def Tidy (s : Store) : Prop := ∀ key j, s.get? key = some j → j.Tidy

theorem tidy_empty : Tidy {} := fun _ _ h => nomatch h

theorem Tidy.insert {s : Store} (tidy : s.Tidy) (key : Key) {j : Json} (h : j.Tidy)
    (version : Nat) : Tidy { objects := s.objects.insert key j, version } := by
  intro other found hfound
  by_cases hother : other = key
  · subst hother
    exact Option.some.inj ((SortedMap.get?_insert_self _ _ _).symm.trans hfound) ▸ h
  · exact tidy other found ((SortedMap.get?_insert_of_ne _ _ hother).symm.trans hfound)

theorem Tidy.write {s : Store} (tidy : s.Tidy) (key : Key) (o : key.kind.Object) :
    (s.write key o).2.Tidy :=
  tidy.insert key (key.kind.tidy_write _) _

/-- A document whose members, and those of its metadata, have distinct names is stamped tidily. -/
theorem tidy_stamp {j : Json} (once : Json.NamesOnce j.members)
    (metaOnce : Json.NamesOnce (j.getD "metadata").members) (version : Nat) :
    (stamp version j).Tidy := by
  have hmetadata : (stamp version j).getD "metadata" =
      (j.getD "metadata").set "resourceVersion" (.string (versionText version)) :=
    congrArg (Option.getD · Json.null) (Json.get?_set_self j "metadata" _)
  exact ⟨_, rfl, once.setMember _ _, hmetadata ▸ metaOnce.setMember _ _⟩

/-- Such a document can be put. -/
theorem Tidy.put {s : Store} (tidy : s.Tidy) (key : Key) {j : Json}
    (once : Json.NamesOnce j.members)
    (metaOnce : Json.NamesOnce (j.getD "metadata").members) : (s.put key j).Tidy :=
  tidy.insert key (tidy_stamp once metaOnce _) _

theorem Tidy.remove {s : Store} (tidy : s.Tidy) (key : Key) : (s.remove key).Tidy := by
  intro other found hfound
  by_cases hother : other = key
  · subst hother
    cases (SortedMap.get?_erase_self _ _).symm.trans hfound
  · exact tidy other found ((SortedMap.get?_erase_of_ne _ hother).symm.trans hfound)

theorem Tidy.create {s : Store} (tidy : s.Tidy) (k : Kind) (space : String) (o : k.Object) :
    (s.create k space o).2.Tidy := by
  cases hfound : s.get? (keyOf k space o) with
  | some j => exact (create_taken hfound).symm ▸ tidy
  | none => exact (create_fresh hfound).symm ▸ tidy.write (keyOf k space o) o

theorem Tidy.update {s : Store} (tidy : s.Tidy) (k : Kind) (space : String) (o : k.Object) :
    (s.update k space o).2.Tidy := by
  cases hfound : s.get? (keyOf k space o) with
  | none => exact (update_missing hfound).symm ▸ tidy
  | some j =>
    by_cases hv : versionOf j = (k.metadata o).resourceVersion
    · exact (update_current hfound hv).symm ▸ tidy.write (keyOf k space o) o
    · exact (update_stale hfound hv).symm ▸ tidy

theorem Tidy.updateStatus {s : Store} (tidy : s.Tidy) (d : Declaration) :
    (s.updateStatus d).2.Tidy := by
  cases hfound : s.get? (keyOf .declaration d.metadata.spaceOrEmpty d) with
  | none => exact (updateStatus_missing hfound).symm ▸ tidy
  | some j =>
    rw [updateStatus_stored hfound]
    exact tidy.insert _ ((tidy _ j hfound).set (by decide) _) _

/-- A request keeps documents tidy. -/
theorem Tidy.answer {s : Store} (tidy : s.Tidy) (r : Request) : (s.answer r).2.Tidy := by
  cases r with
  | get => exact tidy
  | list => exact tidy
  | create k space o => exact tidy.create k space o
  | update k space o => exact tidy.update k space o
  | delete k space name => exact tidy.remove _
  | updateStatus d => exact tidy.updateStatus d

/-! ### Selected documents -/

/-- What a selector picks out depends only on the documents of its kind and namespace. -/
theorem select_congr {s s' : Store} {k : Kind} {space : String}
    (h : ∀ name, s.get? ⟨k, space, name⟩ = s'.get? ⟨k, space, name⟩) (selector : Option String) :
    s.select k space selector = s'.select k space selector := by
  have hentries := SortedMap.filter_entries_congr (m := s.objects) (n := s'.objects)
    (fun key => decide (key.kind = k ∧ key.space = space)) fun key hkey => by
      obtain ⟨kind, keySpace, name⟩ := key
      obtain ⟨rfl, rfl⟩ := of_decide_eq_true hkey
      exact h name
  simp only [select, Bool.and_comm (decide _), ← List.filter_filter, hentries]

theorem list_congr {s s' : Store} {k : Kind} {space : String}
    (h : ∀ name, s.get? ⟨k, space, name⟩ = s'.get? ⟨k, space, name⟩) (selector : Option String) :
    s.list k space selector = s'.list k space selector := by
  rw [list, select_congr h, list]

theorem get_congr {s s' : Store} {k : Kind} {space name : String}
    (h : s.get? ⟨k, space, name⟩ = s'.get? ⟨k, space, name⟩) :
    s.get k space name = s'.get k space name := by
  rw [get, h, get]

/-! ### Objects that are found -/

variable {s : Store} {k : Kind} {space name : String}

theorem get_eq_ok_none : s.get k space name = .ok none ↔ s.get? ⟨k, space, name⟩ = none := by
  unfold get
  cases s.get? ⟨k, space, name⟩ with
  | none => exact iff_of_true rfl rfl
  | some j =>
    refine iff_of_false (fun h => ?_) (fun h => nomatch h)
    obtain ⟨o, -, ho⟩ := map_eq_ok.mp h
    cases ho

theorem get_eq_ok_some {o : k.Object} :
    s.get k space name = .ok (some o) ↔
      ∃ j, s.get? ⟨k, space, name⟩ = some j ∧ Document.read k.Object j = .ok o := by
  unfold get
  cases s.get? ⟨k, space, name⟩ with
  | none => exact iff_of_false (fun h => nomatch h) fun ⟨_, h, _⟩ => nomatch h
  | some j =>
    constructor
    · intro h
      obtain ⟨o', hread, ho⟩ := map_eq_ok.mp h
      exact ⟨j, rfl, Option.some.inj ho ▸ mapError_eq_ok.mp hread⟩
    · rintro ⟨j', hj, hread⟩
      cases hj
      exact map_eq_ok.mpr ⟨o, mapError_eq_ok.mpr hread, rfl⟩

end Store

end ClusterOperator
