import Mathlib.Logic.Relation
import ClusterOperator.Proofs.Stores.Frame

/-!
# Versions tell documents apart

Every write gives the document that it stores a new version, and the counter of versions never goes
back. So whatever the clients of a store do, a child that is found later under the version of an
earlier one is the very same document: a child that was deleted and created again in between carries
a newer version. Only a new status leaves the version of a document as it is, and children have no
status of their own.

## Main definitions

* `Store.ClientStep`: what a client does to the store.
* `Store.Versioned`: a store whose documents carry versions that it has given.
* `Store.Follows`: later children are those of an earlier store or carry newer versions.

## Main results

* `Store.ClientStep.change`: what clients do comes down to a few changes.
* `Store.Versioned.of_steps`, `Store.follows_of_steps`: any steps of clients.
* `Store.Versioned.eq_of_version`: the version of a child tells it from later ones.
* `Store.Versioned.stale_of_write`: after a write the version of an earlier child is gone.
-/

namespace ClusterOperator

open Document

/-! ### The version of a written document -/

set_option maxRecDepth 10000 in
/-- The shape of every kind of objects is well-formed. -/
theorem Kind.wellFormed (k : Kind) : (Document.shape k.Object).wellFormed = true := by
  cases k with
  | configMap => exact Child.wellFormed .configMap
  | declaration => exact Declaration.wellFormed
  | pod => rfl
  | service => exact Child.wellFormed .service
  | statefulSet => exact Child.wellFormed .statefulSet

/-- The version of an object is read back. -/
theorem Kind.resourceVersion_reread (k : Kind) (o : k.Object) :
    (k.metadata (reread o)).resourceVersion = (k.metadata o).resourceVersion := by
  cases k <;>
  · obtain ⟨⟨_, _, _, _, _, _, _, version, _⟩, _⟩ := o
    cases version <;> rfl

theorem Kind.resourceVersion_withVersion (k : Kind) (version : Option String) (o : k.Object) :
    (k.metadata (k.withVersion version o)).resourceVersion = version := by
  cases k <;> rfl

namespace Store

theorem versionOf_write (k : Kind) (version : Option String) (o : k.Object) :
    versionOf (Document.write (k.withVersion version o)) = version :=
  calc versionOf (Document.write (k.withVersion version o))
    _ = (k.metadata (reread (k.withVersion version o))).resourceVersion :=
      versionOf_eq (k.tidy_write _) (Document.read_write k.wellFormed _)
    _ = version := (k.resourceVersion_reread _).trans (k.resourceVersion_withVersion version o)

theorem versionText_injective {m n : Nat} (h : versionText m = versionText n) : m = n :=
  Text.repr_injective h

/-! ### What clients do -/

variable {s s' s'' : Store} {key : Key} {j j' : Json}

/-- A step of a client: a request of any kind, or a document that is stored or changed without
regard to its version. -/
inductive ClientStep (s : Store) : Store → Prop
  | requested (r : Request) : ClientStep s (s.answer r).2
  | put (key : Key) {j : Json} (tidy : j.Tidy) : ClientStep s (s.put key j)
  | amended (key : Key) {change : Json → Json} (tidy : ∀ j, j.Tidy → (change j).Tidy) :
      ClientStep s (s.amend key change)

/-- What a step comes down to: a document is stored under a new version or removed, the counter
moves on, a declaration gets a status, or nothing changes. -/
inductive Change (s : Store) : Store → Prop
  | stored (key : Key) {j : Json} (tidy : j.Tidy)
      (fresh : versionOf j = some (versionText (s.version + 1))) :
      Change s { objects := s.objects.insert key j, version := s.version + 1 }
  | removed (key : Key) : Change s (s.remove key)
  | counted : Change s { s with version := s.version + 1 }
  | reported {key : Key} {j : Json} (hkey : key.kind = .declaration) (found : s.get? key = some j)
      (status : Json) : Change s { s with objects := s.objects.insert key (j.set "status" status) }
  | none : Change s s

theorem Change.write (s : Store) (key : Key) (o : key.kind.Object) : s.Change (s.write key o).2 :=
  .stored key (key.kind.tidy_write _) (versionOf_write key.kind _ o)

theorem Change.put (s : Store) (key : Key) (tidy : j.Tidy) : s.Change (s.put key j) := by
  obtain ⟨ms, rfl, once, metaOnce⟩ := tidy
  exact .stored key (tidy_stamp (j := .object ms) once metaOnce _) (versionOf_stamp _ _)

theorem Change.create (s : Store) (k : Kind) (space : String) (o : k.Object) :
    s.Change (s.create k space o).2 := by
  cases hfound : s.get? (keyOf k space o) with
  | some j => exact (create_taken hfound).symm ▸ .none
  | none => exact (create_fresh hfound).symm ▸ .write s (keyOf k space o) o

theorem Change.update (s : Store) (k : Kind) (space : String) (o : k.Object) :
    s.Change (s.update k space o).2 := by
  cases hfound : s.get? (keyOf k space o) with
  | none => exact (update_missing hfound).symm ▸ .none
  | some j =>
    by_cases hv : versionOf j = (k.metadata o).resourceVersion
    · exact (update_current hfound hv).symm ▸ .write s (keyOf k space o) o
    · exact (update_stale hfound hv).symm ▸ .none

theorem Change.updateStatus (s : Store) (d : Declaration) : s.Change (s.updateStatus d).2 := by
  cases hfound : s.get? (keyOf .declaration d.metadata.spaceOrEmpty d) with
  | none => exact (updateStatus_missing hfound).symm ▸ .none
  | some j => exact (updateStatus_stored hfound).symm ▸ .reported rfl hfound _

/-- What a client does comes down to one change. -/
theorem ClientStep.change (tidy : s.Tidy) (h : s.ClientStep s') : s.Change s' := by
  cases h with
  | requested r =>
    cases r with
    | get => exact .none
    | list => exact .none
    | create k space o => exact .create s k space o
    | update k space o => exact .update s k space o
    | delete k space name => exact .removed _
    | updateStatus d => exact .updateStatus s d
  | put key htidy => exact .put s key htidy
  | amended key htidy =>
    unfold amend
    cases hfound : s.get? key with
    | some j => exact .put s key (htidy j (tidy key j hfound))
    | none => exact .counted

/-! ### Versions that were given -/

/-- Every document is tidy and carries a version that the store has given. -/
structure Versioned (s : Store) : Prop where
  tidy : s.Tidy
  given : ∀ key j, s.get? key = some j → ∃ n ≤ s.version, versionOf j = some (versionText n)

theorem versioned_empty : Versioned {} := ⟨tidy_empty, fun _ _ h => nomatch h⟩

/-- A change leaves a document, or stores one. -/
theorem get?_insert_eq_some {m : SortedMap Key Json} {key other : Key} {j j' : Json}
    (h : (m.insert key j).get? other = some j') :
    (other = key ∧ j = j') ∨ m.get? other = some j' := by
  by_cases hother : other = key
  · subst hother
    exact .inl ⟨rfl, Option.some.inj ((SortedMap.get?_insert_self ..).symm.trans h)⟩
  · exact .inr ((SortedMap.get?_insert_of_ne _ _ hother).symm.trans h)

theorem get?_remove_eq_some {key other : Key} (h : (s.remove key).get? other = some j) :
    s.get? other = some j := by
  by_cases hother : other = key
  · subst hother
    cases (SortedMap.get?_erase_self ..).symm.trans h
  · exact (SortedMap.get?_erase_of_ne _ hother).symm.trans h

/-- A status leaves the version as it is. -/
theorem versionOf_set_status (j : Json) (status : Json) :
    versionOf (j.set "status" status) = versionOf j := by
  have hmetadata : (j.set "status" status).getD "metadata" = j.getD "metadata" :=
    congrArg (Option.getD · Json.null) (Json.get?_set_of_ne j status (by decide))
  rw [versionOf, hmetadata, versionOf]

theorem Change.versioned (h : s.Change s') (versioned : s.Versioned) : s'.Versioned := by
  obtain ⟨tidy, given⟩ := versioned
  have hlater : ∀ {other found}, s.get? other = some found →
      ∃ n ≤ s.version + 1, versionOf found = some (versionText n) := fun hfound =>
    let ⟨n, hn, hversion⟩ := given _ _ hfound
    ⟨n, Nat.le_succ_of_le hn, hversion⟩
  cases h with
  | stored key htidy hfresh =>
    refine ⟨tidy.insert key htidy _, fun other found hfound => ?_⟩
    rcases get?_insert_eq_some hfound with ⟨-, rfl⟩ | hold
    · exact ⟨_, Nat.le_refl _, hfresh⟩
    · exact hlater hold
  | removed key =>
    exact ⟨tidy.remove key, fun other found hfound =>
      given other found (get?_remove_eq_some hfound)⟩
  | counted => exact ⟨tidy, fun _ _ => hlater⟩
  | @reported key j hkey hj status =>
    have htidy : (j.set "status" status).Tidy := (tidy key j hj).set (by decide) status
    refine ⟨tidy.insert key htidy _, fun other found hfound => ?_⟩
    rcases get?_insert_eq_some hfound with ⟨-, rfl⟩ | hold
    · rw [versionOf_set_status]
      exact given key j hj
    · exact given other found hold
  | none => exact ⟨tidy, given⟩

/-! ### Later stores -/

/-- A child of a later store is one of the earlier store, or carries a version that was given in
between. -/
structure Follows (s s' : Store) : Prop where
  version : s.version ≤ s'.version
  found : ∀ key j, key.kind ≠ .declaration → s'.get? key = some j →
    s.get? key = some j ∨ ∃ n, s.version < n ∧ versionOf j = some (versionText n)

theorem Follows.refl (s : Store) : s.Follows s := ⟨Nat.le_refl _, fun _ _ _ => .inl⟩

theorem Follows.trans (h : s.Follows s') (h' : s'.Follows s'') : s.Follows s'' := by
  refine ⟨Nat.le_trans h.version h'.version, fun key j hkey hj => ?_⟩
  rcases h'.found key j hkey hj with hj' | ⟨n, hn, hversion⟩
  · exact h.found key j hkey hj'
  · exact .inr ⟨n, Nat.lt_of_le_of_lt h.version hn, hversion⟩

theorem Change.follows (h : s.Change s') : s.Follows s' := by
  cases h with
  | stored key htidy hfresh =>
    refine ⟨Nat.le_succ _, fun other found _ hfound => ?_⟩
    rcases get?_insert_eq_some hfound with ⟨-, rfl⟩ | hold
    · exact .inr ⟨_, Nat.lt_succ_self _, hfresh⟩
    · exact .inl hold
  | removed key => exact ⟨Nat.le_refl _, fun _ _ _ hfound => .inl (get?_remove_eq_some hfound)⟩
  | counted => exact ⟨Nat.le_succ _, fun _ _ _ => .inl⟩
  | reported hdeclaration =>
    refine ⟨Nat.le_refl _, fun other found hother hfound => ?_⟩
    rcases get?_insert_eq_some hfound with ⟨rfl, -⟩ | hold
    · exact absurd hdeclaration hother
    · exact .inl hold
  | none => exact .refl s

/-- Any steps of clients, one after the other. -/
abbrev ClientSteps : Store → Store → Prop := Relation.ReflTransGen ClientStep

/-- Whatever clients do, documents stay tidy and carry versions that were given. -/
theorem Versioned.of_steps (versioned : s.Versioned) (h : ClientSteps s s') : s'.Versioned := by
  induction h with
  | refl => exact versioned
  | tail _ hstep ih => exact (hstep.change ih.tidy).versioned ih

/-- Whatever clients do, the store that they leave follows the one that they found. -/
theorem follows_of_steps (versioned : s.Versioned) (h : ClientSteps s s') : s.Follows s' := by
  induction h with
  | refl => exact .refl s
  | tail hsteps hstep ih =>
    exact ih.trans (hstep.change (versioned.of_steps hsteps).tidy).follows

/-- No document has a version that the store has not given yet. -/
theorem Versioned.version_ne (versioned : s.Versioned) (hj : s.get? key = some j) {n : Nat}
    (hn : s.version < n) : versionOf j ≠ some (versionText n) := by
  intro hversion
  obtain ⟨m, hm, hgiven⟩ := versioned.given key j hj
  have heq : m = n := versionText_injective (Option.some.inj (hgiven.symm.trans hversion))
  exact absurd hn (Nat.not_lt.mpr (heq ▸ hm))

/-- A child that is found later under the version of an earlier one is this one. -/
theorem Versioned.eq_of_version (versioned : s.Versioned) (follows : s.Follows s')
    (hkey : key.kind ≠ .declaration) (hj : s.get? key = some j) (hj' : s'.get? key = some j')
    (hversion : versionOf j' = versionOf j) : j' = j := by
  rcases follows.found key j' hkey hj' with hold | ⟨n, hn, hnew⟩
  · exact Option.some.inj (hold.symm.trans hj)
  · exact absurd (hversion.symm.trans hnew) (versioned.version_ne hj hn)

/-- After a write under its key the version of an earlier child is not found any more. -/
theorem Versioned.stale_of_write (versioned : s.Versioned) (follows : s.Follows s')
    {o : key.kind.Object} (follows' : (s'.write key o).2.Follows s'')
    (hkey : key.kind ≠ .declaration) (hj : s.get? key = some j) (hj' : s''.get? key = some j') :
    versionOf j' ≠ versionOf j := by
  intro hversion
  -- what is found is what was written, or it is newer still
  obtain ⟨n, hn, hnew⟩ : ∃ n, s'.version < n ∧ versionOf j' = some (versionText n) := by
    rcases follows'.found key j' hkey hj' with hold | ⟨n, hn, hnew⟩
    · cases (get?_write_self s' key o).symm.trans hold
      exact ⟨_, Nat.lt_succ_self _, versionOf_write key.kind _ o⟩
    · exact ⟨n, Nat.lt_of_succ_lt hn, hnew⟩
  have hlater : s.version < n := Nat.lt_of_le_of_lt follows.version hn
  exact versioned.version_ne hj hlater (hversion.symm.trans hnew)

end Store

end ClusterOperator
