import ClusterOperator.Proofs.Children.Resumed
import ClusterOperator.Proofs.Stores.Versions

/-!
# Stores that agree on some documents

When two clients write into one store, each finds the documents of the other one changed, and the
counter of versions further on than it would be without the other one. A client that minds its own
documents finds them as they would be, except that what it has created or updated itself carries
another version. Requests about documents on which two stores agree in this way are answered alike,
and the stores agree afterwards.

## Main definitions

* `Store.AgreesOn`: two stores hold the same documents, but for the versions of some of them.
* `Request.Minds`: a request about documents of one's own that changes none of them twice.
* `Request.Alike`: replies that differ at most in the version of an object.

## Main results

* `Request.Minds.spares`: such a request leaves all other documents alone.
* `Store.AgreesOn.answer`: stores that agree answer alike and agree afterwards.
-/

namespace ClusterOperator

variable {mine written : Key → Prop}

/-! ### Requests about documents of one's own -/

namespace Request

/-- Replies to a request that are the same, except that an object which was written before, or is
written now, may have another version. -/
inductive Alike {ε : Type} (written : Key → Prop) :
    (r : Request) → Except ε r.Result → Except ε r.Result → Prop
  | same {r : Request} (reply : Except ε r.Result) : Alike written r reply reply
  | got {k : Kind} {space name : String} (before : written ⟨k, space, name⟩)
      (v w : Option String) (o : k.Object) :
      Alike written (.get k space name) (.ok (some (Document.reread (k.withVersion v o))))
        (.ok (some (Document.reread (k.withVersion w o))))
  | created {k : Kind} {space : String} {want : k.Object} (o o' : k.Object) :
      Alike written (.create k space want) (.ok o) (.ok o')
  | updated {k : Kind} {space : String} {want : k.Object} (o o' : k.Object) :
      Alike written (.update k space want) (.ok o) (.ok o')

/-- A request that gives the document under a key a new version. -/
def Stamps (r : Request) (key : Key) : Prop :=
  (r.verb = .create ∨ r.verb = .update) ∧ r.key = key

/-- A request about documents of one's own. It deletes none, it changes none that was written
before, and it creates and updates no pods. -/
def Minds (mine written : Key → Prop) (r : Request) : Prop :=
  match r with
  | .get _ _ _ => mine r.key
  | .list k space _ => ∀ name, mine ⟨k, space, name⟩ ∧ ¬ written ⟨k, space, name⟩
  | .create _ _ _ | .update _ _ _ | .updateStatus _ =>
    mine r.key ∧ ¬ written r.key ∧ r.kind ≠ .pod
  | .delete _ _ _ => False

variable {r : Request}

theorem Alike.mapError {ε ε' : Type} {a b : Except ε r.Result} (h : r.Alike written a b)
    (f : ε → ε') : r.Alike written (a.mapError f) (b.mapError f) := by
  cases h with
  | same => exact .same _
  | got before v w o => exact .got before v w o
  | created => exact .created _ _
  | updated => exact .updated _ _

theorem Alike.mono {ε : Type} {before : Key → Prop} {a b : Except ε r.Result}
    (h : r.Alike before a b) (le : ∀ key, before key → written key) : r.Alike written a b := by
  cases h with
  | same => exact .same _
  | got before v w o => exact .got (le _ before) v w o
  | created => exact .created _ _
  | updated => exact .updated _ _

/-- Replies that are alike are the same, or neither is an error. -/
theorem Alike.eq_or_ok {ε : Type} {a b : Except ε r.Result} (h : r.Alike written a b) :
    a = b ∨ ∃ x y, a = .ok x ∧ b = .ok y := by
  cases h with
  | same => exact .inl rfl
  | _ => exact .inr ⟨_, _, rfl, rfl⟩

/-- An object that was not written before is got alike only if it is the same. -/
theorem Alike.get_eq {ε : Type} {k : Kind} {space name : String}
    {a b : Except ε (Option k.Object)} (h : (Request.get k space name).Alike written a b)
    (fresh : ¬ written ⟨k, space, name⟩) : a = b := by
  cases h with
  | same => rfl
  | got before => exact absurd before fresh

theorem not_stamps_of_reads (h : r.reads = true) (key : Key) : ¬ r.Stamps key := by
  rintro ⟨hverb | hverb, -⟩ <;> cases r <;> cases hverb <;> cases h

theorem Minds.anti {before : Key → Prop} (h : r.Minds mine written)
    (le : ∀ key, before key → written key) : r.Minds mine before := by
  cases r with
  | get => exact h
  | list k space selector => exact fun name => ⟨(h name).1, fun hname => (h name).2 (le _ hname)⟩
  | delete => exact h
  | create | update | updateStatus => exact ⟨h.1, fun hkey => h.2.1 (le _ hkey), h.2.2⟩

/-- A request about documents of one's own leaves all others alone, and all pods. -/
theorem Minds.spares (h : r.Minds mine written) {key : Key}
    (hkey : mine key → key.kind = .pod) : r.Spares key := by
  cases r with
  | get => exact .inl rfl
  | list => exact .inl rfl
  | delete => exact h.elim
  | create | update | updateStatus =>
    exact .inr fun heq => h.2.2 ((congrArg Key.kind heq).trans (hkey (heq ▸ h.1)))

end Request

/-! ### Agreement -/

namespace Store

/-- Two stores agree on documents of one's own: they hold the same ones, except that those that were
written may have different versions. -/
structure AgreesOn (mine written : Key → Prop) (s t : Store) : Prop where
  same : ∀ key, mine key → Option.Rel key.kind.SameButVersion (s.get? key) (t.get? key)
  eq : ∀ key, mine key → ¬ written key → s.get? key = t.get? key

namespace AgreesOn

variable {s t : Store}

theorem refl (mine written : Key → Prop) (s : Store) : s.AgreesOn mine written s :=
  ⟨fun key _ => key.kind.sameButVersion_refl _, fun _ _ _ => rfl⟩

theorem mono {before : Key → Prop} (h : s.AgreesOn mine before t)
    (le : ∀ key, before key → written key) : s.AgreesOn mine written t :=
  ⟨h.same, fun key hmine hkey => h.eq key hmine fun hbefore => hkey (le key hbefore)⟩

/-- What happens to other documents makes no difference. -/
theorem of_get? {t' : Store} (h : s.AgreesOn mine written t)
    (kept : ∀ key, mine key → t'.get? key = t.get? key) : s.AgreesOn mine written t' :=
  ⟨fun key hmine => kept key hmine ▸ h.same key hmine,
    fun key hmine hkey => (h.eq key hmine hkey).trans (kept key hmine).symm⟩

/-- What is written into both is the same but for the version. -/
theorem write (h : s.AgreesOn mine written t) (key : Key) (o : key.kind.Object) :
    (s.write key o).2.AgreesOn mine (fun other => written other ∨ key = other)
      (t.write key o).2 := by
  constructor
  · intro other hmine
    by_cases hother : other = key
    · subst hother
      rw [get?_write_self, get?_write_self]
      exact .some (.versions _ _ o)
    · rw [get?_write_of_ne s o hother, get?_write_of_ne t o hother]
      exact h.same other hmine
  · intro other hmine hwritten
    have hother : other ≠ key := fun heq => hwritten (.inr heq.symm)
    rw [get?_write_of_ne s o hother, get?_write_of_ne t o hother]
    exact h.eq other hmine fun hbefore => hwritten (.inl hbefore)

/-- A document that replaces one in both makes no difference. -/
theorem insert (h : s.AgreesOn mine written t) (key : Key) (j : Json) :
    AgreesOn mine written { s with objects := s.objects.insert key j }
      { t with objects := t.objects.insert key j } := by
  have hself : ∀ r : Store, Store.get? { r with objects := r.objects.insert key j } key = some j :=
    fun r => SortedMap.get?_insert_self r.objects key j
  have hne : ∀ (r : Store) (other : Key), other ≠ key →
      Store.get? { r with objects := r.objects.insert key j } other = r.get? other :=
    fun r other hother => SortedMap.get?_insert_of_ne r.objects j hother
  constructor
  · intro other hmine
    by_cases hother : other = key
    · rw [hother, hself, hself]
      exact key.kind.sameButVersion_refl _
    · rw [hne s other hother, hne t other hother]
      exact h.same other hmine
  · intro other hmine hwritten
    by_cases hother : other = key
    · rw [hother, hself, hself]
    · rw [hne s other hother, hne t other hother]
      exact h.eq other hmine hwritten

/-- An object that is got is the same, or it was written and has another version. -/
theorem get (h : s.AgreesOn mine written t) {k : Kind} {space name : String}
    (hmine : mine ⟨k, space, name⟩) :
    (Request.get k space name).Alike written (s.get k space name) (t.get k space name) := by
  by_cases hwritten : written ⟨k, space, name⟩
  · have hsame : Option.Rel k.SameButVersion _ _ := h.same _ hmine
    unfold Store.get
    generalize s.get? ⟨k, space, name⟩ = found, t.get? ⟨k, space, name⟩ = found' at hsame
    cases hsame with
    | none => exact .same _
    | some hversion =>
      cases hversion with
      | same => exact .same _
      | versions v w o =>
        simp only [Document.read_write k.wellFormed]
        exact .got hwritten v w o
  · rw [get_congr (h.eq _ hmine hwritten)]
    exact .same _

/-- Stores that agree on documents of one's own answer requests about them alike, and agree on them
afterwards. -/
theorem answer (h : s.AgreesOn mine written t) {r : Request} (minds : r.Minds mine written) :
    r.Alike written (s.answer r).1 (t.answer r).1 ∧
      (s.answer r).2.AgreesOn mine (fun key => written key ∨ r.Stamps key) (t.answer r).2 := by
  have hkept : s.AgreesOn mine (fun key => written key ∨ r.Stamps key) t :=
    h.mono fun _ => .inl
  cases r with
  | get k space name => exact ⟨h.get minds, hkept⟩
  | list k space selector =>
    have hlist : (s.answer (.list k space selector)).1 = (t.answer (.list k space selector)).1 :=
      list_congr (fun name => h.eq ⟨k, space, name⟩ (minds name).1 (minds name).2) selector
    rw [hlist]
    exact ⟨.same _, hkept⟩
  | delete => exact minds.elim
  | create k space o =>
    have hsame := h.eq (keyOf k space o) minds.1 minds.2.1
    cases hfound : s.get? (keyOf k space o) with
    | some j =>
      have hs : s.answer (.create k space o) = _ := create_taken hfound
      have ht : t.answer (.create k space o) = _ := create_taken (hsame.symm.trans hfound)
      rw [hs, ht]
      exact ⟨.same _, hkept⟩
    | none =>
      have hs : s.answer (.create k space o) = _ := create_fresh hfound
      have ht : t.answer (.create k space o) = _ := create_fresh (hsame.symm.trans hfound)
      rw [hs, ht]
      exact ⟨.created _ _, (h.write (keyOf k space o) o).mono fun _ => .imp_right (⟨.inl rfl, ·⟩)⟩
  | update k space o =>
    have hsame := h.eq (keyOf k space o) minds.1 minds.2.1
    cases hfound : s.get? (keyOf k space o) with
    | none =>
      have hs : s.answer (.update k space o) = _ := update_missing hfound
      have ht : t.answer (.update k space o) = _ := update_missing (hsame.symm.trans hfound)
      rw [hs, ht]
      exact ⟨.same _, hkept⟩
    | some j =>
      by_cases hv : versionOf j = (k.metadata o).resourceVersion
      · have hs : s.answer (.update k space o) = _ := update_current hfound hv
        have ht : t.answer (.update k space o) = _ := update_current (hsame.symm.trans hfound) hv
        rw [hs, ht]
        exact ⟨.updated _ _,
          (h.write (keyOf k space o) o).mono fun _ => .imp_right (⟨.inr rfl, ·⟩)⟩
      · have hs : s.answer (.update k space o) = _ := update_stale hfound hv
        have ht : t.answer (.update k space o) = _ := update_stale (hsame.symm.trans hfound) hv
        rw [hs, ht]
        exact ⟨.same _, hkept⟩
  | updateStatus d =>
    have hsame := h.eq (keyOf .declaration d.metadata.spaceOrEmpty d) minds.1 minds.2.1
    cases hfound : s.get? (keyOf .declaration d.metadata.spaceOrEmpty d) with
    | none =>
      have hs : s.answer (.updateStatus d) = _ := updateStatus_missing hfound
      have ht : t.answer (.updateStatus d) = _ := updateStatus_missing (hsame.symm.trans hfound)
      rw [hs, ht]
      exact ⟨.same _, hkept⟩
    | some j =>
      have hs : s.answer (.updateStatus d) = _ := updateStatus_stored hfound
      have ht : t.answer (.updateStatus d) = _ := updateStatus_stored (hsame.symm.trans hfound)
      rw [hs, ht]
      exact ⟨.same _, hkept.insert _ _⟩

end AgreesOn

end Store

end ClusterOperator
