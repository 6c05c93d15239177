import ClusterOperator.SortedMap

/-!
# The entries of a sorted map

The entries of a map are what is found under its keys, each key standing once. As the keys
increase, the entries under some of the keys are known, in their order, from what is found there.

## Main results

* `SortedMap.get?_insert`, `SortedMap.get?_erase`: what is found after a change.
* `SortedMap.mem_entries_iff`, `SortedMap.filter_entries_key`: the entries are what is found.
* `SortedMap.get?_union`: what is found in the entries of two maps.
* `SortedMap.filter_entries_congr`: maps that agree on keys list the same entries for them.
-/

namespace ClusterOperator

open SortedMap.Entries (lookup)

namespace SortedMap

variable {κ α : Type} [KeyOrder κ]

/-- What is found after an insertion. -/
theorem get?_insert (m : SortedMap κ α) (k k' : κ) (v : α) :
    (m.insert k v).get? k' = if k' = k then some v else m.get? k' := by
  by_cases hkey : k' = k
  · rw [if_pos hkey, hkey, get?_insert_self]
  · rw [if_neg hkey, get?_insert_of_ne m v hkey]

/-- What is found after a removal. -/
theorem get?_erase (m : SortedMap κ α) (k k' : κ) :
    (m.erase k).get? k' = if k' = k then none else m.get? k' := by
  by_cases hkey : k' = k
  · rw [if_pos hkey, hkey, get?_erase_self]
  · rw [if_neg hkey, get?_erase_of_ne m hkey]

theorem contains_insert (m : SortedMap κ α) (k k' : κ) (v : α) :
    (m.insert k v).contains k' = (decide (k' = k) || m.contains k') := by
  by_cases hkey : k' = k <;> simp [contains, get?_insert, hkey]

theorem contains_erase (m : SortedMap κ α) (k k' : κ) :
    (m.erase k).contains k' = (decide (k' ≠ k) && m.contains k') := by
  by_cases hkey : k' = k <;> simp [contains, get?_erase, hkey]

/-- What is listed under a key that stands once is found. -/
theorem lookup_eq_some_of_mem :
    ∀ {es : List (κ × α)}, (es.map Prod.fst).Nodup → ∀ {e : κ × α}, e ∈ es →
      lookup e.1 es = some e.2
  | [], _, _, h => by cases h
  | (k, v) :: es, nodup, e, h => by
    obtain ⟨hk, nodup⟩ := List.nodup_cons.mp nodup
    rcases List.mem_cons.mp h with rfl | h
    · exact if_pos rfl
    · have hne : e.1 ≠ k := fun heq => hk (List.mem_map.mpr ⟨e, h, heq⟩)
      exact (if_neg hne).trans (lookup_eq_some_of_mem nodup h)

theorem mem_of_lookup {k : κ} {v : α} :
    ∀ {es : List (κ × α)}, lookup k es = some v → (k, v) ∈ es
  | [], h => by cases h
  | (k', v') :: es, h => by
    rw [Entries.lookup] at h
    split at h
    · next heq =>
      cases h
      exact heq ▸ List.mem_cons_self
    · exact List.mem_cons_of_mem _ (mem_of_lookup h)

/-- The keys of a map are distinct. -/
theorem nodup_keys (m : SortedMap κ α) : (m.entries.map Prod.fst).Nodup := by
  have hsorted : m.entries.Pairwise fun a b => a.1 < b.1 := m.sorted
  refine List.pairwise_map.mpr (hsorted.imp fun {a b} hlt heq => ?_)
  rw [heq] at hlt
  exact KeyOrder.irrefl b.1 hlt

/-- The entries are what is found. -/
theorem mem_entries_iff (m : SortedMap κ α) (e : κ × α) :
    e ∈ m.entries ↔ m.get? e.1 = some e.2 :=
  ⟨lookup_eq_some_of_mem m.nodup_keys, mem_of_lookup⟩

/-- At most one entry stands under a key, and it is what is found. -/
theorem filter_entries_key (m : SortedMap κ α) (k : κ) :
    (m.entries.filter fun e => decide (e.1 = k)).map Prod.snd = (m.get? k).toList := by
  have hlist : ∀ es : List (κ × α), (es.map Prod.fst).Nodup →
      (es.filter fun e => decide (e.1 = k)).map Prod.snd = (lookup k es).toList := by
    intro es nodup
    induction es with
    | nil => rfl
    | cons e es ih =>
      obtain ⟨k', v⟩ := e
      obtain ⟨hk', nodup⟩ := List.nodup_cons.mp nodup
      by_cases heq : k' = k
      · subst heq
        have hnone : (es.filter fun e => decide (e.1 = k')) = [] := by
          refine List.filter_eq_nil_iff.mpr fun e he hdecide => hk' ?_
          exact List.mem_map.mpr ⟨e, he, of_decide_eq_true hdecide⟩
        rw [List.filter_cons_of_pos (by simp), hnone, Entries.lookup, if_pos rfl]
        rfl
      · rw [List.filter_cons_of_neg (by simpa using heq), ih nodup, Entries.lookup,
          if_neg (Ne.symm heq)]
  exact hlist m.entries m.nodup_keys

/-- Of entries whose keys stand once, each is found once all are inserted. -/
theorem get?_foldl_insert (k : κ) {es : List (κ × α)} (nodup : (es.map Prod.fst).Nodup)
    (m : SortedMap κ α) :
    (es.foldl (fun m e => m.insert e.1 e.2) m).get? k = (lookup k es).or (m.get? k) := by
  induction es generalizing m with
  | nil => rfl
  | cons e es ih =>
    obtain ⟨k', v⟩ := e
    obtain ⟨hk', nodup⟩ := List.nodup_cons.mp nodup
    rw [List.foldl_cons, ih nodup, Entries.lookup]
    by_cases heq : k = k'
    · subst heq
      have hnone : lookup k es = none := by
        cases hfound : lookup k es with
        | none => rfl
        | some v' => exact absurd (List.mem_map_of_mem (mem_of_lookup hfound)) hk'
      rw [if_pos rfl, hnone, get?_insert_self]
      rfl
    · rw [if_neg heq, get?_insert_of_ne m v heq]

/-- Of two maps the second one decides, where it has a key. -/
theorem get?_union (m n : SortedMap κ α) (k : κ) :
    (m.union n).get? k = (n.get? k).or (m.get? k) :=
  get?_foldl_insert k n.nodup_keys m

/-- Maps that agree on keys list the same entries for them. -/
theorem filter_entries_congr {m n : SortedMap κ α} (p : κ → Bool)
    (h : ∀ k, p k = true → m.get? k = n.get? k) :
    (m.entries.filter fun e => p e.1) = n.entries.filter fun e => p e.1 := by
  have hmem : ∀ e, (e ∈ m.entries.filter fun e => p e.1) ↔ e ∈ n.entries.filter fun e => p e.1 := by
    intro e
    simp only [List.mem_filter, mem_entries_iff]
    exact and_congr_left fun hp => by rw [h e.1 hp]
  have nodup : ∀ o : SortedMap κ α, (o.entries.filter fun e => p e.1).Nodup := fun o =>
    List.Nodup.sublist List.filter_sublist (List.Pairwise.of_map Prod.fst
      (fun a b hne heq => hne (congrArg Prod.fst heq)) o.nodup_keys)
  have sorted : ∀ o : SortedMap κ α,
      (o.entries.filter fun e => p e.1).Pairwise fun a b => a.1 < b.1 := fun o =>
    Entries.Sorted.filter _ o.sorted
  refine List.Perm.eq_of_pairwise ?_ (sorted m) (sorted n)
    ((List.perm_ext_iff_of_nodup (nodup m) (nodup n)).mpr hmem)
  intro a b _ _ hab hba
  exact absurd (KeyOrder.trans hab hba) (KeyOrder.irrefl a.1)

end SortedMap

end ClusterOperator
