/-!
# Maps kept in key order

Label maps, annotations, resource quantities and the object store itself are all maps whose keys
are listed in increasing order. A `SortedMap κ α` is the list of its entries together with the
proof that the keys strictly increase, so two maps with the same entries are equal and listing a
map needs no further sorting.

Insertion is a single pass that replaces the entry of an equal key, so the laws for looking up
after an insertion hold without any side condition on the list.

## Main definitions

* `KeyOrder`: the laws that the order of keys has to satisfy.
* `SortedMap`: entries with strictly increasing keys; `Dict α` has strings as keys.
* `SortedMap.get?`, `SortedMap.insert`, `SortedMap.erase`, `SortedMap.ofList`,
  `SortedMap.union`, `SortedMap.mapValues`.

## Main results

* `SortedMap.get?_insert_self`, `SortedMap.get?_insert_of_ne`: looking up after an insertion.
* `SortedMap.get?_erase_self`, `SortedMap.get?_erase_of_ne`: looking up after a removal.
-/

namespace ClusterOperator

/-- A decidable strict order in which any two different keys are comparable. -/
class KeyOrder (κ : Type) extends LT κ where
  decLt : DecidableRel (α := κ) (· < ·)
  decEq : DecidableEq κ
  irrefl : ∀ a : κ, ¬ a < a
  trans : ∀ {a b c : κ}, a < b → b < c → a < c
  connected : ∀ {a b : κ}, ¬ a < b → a ≠ b → b < a

attribute [reducible, instance] KeyOrder.decLt KeyOrder.decEq

instance : KeyOrder String where
  decLt := inferInstance
  decEq := inferInstance
  irrefl := String.lt_irrefl
  trans := String.lt_trans
  connected {a b} h hne := by
    have hle : b ≤ a := h
    by_cases hba : b < a
    · exact hba
    · exact absurd (String.le_antisymm hba hle) hne

namespace SortedMap.Entries

variable {κ α β : Type} [KeyOrder κ]

/-- The value stored under a key, if there is one. -/
def lookup (k : κ) : List (κ × α) → Option α
  | [] => none
  | (k', v) :: rest => if k = k' then some v else lookup k rest

/-- Puts an entry at its place, replacing the entry of an equal key. -/
def insert (k : κ) (v : α) : List (κ × α) → List (κ × α)
  | [] => [(k, v)]
  | (k', v') :: rest =>
    if k < k' then (k, v) :: (k', v') :: rest
    else if k = k' then (k, v) :: rest
    else (k', v') :: insert k v rest

/-- Keys strictly increase along the list. -/
def Sorted (es : List (κ × α)) : Prop := es.Pairwise fun a b => a.1 < b.1

theorem mem_insert {k : κ} {v : α} {e : κ × α} {es : List (κ × α)} (h : e ∈ insert k v es) :
    e = (k, v) ∨ e ∈ es := by
  induction es with
  | nil => simpa [insert] using h
  | cons hd tl ih =>
    obtain ⟨k', v'⟩ := hd
    rw [insert] at h
    split at h
    · simpa using h
    · split at h <;> grind

theorem Sorted.insert {k : κ} {v : α} {es : List (κ × α)} (h : Sorted es) :
    Sorted (Entries.insert k v es) := by
  induction es with
  | nil => simp [Entries.insert, Sorted]
  | cons hd tl ih =>
    obtain ⟨k', v'⟩ := hd
    obtain ⟨hhd, htl⟩ := List.pairwise_cons.mp h
    rw [Entries.insert]
    split
    · next hlt =>
      refine List.pairwise_cons.mpr ⟨fun e he => ?_, h⟩
      rcases List.mem_cons.mp he with rfl | he
      · exact hlt
      · exact KeyOrder.trans hlt (hhd e he)
    · next hnlt =>
      split
      · next heq =>
        subst heq
        exact List.pairwise_cons.mpr ⟨hhd, htl⟩
      · next hne =>
        refine List.pairwise_cons.mpr ⟨fun e he => ?_, ih htl⟩
        rcases mem_insert he with rfl | he
        · exact KeyOrder.connected hnlt hne
        · exact hhd e he

theorem Sorted.filter {es : List (κ × α)} (p : κ × α → Bool) (h : Sorted es) :
    Sorted (es.filter p) :=
  List.Pairwise.filter p h

theorem Sorted.map {es : List (κ × α)} (f : κ → α → β) (h : Sorted es) :
    Sorted (es.map fun e => (e.1, f e.1 e.2)) :=
  List.Pairwise.map _ (fun _ _ h => h) h

theorem lookup_insert_self (k : κ) (v : α) (es : List (κ × α)) :
    lookup k (insert k v es) = some v := by
  induction es with
  | nil => simp [insert, lookup]
  | cons hd tl ih =>
    obtain ⟨k', v'⟩ := hd
    rw [insert]
    split
    · simp [lookup]
    · split
      · simp [lookup]
      · next hne => simp [lookup, hne, ih]

theorem lookup_insert_of_ne {k k' : κ} (v : α) (hne : k' ≠ k) (es : List (κ × α)) :
    lookup k' (insert k v es) = lookup k' es := by
  induction es with
  | nil => simp [insert, lookup, hne]
  | cons hd tl ih =>
    obtain ⟨k'', v''⟩ := hd
    rw [insert]
    split
    · simp [lookup, hne]
    · split
      · next heq => subst heq; simp [lookup, hne]
      · simp [lookup, ih]

theorem lookup_filter_self (k : κ) (es : List (κ × α)) :
    lookup k (es.filter fun e => decide (e.1 ≠ k)) = none := by
  induction es with
  | nil => rfl
  | cons hd tl ih =>
    obtain ⟨k', v'⟩ := hd
    by_cases h : k' = k
    · simpa [h] using ih
    · have h' : ¬ k = k' := fun e => h e.symm
      simpa [h, lookup, h'] using ih

theorem lookup_filter_of_ne {k k' : κ} (hne : k' ≠ k) (es : List (κ × α)) :
    lookup k' (es.filter fun e => decide (e.1 ≠ k)) = lookup k' es := by
  induction es with
  | nil => rfl
  | cons hd tl ih =>
    obtain ⟨k'', v''⟩ := hd
    by_cases h : k'' = k
    · subst h
      have hf : ((k'', v'') :: tl).filter (fun e => decide (e.1 ≠ k'')) =
          tl.filter (fun e => decide (e.1 ≠ k'')) := by simp
      rw [hf, ih, lookup, if_neg hne]
    · have hf : ((k'', v'') :: tl).filter (fun e => decide (e.1 ≠ k)) =
          (k'', v'') :: tl.filter (fun e => decide (e.1 ≠ k)) := by simp [h]
      rw [hf, lookup, lookup, ih]

end SortedMap.Entries

open SortedMap in
/-- A map as the list of its entries in increasing order of their keys. -/
structure SortedMap (κ α : Type) [KeyOrder κ] where
  entries : List (κ × α)
  sorted : Entries.Sorted entries

/-- A map with strings as keys, listed in the order of their code points. -/
abbrev Dict (α : Type) := SortedMap String α

namespace SortedMap

variable {κ α β : Type} [KeyOrder κ]

@[ext] theorem ext {m n : SortedMap κ α} (h : m.entries = n.entries) : m = n := by
  cases m; cases n; simp_all

instance [DecidableEq α] : DecidableEq (SortedMap κ α) := fun m n =>
  if h : m.entries = n.entries then isTrue (ext h) else isFalse fun e => h (e ▸ rfl)

/-- The map without entries. -/
def empty : SortedMap κ α := ⟨[], List.Pairwise.nil⟩

instance : EmptyCollection (SortedMap κ α) := ⟨empty⟩
instance : Inhabited (SortedMap κ α) := ⟨empty⟩

/-- Whether there is no entry. -/
def isEmpty (m : SortedMap κ α) : Bool := m.entries.isEmpty

/-- The number of entries. -/
def size (m : SortedMap κ α) : Nat := m.entries.length

/-- The value stored under a key, if there is one. -/
def get? (m : SortedMap κ α) (k : κ) : Option α := Entries.lookup k m.entries

/-- Whether a value is stored under the key. -/
def contains (m : SortedMap κ α) (k : κ) : Bool := (m.get? k).isSome

/-- Stores a value under a key, in place of a value stored there before. -/
def insert (m : SortedMap κ α) (k : κ) (v : α) : SortedMap κ α :=
  ⟨Entries.insert k v m.entries, m.sorted.insert⟩

/-- Removes the entry of a key, if there is one. -/
def erase (m : SortedMap κ α) (k : κ) : SortedMap κ α :=
  ⟨m.entries.filter fun e => decide (e.1 ≠ k), m.sorted.filter _⟩

/-- Inserts the entries of a list from left to right, so that of equal keys the last one stays. -/
def ofList (es : List (κ × α)) : SortedMap κ α :=
  es.foldl (fun m e => m.insert e.1 e.2) empty

/-- The entries of both maps; where both have a key, the second one decides. -/
def union (m n : SortedMap κ α) : SortedMap κ α :=
  n.entries.foldl (fun m e => m.insert e.1 e.2) m

/-- Changes every value and keeps the keys. -/
def mapValues (f : κ → α → β) (m : SortedMap κ α) : SortedMap κ β :=
  ⟨m.entries.map fun e => (e.1, f e.1 e.2), m.sorted.map f⟩

/-- The keys in increasing order. -/
def keys (m : SortedMap κ α) : List κ := m.entries.map (·.1)

@[simp] theorem entries_empty : (empty : SortedMap κ α).entries = [] := rfl

@[simp] theorem get?_empty (k : κ) : (empty : SortedMap κ α).get? k = none := rfl

@[simp] theorem get?_insert_self (m : SortedMap κ α) (k : κ) (v : α) :
    (m.insert k v).get? k = some v :=
  Entries.lookup_insert_self k v m.entries

theorem get?_insert_of_ne (m : SortedMap κ α) {k k' : κ} (v : α) (h : k' ≠ k) :
    (m.insert k v).get? k' = m.get? k' :=
  Entries.lookup_insert_of_ne v h m.entries

@[simp] theorem get?_erase_self (m : SortedMap κ α) (k : κ) : (m.erase k).get? k = none :=
  Entries.lookup_filter_self k m.entries

theorem get?_erase_of_ne (m : SortedMap κ α) {k k' : κ} (h : k' ≠ k) :
    (m.erase k).get? k' = m.get? k' :=
  Entries.lookup_filter_of_ne h m.entries

theorem mapValues_mapValues {γ : Type} (g : κ → β → γ) (f : κ → α → β) (m : SortedMap κ α) :
    (m.mapValues f).mapValues g = m.mapValues fun k a => g k (f k a) := by
  simp [mapValues]

theorem mapValues_id (m : SortedMap κ α) : (m.mapValues fun _ a => a) = m := by
  simp [mapValues]

end SortedMap

end ClusterOperator
