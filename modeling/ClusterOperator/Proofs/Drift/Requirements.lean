import ClusterOperator.Drift
import ClusterOperator.Proofs.Drift.Amounts
import ClusterOperator.Proofs.SortedMaps
import Mathlib.Data.List.Perm.Subperm

/-!
# Resource requirements compared key by key

The requirements of a container are two maps of amounts, its limits and its requests. They are
compared by counting: as many amounts on both sides, and each desired one found under its name among
the live ones. Since a map has a key once, this leaves no room for a key that only the live side
has, and so the comparison is of the keys and of the amounts that share one, alike in either order.

## Main definitions

* `Kubernetes.ResourceRequirements.Part`: the limits or the requests, with the amounts they state.
* `Drift.SameAmounts`: the same keys, and the same amounts under them.

## Main results

* `SortedMap.same_keys_iff`: maps of one size share their keys if one has those of the other.
* `Drift.sameQuantities_iff`: what the comparison of two maps says.
* `Drift.sameResources_by_keys`: what it says of requirements, and which keys are drift.
-/

namespace ClusterOperator

open Kubernetes

/-! ### Counting keys -/

namespace SortedMap

variable {κ α β : Type} [KeyOrder κ]

theorem contains_iff_mem_keys (m : SortedMap κ α) (k : κ) : m.contains k = true ↔ k ∈ m.keys := by
  rw [contains, Option.isSome_iff_exists, keys, List.mem_map]
  constructor
  · rintro ⟨v, hv⟩
    exact ⟨(k, v), (mem_entries_iff m (k, v)).mpr hv, rfl⟩
  · rintro ⟨e, he, rfl⟩
    exact ⟨e.2, (mem_entries_iff m e).mp he⟩

theorem length_keys (m : SortedMap κ α) : m.keys.length = m.size := by
  simp [keys, size]

/-- Maps have the same keys if they are of one size and the one has all keys of the other. -/
theorem same_keys_iff (m : SortedMap κ α) (n : SortedMap κ β) :
    (∀ k, m.contains k = n.contains k) ↔
      m.size = n.size ∧ ∀ k, m.contains k = true → n.contains k = true := by
  have hiff : (∀ k, m.contains k = n.contains k) ↔ ∀ k, k ∈ m.keys ↔ k ∈ n.keys :=
    forall_congr' fun k => by
      rw [Bool.eq_iff_iff, contains_iff_mem_keys, contains_iff_mem_keys]
  simp only [hiff, contains_iff_mem_keys, ← length_keys]
  constructor
  · intro hkeys
    have hperm : m.keys.Perm n.keys :=
      (List.perm_ext_iff_of_nodup m.nodup_keys n.nodup_keys).mpr hkeys
    exact ⟨hperm.length_eq, fun k => (hkeys k).mp⟩
  · rintro ⟨hlength, hsubset⟩ k
    -- A key stands once, so that a list of keys inside another one of its length is all of it.
    have hperm : m.keys.Perm n.keys :=
      (List.subperm_of_subset m.nodup_keys hsubset).perm_of_length_le (Nat.le_of_eq hlength.symm)
    exact hperm.mem_iff

end SortedMap

/-! ### Requirements -/

namespace Kubernetes

namespace ResourceRequirements

/-- The parts of the requirements of a container. -/
inductive Part where
  | limits
  | requests

/-- The amounts that a part states. Requirements that are absent state none, and neither does a part
that they leave out. -/
def Part.amounts : Part → Option ResourceRequirements → Quantities
  | .limits, r => (r.bind (·.limits)).getD ∅
  | .requests, r => (r.bind (·.requests)).getD ∅

end ResourceRequirements

/-- The first container of the pods has the requirements. -/
def StatefulSet.Requires (s : StatefulSet) (r : Option ResourceRequirements) : Prop :=
  ∃ c, s.container? = some c ∧ c.resources = r

end Kubernetes

namespace Drift

open ResourceRequirements (Part)

/-- Two maps have the same keys, and the same amounts under each of them. -/
structure SameAmounts (want live : Quantities) : Prop where
  keys : ∀ key, want.contains key = live.contains key
  amounts : ∀ key a b, want.get? key = some a → live.get? key = some b → Quantity.same a b = true

theorem SameAmounts.symm {want live : Quantities} (h : SameAmounts want live) :
    SameAmounts live want where
  keys key := (h.keys key).symm
  amounts key a b ha hb := (Quantity.same_comm a b).trans (h.amounts key b a hb ha)

/-- Each desired amount has to be found, and there may be no more. -/
theorem sameQuantities_iff_found (want live : Option Quantities) :
    sameQuantities want live = true ↔ (want.getD ∅).size = (live.getD ∅).size ∧
      ∀ key a, (want.getD ∅).get? key = some a →
        ∃ b, (live.getD ∅).get? key = some b ∧ Quantity.same a b = true := by
  rw [sameQuantities, Bool.and_eq_true, beq_iff_eq, List.all_eq_true]
  refine and_congr Iff.rfl ⟨fun hall key a ha => ?_, fun hall e he => ?_⟩
  · have hfound := hall (key, a) ((SortedMap.mem_entries_iff _ _).mpr ha)
    exact (Option.any_eq_true _ _).mp hfound
  · have hfound := hall e.1 e.2 ((SortedMap.mem_entries_iff _ e).mp he)
    exact (Option.any_eq_true _ _).mpr hfound

/-- Counting the amounts and finding each desired one is comparing the keys and what they share. -/
theorem sameQuantities_iff (want live : Option Quantities) :
    sameQuantities want live = true ↔ SameAmounts (want.getD ∅) (live.getD ∅) := by
  rw [sameQuantities_iff_found]
  constructor
  · rintro ⟨hsize, hfound⟩
    refine ⟨(SortedMap.same_keys_iff _ _).mpr ⟨hsize, fun key hkey => ?_⟩, ?_⟩
    · obtain ⟨a, ha⟩ := Option.isSome_iff_exists.mp hkey
      obtain ⟨b, hb, -⟩ := hfound key a ha
      exact Option.isSome_iff_exists.mpr ⟨b, hb⟩
    · intro key a b ha hb
      obtain ⟨c, hc, hsame⟩ := hfound key a ha
      obtain rfl : b = c := Option.some.inj (hb.symm.trans hc)
      exact hsame
  · rintro ⟨hkeys, hamounts⟩
    refine ⟨((SortedMap.same_keys_iff _ _).mp hkeys).1, fun key a ha => ?_⟩
    have hkey : (live.getD ∅).contains key = true :=
      (hkeys key).symm.trans (Option.isSome_iff_exists.mpr ⟨a, ha⟩)
    obtain ⟨b, hb⟩ := Option.isSome_iff_exists.mp hkey
    exact ⟨b, hb, hamounts key a b ha hb⟩

/-- Absent requirements are read as those that leave out both parts. -/
theorem sameResources_iff (want live : Option ResourceRequirements) :
    sameResources want live = true ↔
      ∀ part : Part, SameAmounts (part.amounts want) (part.amounts live) := by
  have hlimits (r : Option ResourceRequirements) :
      ((r.getD {}).limits).getD ∅ = Part.limits.amounts r := by cases r <;> rfl
  have hrequests (r : Option ResourceRequirements) :
      ((r.getD {}).requests).getD ∅ = Part.requests.amounts r := by cases r <;> rfl
  rw [sameResources, Bool.and_eq_true, sameQuantities_iff, sameQuantities_iff, hlimits, hlimits,
    hrequests, hrequests]
  constructor
  · rintro ⟨hlimits, hrequests⟩ (_ | _)
    · exact hlimits
    · exact hrequests
  · intro h
    exact ⟨h .limits, h .requests⟩

theorem sameResources_comm (want live : Option ResourceRequirements) :
    sameResources want live = sameResources live want := by
  rw [Bool.eq_iff_iff, sameResources_iff, sameResources_iff]
  exact ⟨fun h part => (h part).symm, fun h part => (h part).symm⟩

theorem containerDrifted_of_resources {want live : Container}
    (h : sameResources want.resources live.resources = false) :
    containerDrifted want live = true := by
  simp [containerDrifted, h]

end Drift

/-- A workload drifts with the requirements of its first container. -/
theorem Kubernetes.StatefulSet.Requires.drifted {want live : StatefulSet}
    {w l : Option ResourceRequirements} (hwant : want.Requires w) (hlive : live.Requires l)
    (h : Drift.sameResources w l = false) : want.drifted live = true := by
  obtain ⟨c, hc, rfl⟩ := hwant
  obtain ⟨d, hd, rfl⟩ := hlive
  rw [StatefulSet.drifted, hc, hd]
  simp [Drift.containerDrifted_of_resources h]

namespace Drift

open ResourceRequirements (Part)

/-- Requirements are the same exactly if their limits, and likewise their requests, have the same
keys and under each key the same amounts, where whatever is absent states none. So a key that only
one side has is drift, whichever side it is, and the comparison is alike in either order, as is that
of two amounts. -/
theorem sameResources_by_keys (want live : Option ResourceRequirements) :
    (sameResources want live = true ↔
      ∀ part : Part, SameAmounts (part.amounts want) (part.amounts live)) ∧
    (∀ (part : Part) (key : String),
      (part.amounts want).contains key ≠ (part.amounts live).contains key →
      (sameResources want live = false ∧ sameResources live want = false) ∧
      ∀ w l : StatefulSet, w.Requires want → l.Requires live →
        w.drifted l = true ∧ l.drifted w = true) ∧
    (∀ a b, Quantity.same a b = Quantity.same b a) ∧
    sameResources want live = sameResources live want := by
  refine ⟨sameResources_iff want live, ?_, Quantity.same_comm, sameResources_comm want live⟩
  intro part key hkey
  have hdiffers : sameResources want live = false := by
    rw [← Bool.not_eq_true, sameResources_iff]
    intro h
    exact hkey ((h part).keys key)
  have hreversed : sameResources live want = false :=
    (sameResources_comm live want).trans hdiffers
  exact ⟨⟨hdiffers, hreversed⟩, fun w l hw hl => ⟨hw.drifted hl hdiffers, hl.drifted hw hreversed⟩⟩

end Drift

/-- Requirements that set a single limit. -/
def Kubernetes.ResourceRequirements.limitSample (key amount : String) :
    Option ResourceRequirements :=
  some { limits := some (SortedMap.empty.insert key amount) }

/-- A workload with the requirements and nothing else. -/
def Kubernetes.StatefulSet.limitSample (r : Option ResourceRequirements) : StatefulSet where
  spec := some { template := { spec := some { containers := [{ name := "nc", resources := r }] } } }

namespace Drift

open ResourceRequirements (limitSample)

/-- Half a processor is one limit in either spelling, and drift under another name. -/
theorem limitSample_by_keys :
    sameResources (limitSample "cpu" "500m") (limitSample "cpu" "0.5") = true ∧
    (StatefulSet.limitSample (limitSample "cpu" "500m")).drifted
      (StatefulSet.limitSample (limitSample "memory" "500m")) = true ∧
    (StatefulSet.limitSample (limitSample "memory" "500m")).drifted
      (StatefulSet.limitSample (limitSample "cpu" "500m")) = true := by
  have hamount : Quantity.same "500m" "0.5" = true := by decide
  refine ⟨(sameResources_by_keys _ _).1.mpr ?_, ?_⟩
  · rintro (_ | _)
    · refine ⟨fun key => ?_, fun key a b ha hb => ?_⟩
      · exact (SortedMap.contains_insert ..).trans (SortedMap.contains_insert ..).symm
      · have ha := (SortedMap.get?_insert SortedMap.empty "cpu" key "500m").symm.trans ha
        have hb := (SortedMap.get?_insert SortedMap.empty "cpu" key "0.5").symm.trans hb
        by_cases hkey : key = "cpu"
        · rw [if_pos hkey] at ha hb
          cases ha
          cases hb
          exact hamount
        · rw [if_neg hkey] at ha
          cases ha
    · exact ⟨fun _ => rfl, fun _ _ _ ha => by cases ha⟩
  · exact ((sameResources_by_keys (limitSample "cpu" "500m") (limitSample "memory" "500m")).2.1
      .limits "cpu" (by decide)).2 _ _ ⟨_, rfl, rfl⟩ ⟨_, rfl, rfl⟩

end Drift

end ClusterOperator
