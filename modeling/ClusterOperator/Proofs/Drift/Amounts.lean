import ClusterOperator.Kubernetes.Quantity
import Mathlib

/-!
# Amounts compared in either order

Two amounts are the same if they are written the same or if their numbers differ by no more than a
billionth of the larger one. The numbers are of binary64, where a difference is rounded and may be
infinite or no number at all. Still it makes no difference which of the two amounts comes first: a
difference the other way round has the other sign and nothing else changed, and of two magnitudes
either one is smaller or they are made of the same parts.

## Main definitions

* `Binary64.unpacked`: the parts of a number.
* `Binary64.HasSign`: parts that stand for a number of a sign.

## Main results

* `Binary64.abs_difference_comm`: a difference has the same magnitude either way round.
* `Binary64.lt_cases`: two magnitudes are in order or have the same parts.
* `Quantity.same_comm`: amounts are compared alike in either order.
-/

namespace ClusterOperator

open Float.Model UnpackedFloat

namespace Binary64

variable {spec : Format}

/-! ### Differences the other way round -/

/-- Rounding does not look at the sign. -/
theorem abs_round (s t : Sign) (m : Nat) (e : Int) :
    (UnpackedFloat.round spec s m e).abs = (UnpackedFloat.round spec t m e).abs := by
  simp only [UnpackedFloat.round, roundWithAccuracy]
  split <;> rfl

theorem abs_normalize_neg (m e : Int) :
    (UnpackedFloat.normalize spec (-m) e .positive).abs =
      (UnpackedFloat.normalize spec m e .positive).abs := by
  rcases Int.lt_trichotomy m 0 with h | rfl | h
  · have hneg : compare (-m) 0 = .gt := Int.compare_eq_gt.mpr (by omega)
    simp only [UnpackedFloat.normalize, hneg, Int.compare_eq_lt.mpr h]
    exact abs_round ..
  · rfl
  · have hneg : compare (-m) 0 = .lt := Int.compare_eq_lt.mpr (by omega)
    simp only [UnpackedFloat.normalize, hneg, Int.compare_eq_gt.mpr h, Int.neg_neg]
    exact abs_round ..

/-- A difference the other way round differs in its sign at most. -/
theorem abs_sub_swap (u v : UnpackedFloat) :
    (UnpackedFloat.sub spec u v).abs = (UnpackedFloat.sub spec v u).abs := by
  cases u with
  | notANumber => cases v <;> rfl
  | infinity s =>
    cases v with
    | infinity t => cases s <;> cases t <;> rfl
    | notANumber | zero _ | finite _ _ _ _ => rfl
  | zero s =>
    cases v with
    | zero t => cases s <;> cases t <;> rfl
    | notANumber | infinity _ | finite _ _ _ _ => rfl
  | finite s m e hm =>
    cases v with
    | finite t n f hn =>
      -- Both significands are brought to the smaller exponent before one is taken from the other.
      simp only [UnpackedFloat.sub, Int.min_comm f e]
      rw [← abs_normalize_neg, Int.neg_sub]
    | notANumber | infinity _ | zero _ => rfl

/-! ### Signs in the bits of a number -/

theorem abs_unpack_packComponents (s t : Sign) (e : BitVec spec.exponentBits)
    (m : BitVec spec.mantissaBitsWithoutImplicit) :
    (unpack spec (packComponents spec s e m)).abs =
      (unpack spec (packComponents spec t e m)).abs := by
  simp only [UnpackedFloat.unpack, unpackExponent_packComponents, unpackMantissa_packComponents]
  split
  · split <;> rfl
  · split
    · split <;> rfl
    · rfl

/-- What differs in its sign at most still does so in bits. -/
theorem abs_unpack_pack {u v : UnpackedFloat} (h : u.abs = v.abs) :
    (unpack spec (pack spec u)).abs = (unpack spec (pack spec v)).abs := by
  cases u <;> cases v <;> cases h
  · exact abs_unpack_packComponents ..
  · rfl
  · exact abs_unpack_packComponents ..
  · simp only [UnpackedFloat.pack]
    split
    · exact abs_unpack_packComponents ..
    · split <;> exact abs_unpack_packComponents ..

/-- Parts that stand for a number of the sign, be it zero or infinite. -/
def HasSign (s : Sign) : UnpackedFloat → Prop
  | .notANumber => False
  | .infinity t => t = s
  | .zero t => t = s
  | .finite t _ _ _ => t = s

theorem hasSign_abs {u : UnpackedFloat} (h : u ≠ .notANumber) : HasSign .positive u.abs := by
  cases u with
  | notANumber => exact absurd rfl h
  | infinity _ | zero _ | finite _ _ _ _ => rfl

theorem hasSign_unpack_packComponents (s : Sign) {e : BitVec spec.exponentBits}
    {m : BitVec spec.mantissaBitsWithoutImplicit} (h : e = -1#_ → m = 0#_) :
    HasSign s (unpack spec (packComponents spec s e m)) := by
  simp only [UnpackedFloat.unpack, unpackExponent_packComponents, unpackMantissa_packComponents,
    unpackSign_packComponents, Sign.ofBitVec_toBitVec]
  split
  · next he =>
    rw [if_pos (h he)]
    rfl
  · split
    · split <;> rfl
    · rfl

/-- The exponent of a finite number leaves out the one of infinity. -/
theorem ofNat_ne_allOnes {n k : Nat} (h : k + 1 < 2 ^ n) : BitVec.ofNat n k ≠ -1#n := by
  rw [ne_eq, ← BitVec.toNat_inj, BitVec.neg_one_eq_allOnes, BitVec.toNat_allOnes,
    BitVec.toNat_ofNat, Nat.mod_eq_of_lt (by omega)]
  omega

/-- A number stays one in bits and keeps its sign: beyond the largest number it is infinite. -/
theorem hasSign_unpack_pack {s : Sign} {u : UnpackedFloat} (h : HasSign s u) :
    HasSign s (unpack spec (pack spec u)) := by
  cases u with
  | notANumber => cases h
  | infinity t | zero t =>
    cases h
    exact hasSign_unpack_packComponents _ fun _ => rfl
  | finite t m e hm =>
    cases h
    simp only [UnpackedFloat.pack]
    split
    · exact hasSign_unpack_packComponents _ fun _ => rfl
    · next hexponent =>
      split
      · refine hasSign_unpack_packComponents _ fun hones => absurd hones ?_
        exact ofNat_ne_allOnes (Nat.lt_of_not_le hexponent)
      · refine hasSign_unpack_packComponents _ fun hones => absurd hones ?_
        exact ofNat_ne_allOnes (Nat.one_lt_two_pow (Nat.ne_of_gt spec.he))

/-! ### The order of magnitudes -/

/-- Finite magnitudes are in the order of their exponents, and then of their significands. -/
theorem finite_lt_cases {m n : Nat} (e f : Int) (hm : 0 < m) (hn : 0 < n) :
    let u := UnpackedFloat.finite .positive m e hm
    let v := UnpackedFloat.finite .positive n f hn
    (u.lt v = true ∧ v.lt u = false) ∨ (u.lt v = false ∧ v.lt u = true) ∨ u = v := by
  simp only [UnpackedFloat.lt, UnpackedFloat.compare]
  rcases Int.lt_trichotomy e f with he | rfl | he
  · left
    simp [Int.compare_eq_lt.mpr he, Int.compare_eq_gt.mpr he]
  · rcases Nat.lt_trichotomy m n with hmn | rfl | hmn
    · left
      simp [Nat.compare_eq_lt.mpr hmn, Nat.compare_eq_gt.mpr hmn]
    · exact .inr (.inr rfl)
    · right; left
      simp [Nat.compare_eq_lt.mpr hmn, Nat.compare_eq_gt.mpr hmn]
  · right; left
    simp [Int.compare_eq_lt.mpr he, Int.compare_eq_gt.mpr he]

/-- Of two magnitudes one is smaller, or they have the same parts. -/
theorem lt_cases {u v : UnpackedFloat} (hu : HasSign .positive u) (hv : HasSign .positive v) :
    (u.lt v = true ∧ v.lt u = false) ∨ (u.lt v = false ∧ v.lt u = true) ∨ u = v := by
  cases u with
  | notANumber => cases hu
  | infinity s =>
    cases hu
    cases v with
    | notANumber => cases hv
    | infinity t =>
      cases hv
      exact .inr (.inr rfl)
    | zero _ | finite _ _ _ _ => exact .inr (.inl ⟨rfl, rfl⟩)
  | zero s =>
    cases hu
    cases v with
    | notANumber => cases hv
    | zero t =>
      cases hv
      exact .inr (.inr rfl)
    | infinity t | finite t _ _ _ =>
      cases hv
      exact .inl ⟨rfl, rfl⟩
  | finite s m e hm =>
    cases hu
    cases v with
    | notANumber => cases hv
    | infinity t =>
      cases hv
      exact .inl ⟨rfl, rfl⟩
    | zero t =>
      cases hv
      exact .inr (.inl ⟨rfl, rfl⟩)
    | finite t n f hn =>
      cases hv
      exact finite_lt_cases e f hm hn

/-! ### Numbers and their parts -/

/-- The parts of a number: sign, significand and exponent, or that it is none. -/
def unpacked (x : Float) : UnpackedFloat := x.toModel.unpack

theorem unpacked_abs (x : Float) :
    unpacked x.abs = unpack .binary64 (pack .binary64 (unpacked x).abs) := rfl

theorem unpacked_sub (x y : Float) : unpacked (x - y) =
    unpack .binary64 (pack .binary64 (UnpackedFloat.sub .binary64 (unpacked x) (unpacked y))) := rfl

/-- A number is told by its parts. -/
theorem unpacked_inj {x y : Float} : unpacked x = unpacked y ↔ x = y := by
  rw [← Float.toBits_inj, ← UInt64.toBitVec_inj]
  exact unpack_inj_of_valid x.toModel.valid y.toModel.valid

theorem lt_iff (x y : Float) : x < y ↔ (unpacked x).lt (unpacked y) = true := by
  show decide _ = true ↔ _
  rw [decide_eq_true_eq]
  rfl

theorem le_iff (x y : Float) : x ≤ y ↔ (unpacked x).le (unpacked y) = true := by
  show decide _ = true ↔ _
  rw [decide_eq_true_eq]
  rfl

/-- A difference has the same magnitude either way round. -/
theorem abs_difference_comm (x y : Float) : (x - y).abs = (y - x).abs :=
  congrArg (fun u => Float.ofModel (Float.Model.pack u)) (abs_unpack_pack (abs_sub_swap _ _))

theorem hasSign_unpacked_abs {x : Float} (h : unpacked x ≠ .notANumber) :
    HasSign .positive (unpacked x.abs) :=
  hasSign_unpack_pack (hasSign_abs h)

/-- A difference is no number if what it is taken from or what is taken is none. -/
theorem unpacked_abs_difference {x y : Float}
    (h : unpacked x = .notANumber ∨ unpacked y = .notANumber) :
    unpacked (x - y).abs = .notANumber := by
  have hsub : UnpackedFloat.sub .binary64 (unpacked x) (unpacked y) = .notANumber := by
    rcases h with h | h
    · rw [h]
      rfl
    · rw [h]
      cases unpacked x <;> rfl
  have hbits : unpack .binary64 (pack .binary64 .notANumber) = .notANumber := unpack_packedNaN
  rw [unpacked_abs, unpacked_sub, hsub, hbits]
  exact hbits

end Binary64

/-! ### Amounts -/

namespace Quantity

open Binary64

/-- What is no number is near nothing. -/
theorem near_eq_false {x y : Float} (h : unpacked x = .notANumber ∨ unpacked y = .notANumber) :
    near x y = false := by
  unfold near
  rw [decide_eq_false_iff_not, le_iff, unpacked_abs_difference h]
  exact Bool.false_ne_true

/-- The larger one of two magnitudes. -/
theorem larger_comm {x y : Float} (hx : unpacked x ≠ .notANumber) (hy : unpacked y ≠ .notANumber) :
    (if x.abs < y.abs then y.abs else x.abs) = if y.abs < x.abs then x.abs else y.abs := by
  simp only [lt_iff]
  rcases lt_cases (hasSign_unpacked_abs hx) (hasSign_unpacked_abs hy) with
    ⟨hlt, hge⟩ | ⟨hge, hlt⟩ | heq
  · simp only [hlt, hge, Bool.false_eq_true, if_true, if_false]
  · simp only [hlt, hge, Bool.false_eq_true, if_true, if_false]
  · rw [unpacked_inj.mp heq]

/-- Numbers are near each other in either order. -/
theorem near_comm (x y : Float) : near x y = near y x := by
  by_cases hx : unpacked x = .notANumber
  · rw [near_eq_false (.inl hx), near_eq_false (.inr hx)]
  by_cases hy : unpacked y = .notANumber
  · rw [near_eq_false (.inr hy), near_eq_false (.inl hy)]
  simp only [near, abs_difference_comm x y, larger_comm hx hy]

/-- Amounts are compared alike in either order. -/
theorem same_comm (a b : String) : same a b = same b a := by
  unfold same
  rw [BEq.comm (a := a)]
  cases value? a with
  | none => cases value? b <;> rfl
  | some x =>
    cases value? b with
    | none => rfl
    | some y => exact congrArg _ (near_comm x y)

end Quantity

end ClusterOperator
