import ClusterOperator.Instant.Rfc3339
import Mathlib.Algebra.Group.Nat.Defs

/-!
# Instants read back what is written

The written form of an instant is read by the lenient reader as the same instant without its
fraction of a second. A number with zeros in front is a block of digits, and every reader of digits
stops where the block ends: at its width, or at the separator behind it.

## Main results

* `Instant.digits_append`: a block of digits is read as its number.
* `Instant.read_render`: the written form of an instant is read back.
-/

namespace ClusterOperator

namespace Instant

/-! ### Blocks of digits -/

theorem isDigit_of_mem_padded {width n : Nat} {c : Char} (h : c ∈ padded width n) :
    c.isDigit = true := by
  rcases List.mem_append.mp h with h | h
  · rw [(List.mem_replicate.mp h).2]
    rfl
  · exact Nat.isDigit_of_mem_toDigits (by decide) (by decide) h

theorem ofDigitChars_padded (width n : Nat) : Nat.ofDigitChars 10 (padded width n) 0 = n := by
  rw [padded, Nat.ofDigitChars_append, Nat.ofDigitChars_replicate_zero, Nat.mul_zero,
    Nat.ofDigitChars_ten_toDigits]

theorem padded_ne_nil (width n : Nat) : padded width n ≠ [] := by
  intro h
  exact Nat.toDigits_ne_nil (List.append_eq_nil_iff.mp h).2

theorem length_padded {width n : Nat} (hw : 0 < width) (h : n < 10 ^ width) :
    (padded width n).length = width := by
  have hle : (Nat.toDigits 10 n).length ≤ width :=
    (Nat.length_toDigits_le_iff (by decide) hw).mpr h
  rw [padded, List.length_append, List.length_replicate]
  omega

/-- The number of a block of digits is read where nothing behind the block can be taken for a
digit of it. -/
theorem digits_append {most : Nat} {ds rest : List Char} (hne : ds ≠ [])
    (hds : ∀ c ∈ ds, c.isDigit = true) (hmost : ds.length ≤ most)
    (hstop : (rest.take (most - ds.length)).takeWhile Char.isDigit = []) :
    digits 1 most (ds ++ rest) = .ok (Nat.ofDigitChars 10 ds 0, rest) := by
  have htake : ((ds ++ rest).take most).takeWhile Char.isDigit = ds := by
    rw [List.take_append, List.take_of_length_le hmost, List.takeWhile_append_of_pos hds, hstop,
      List.append_nil]
  have hsize : ¬ (String.ofList (ds ++ rest)).utf8ByteSize < 1 := by
    intro hlt
    have hempty := String.utf8ByteSize_eq_zero_iff.mp (Nat.lt_one_iff.mp hlt)
    have hnil := congrArg String.toList hempty
    rw [String.toList_ofList] at hnil
    exact hne (List.append_eq_nil_iff.mp (hnil.trans String.toList_empty)).1
  have hlen : ¬ ds.length < 1 := by
    have := List.length_pos_iff.mpr hne
    omega
  unfold digits
  rw [htake]
  simp only [if_neg hsize, if_neg hlen, List.drop_left]

theorem isBlank_of_isDigit {c : Char} (h : c.isDigit = true) : Text.isBlank c = false := by
  obtain ⟨hl, hr⟩ := Char.isDigit_iff_toNat.mp h
  have hl : 48 ≤ c.toNat := hl
  have hr : c.toNat ≤ 57 := hr
  simp only [Text.isBlank, Bool.or_eq_false_iff, Bool.and_eq_false_iff, beq_eq_false_iff_ne,
    decide_eq_false_iff_not]
  omega

/-- No blank stands in front of a block of digits. -/
theorem trimLeft_padded (width n : Nat) (rest : List Char) :
    Text.trimLeft (padded width n ++ rest) = padded width n ++ rest := by
  cases h : padded width n with
  | nil => exact absurd h (padded_ne_nil width n)
  | cons c cs =>
    have hc : c.isDigit = true := isDigit_of_mem_padded (h ▸ List.mem_cons_self)
    simp [Text.trimLeft, isBlank_of_isDigit hc]

/-! ### The parts of a time -/

theorem within_eq_ok {least most n : Nat} (hl : least ≤ n) (hr : n ≤ most) :
    within least most n = .ok n :=
  if_pos ⟨hl, hr⟩

theorem field_padded {least most n : Nat} (hl : least ≤ n) (hr : n ≤ most) (h : most < 100)
    (rest : List Char) : field least most (padded 2 n ++ rest) = .ok (n, rest) := by
  have hlen : (padded 2 n).length = 2 := length_padded (by decide) (by omega)
  have hdigits : digits 1 2 (padded 2 n ++ rest) = .ok (n, rest) := by
    rw [digits_append (padded_ne_nil 2 n) (fun _ => isDigit_of_mem_padded) (Nat.le_of_eq hlen)
      (by simp [hlen]), ofDigitChars_padded]
  rw [field, trimLeft_padded, hdigits]
  show (within least most n >>= fun n => pure (n, rest)) = _
  rw [within_eq_ok hl hr]
  rfl

/-- A block of digits that a hyphen ends, however long. -/
theorem digits_padded_hyphen (n : Nat) (rest : List Char) :
    digits 1 (padded 4 n ++ '-' :: rest).length (padded 4 n ++ '-' :: rest) =
      .ok (n, '-' :: rest) := by
  have hstop (k : Nat) : (('-' :: rest).take k).takeWhile Char.isDigit = [] := by
    cases k with
    | zero => rfl
    | succ k => rfl
  rw [digits_append (padded_ne_nil 4 n) (fun _ => isDigit_of_mem_padded)
    (by rw [List.length_append]; omega) (hstop _), ofDigitChars_padded]

theorem trimLeft_cons_of_not_blank {sign : Char} (hsign : Text.isBlank sign = false)
    (r : List Char) :
    Text.trimLeft (sign :: r) = sign :: r := by
  simp [Text.trimLeft, hsign]

/-- The written year is read back. -/
theorem year_renderYear {y : Int} (hl : -262143 ≤ y) (hr : y ≤ 262142) (rest : List Char) :
    year (renderYear y ++ '-' :: rest) = .ok (y, '-' :: rest) := by
  unfold renderYear
  split
  · next hy =>
    have hlen : (padded 4 y.toNat).length = 4 := length_padded (by decide) (by omega)
    have hdigits : digits 1 4 (padded 4 y.toNat ++ '-' :: rest) = .ok (y.toNat, '-' :: rest) := by
      rw [digits_append (padded_ne_nil 4 _) (fun _ => isDigit_of_mem_padded)
        (Nat.le_of_eq hlen) (by simp [hlen]), ofDigitChars_padded]
    have hfirst : ∀ c r, padded 4 y.toNat ++ '-' :: rest = c :: r → c.isDigit = true := by
      intro c r h
      cases hp : padded 4 y.toNat with
      | nil => exact absurd hp (padded_ne_nil 4 _)
      | cons d ds =>
        rw [hp] at h
        cases h
        exact isDigit_of_mem_padded (hp ▸ List.mem_cons_self)
    unfold year
    rw [trimLeft_padded]
    split
    · next h => exact absurd (hfirst _ _ h) (by decide)
    · next h => exact absurd (hfirst _ _ h) (by decide)
    · rw [hdigits]
      show Except.ok ((y.toNat : Int), '-' :: rest) = _
      rw [Int.toNat_of_nonneg hy.1]
  · next hy =>
    split
    · next hneg =>
      rw [List.cons_append, year, trimLeft_cons_of_not_blank (by decide)]
      simp only [digits_padded_hyphen]
      show (within 0 2147483648 y.natAbs >>= fun n => pure (-(n : Int), '-' :: rest)) = _
      rw [within_eq_ok (Nat.zero_le _) (by omega)]
      show Except.ok (-(y.natAbs : Int), '-' :: rest) = _
      rw [Int.ofNat_natAbs_of_nonpos (by omega), Int.neg_neg]
    · next hpos =>
      rw [List.cons_append, year, trimLeft_cons_of_not_blank (by decide)]
      simp only [digits_padded_hyphen]
      show (within 0 2147483647 y.natAbs >>= fun n => pure ((n : Int), '-' :: rest)) = _
      rw [within_eq_ok (Nat.zero_le _) (by omega)]
      show Except.ok ((y.natAbs : Int), '-' :: rest) = _
      rw [Int.natAbs_of_nonneg (by omega)]

theorem separator_cons {c : Char} (hc : Text.isBlank c = false) (rest : List Char) :
    separator c (c :: rest) = .ok ((), rest) := by
  rw [separator, trimLeft_cons_of_not_blank hc, literal, if_pos rfl]

/-- The parts of an instant in universal time are those of the instant. -/
theorem ofParts_eq (t : Instant) :
    ofParts t.date.year t.date.month t.date.day t.hour.val t.minute.val t.second.val 0 0 =
      .ok t.wholeSeconds := by
  have hof : Instant.ofFields t.date t.hour.val t.minute.val t.second.val 0 = t.wholeSeconds := by
    simp only [Instant.ofFields, Instant.wholeSeconds, Fin.ofNat_val_eq_self]
    rfl
  have hlocal : t.wholeSeconds.ofLocal? 0 = some t.wholeSeconds := by
    have hh := t.hour.isLt
    have hm := t.minute.isLt
    have hle : t.hour.val * 60 + t.minute.val < 1440 := by omega
    have hdiv : (t.hour.val * 60 + t.minute.val) / 60 = t.hour.val := by omega
    have hmod : (t.hour.val * 60 + t.minute.val) % 60 = t.minute.val := by omega
    unfold Instant.ofLocal?
    simp only [Instant.wholeSeconds, Int.sub_zero]
    rw [if_neg (by omega), if_neg (by omega), Int.toNat_natCast, hdiv, hmod,
      Fin.ofNat_val_eq_self, Fin.ofNat_val_eq_self]
  rw [ofParts, if_neg (by decide), Date.ofFields?_eq]
  simp only [hof, hlocal]

/-- The written form of an instant is read back, without its fraction of a second. -/
theorem read_render (t : Instant) : Instant.read t.render = .ok t.wholeSeconds := by
  obtain ⟨⟨hyl, hyr⟩, ⟨hml, hmr⟩, hdl, hdr⟩ := t.date.valid
  have hday : t.date.day ≤ 31 := by
    refine Nat.le_trans hdr ?_
    unfold Date.daysInMonth
    split <;> try split
    all_goals decide
  have hh := t.hour.isLt
  have hm := t.minute.isLt
  have hs := t.second.isLt
  have hhyphen : Text.isBlank '-' = false := by decide
  have hcolon : Text.isBlank ':' = false := by decide
  have hmark (rest : List Char) : dateTimeMark ('T' :: rest) = .ok ((), rest) := rfl
  rw [Instant.read, Instant.render, String.toList_ofList]
  simp only [List.append_assoc, List.cons_append, bind, Except.bind, pure,
    Except.pure, year_renderYear hyl hyr, separator_cons hhyphen, separator_cons hcolon,
    field_padded hml hmr (by decide), field_padded hdl hday (by decide), hmark,
    field_padded (Nat.zero_le _) (Nat.le_of_lt_succ hh) (by decide),
    field_padded (Nat.zero_le _) (Nat.le_of_lt_succ hm) (by decide),
    field_padded (Nat.zero_le _) (Nat.le_of_lt_succ hs) (by decide)]
  exact ofParts_eq t

end Instant

end ClusterOperator
