/-!
# Numerals

Settings and pod ordinals are written as decimal numerals. A numeral is read in one way only: an
optional plus sign, then one or more ASCII digits, nothing else, and the value has to fit the
width of the number it is read as. Writing uses core's decimal digits.

## Main definitions

* `Text.natural?`: the value of a non-empty list of digits.
* `Text.unsigned?`: the value of a numeral with an optional plus sign, up to a largest value.

## Main results

* `Text.natural?_toDigits`: a written number reads back.
* `Text.repr_injective`: different numbers are written differently.
-/

namespace ClusterOperator.Text

/-- The value of a text of one or more ASCII digits. -/
def natural? (cs : List Char) : Option Nat :=
  if cs.isEmpty then none
  else if cs.all Char.isDigit then some (Nat.ofDigitChars 10 cs 0) else none

/-- The text after one leading plus sign, or the whole text if it has none. -/
def afterPlus : List Char → List Char
  | '+' :: r => r
  | cs => cs

/-- The value of a numeral with an optional plus sign that is not above `limit`. -/
def unsigned? (limit : Nat) (cs : List Char) : Option Nat :=
  (natural? (afterPlus cs)).filter fun n => decide (n ≤ limit)

/-- The largest value of an unsigned number of 32 bits. -/
def maxUnsigned32 : Nat := 4294967295

/-- The largest value of an unsigned number of 64 bits. -/
def maxUnsigned64 : Nat := 18446744073709551615

theorem natural?_toDigits (n : Nat) : natural? (Nat.toDigits 10 n) = some n := by
  have hne : (Nat.toDigits 10 n).isEmpty = false := by
    cases h : Nat.toDigits 10 n with
    | nil => exact absurd h (Nat.toDigits_ne_nil)
    | cons c r => rfl
  have hall : (Nat.toDigits 10 n).all Char.isDigit = true :=
    List.all_eq_true.mpr fun c hc => Nat.isDigit_of_mem_toDigits (by decide) (by decide) hc
  simp [natural?, hne, hall, Nat.ofDigitChars_toDigits]

/-- Different numbers are written differently. -/
theorem repr_injective {m n : Nat} (h : m.repr = n.repr) : m = n := by
  have hdigits := congrArg String.toList h
  rw [Nat.toList_repr, Nat.toList_repr] at hdigits
  have hread := congrArg natural? hdigits
  rw [natural?_toDigits, natural?_toDigits] at hread
  exact Option.some.inj hread

end ClusterOperator.Text
