import ClusterOperator.Number.Binary64
import ClusterOperator.Text.Blank

/-!
# Amounts of resources

An amount such as `500m`, `0.5`, `2Gi` or `1e3` is a decimal number with an optional suffix that
scales it. The API server respells amounts, so two of them are the same if they are written the
same or if their values differ by no more than a billionth.

## Main definitions

* `Quantity.readDecimal`: the binary64 number of a decimal text.
* `Quantity.value?`: the value of an amount.
* `Quantity.same`: whether two written amounts are the same.

## Main results

* `Quantity.same_refl`: an amount is the same as itself.
-/

namespace ClusterOperator

namespace Quantity

/-- A text in lower case, as far as it is ASCII. -/
def lowerCase (cs : List Char) : List Char := cs.map Char.toLower

/-- The exponent that ends a number: a letter `e`, a sign, and at least one digit. -/
def exponent? : List Char → Option Int
  | [] => some 0
  | e :: rest =>
    if e = 'e' ∨ e = 'E' then
      let (negative, ds) := match rest with
        | '-' :: ds => (true, ds)
        | '+' :: ds => (false, ds)
        | ds => (false, ds)
      if ds.isEmpty ∨ !ds.all Char.isDigit then none
      else
        let n : Int := Nat.ofDigitChars 10 ds 0
        some (if negative then -n else n)
    else none

/-- The bits of a number without its sign: digits with an optional point among them, at least one
digit in all, and an optional exponent. -/
def magnitude? (cs : List Char) : Option Nat :=
  let whole := cs.takeWhile Char.isDigit
  let (fraction, rest) := match cs.dropWhile Char.isDigit with
    | '.' :: r => (r.takeWhile Char.isDigit, r.dropWhile Char.isDigit)
    | r => ([], r)
  if whole.isEmpty ∧ fraction.isEmpty then none
  else (exponent? rest).map fun e =>
    Binary64.ofDecimal (Nat.ofDigitChars 10 (whole ++ fraction) 0) (e - fraction.length)

/-- The bits of a number without its sign, which may also be a word for infinity or for what is no
number. -/
def magnitudeOrWord? (cs : List Char) : Option Nat :=
  let word := lowerCase cs
  if word = ['i', 'n', 'f'] ∨ word = ['i', 'n', 'f', 'i', 'n', 'i', 't', 'y'] then
    some Binary64.infinity
  else if word = ['n', 'a', 'n'] then some Binary64.nan
  else magnitude? cs

/-- The binary64 number of a decimal text with an optional sign. -/
def readDecimal (cs : List Char) : Option Float :=
  match cs with
  | '-' :: r => (magnitudeOrWord? r).map fun bits =>
      Float.ofBits (bits + Binary64.signBit).toUInt64
  | '+' :: r => (magnitudeOrWord? r).map fun bits => Float.ofBits bits.toUInt64
  | r => (magnitudeOrWord? r).map fun bits => Float.ofBits bits.toUInt64

/-- The suffixes and what they scale by. The first one that ends a text counts. -/
def suffixes : List (List Char × Float) :=
  [(['K', 'i'], 1024), (['M', 'i'], 1048576), (['G', 'i'], 1073741824),
    (['T', 'i'], 1099511627776), (['P', 'i'], 1125899906842624),
    (['E', 'i'], 1152921504606846976), (['n'], 1e-9), (['u'], 1e-6), (['m'], 1e-3),
    (['k'], 1e3), (['M'], 1e6), (['G'], 1e9), (['T'], 1e12), (['P'], 1e15), (['E'], 1e18)]

/-- The part of a text before its suffix, and the scale of the suffix. -/
def splitSuffix (cs : List Char) : List Char × Float :=
  match suffixes.find? fun s => s.1.isSuffixOf cs with
  | some (suffix, scale) => (cs.take (cs.length - suffix.length), scale)
  | none => (cs, 1)

/-- The value of an amount, if it has one. -/
def value? (quantity : String) : Option Float :=
  let (number, scale) := splitSuffix (Text.trim quantity.toList)
  (readDecimal number).map (· * scale)

/-- Whether two numbers differ by no more than a billionth of the larger one. -/
def near (x y : Float) : Bool :=
  let larger := if x.abs < y.abs then y.abs else x.abs
  (x - y).abs ≤ 1e-9 * larger

/-- Whether two written amounts are the same. -/
def same (a b : String) : Bool :=
  a == b ||
    match value? a, value? b with
    | some x, some y => near x y
    | _, _ => false

@[simp] theorem same_refl (a : String) : same a a = true := by simp [same]

end Quantity

end ClusterOperator
