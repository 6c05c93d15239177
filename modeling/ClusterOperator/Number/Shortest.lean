import ClusterOperator.Number.Binary64

/-!
# The shortest decimal of a binary64 number

Every real nearer to a number of the format than to its neighbours reads back as that number. The
text of a number has the fewest significant digits among the decimals in this interval, and among
those the decimal nearest to the number itself.

For each count of digits from one to seventeen only the two points of the decimal grid around the
number have to be tested: if any point of the grid lies in the interval, so does one of them.

## Main definitions

* `Shortest.ReadsBack`: whether a decimal lies in the interval of a number.
* `Shortest.decimal`: the digits and the power of ten.
* `Shortest.text`: positional from `1e-5` up to sixteen places before the point, with at least one
  place after the point, and otherwise with a signed exponent of at least two digits.
-/

namespace ClusterOperator.Shortest

/-- A positive number together with the distances to the ends of the interval that rounds to it,
all as numerators over one common denominator. -/
structure Interval where
  value : Nat
  low : Nat
  high : Nat
  denominator : Nat
  closed : Bool

/-- The interval of `m · 2 ^ q`. Below a power of two the next number is only half as far. -/
def intervalOf (m : Nat) (q : Int) : Interval :=
  let lowGap := if m = Binary64.leadingBit ∧ q ≠ -1074 then 1 else 2
  let scale := Nat.pow 2 q.toNat
  { value := 4 * m * scale
    low := (4 * m - lowGap) * scale
    high := (4 * m + 2) * scale
    denominator := 4 * Nat.pow 2 (-q).toNat
    closed := m % 2 = 0 }

/-- Whether `d · 10 ^ e` lies in the interval. -/
def ReadsBack (i : Interval) (d : Nat) (e : Int) : Bool :=
  let x := d * Nat.pow 10 e.toNat * i.denominator
  let one := Nat.pow 10 (-e).toNat
  if i.closed then decide (i.low * one ≤ x ∧ x ≤ i.high * one)
  else decide (i.low * one < x ∧ x < i.high * one)

/-- The distance of `d · 10 ^ e` from the number, over a denominator that depends on `e` only. -/
def distance (i : Interval) (d : Nat) (e : Int) : Nat :=
  let x := d * Nat.pow 10 e.toNat * i.denominator
  let v := i.value * Nat.pow 10 (-e).toNat
  max (x - v) (v - x)

/-- The point of the grid of step `10 ^ e` that lies in the interval, the nearer one if there are
two, the even one if both are as near. -/
def onGrid (i : Interval) (e : Int) : Option (Nat × Int) :=
  let below := i.value * Nat.pow 10 (-e).toNat / (i.denominator * Nat.pow 10 e.toNat)
  let above := below + 1
  match ReadsBack i below e, ReadsBack i above e with
  | true, true =>
    let a := distance i below e
    let b := distance i above e
    if a < b ∨ a = b ∧ below % 2 = 0 then some (below, e) else some (above, e)
  | true, false => some (below, e)
  | false, true => some (above, e)
  | false, false => none

/-- The decimal exponent of the leading digit of a positive quotient, from a guess that is not too
high. -/
def leadingExponent (num den : Nat) : Nat → Int → Int
  | 0, e => e
  | fuel + 1, e =>
    if den * Nat.pow 10 (e + 1).toNat ≤ num * Nat.pow 10 (-(e + 1)).toNat
    then leadingExponent num den fuel (e + 1) else e

/-- Digits and power of ten of the shortest decimal of a positive finite number. -/
def decimal (bits : Nat) : Nat × Int :=
  let (m, q) := Binary64.parts bits
  let i := intervalOf m q
  let top := leadingExponent i.value i.denominator 700 (-330)
  ((List.range 17).findSome? fun (n : Nat) => onGrid i (top - n)).getD (m, q)

/-- Digits without the zeros at their end, and how many these were. -/
def stripZeros (ds : List Char) : List Char × Nat :=
  let kept := (ds.reverse.dropWhile (· == '0')).reverse
  (kept, ds.length - kept.length)

/-- Lays out digits whose last one stands for `10 ^ exponent`. -/
def layout (digits : List Char) (exponent : Int) : List Char :=
  let point : Int := digits.length + exponent
  if point < -4 ∨ 16 < point then
    let e := point - 1
    let shown := Nat.toDigits 10 e.natAbs
    let fraction := if digits.length ≤ 1 then [] else '.' :: digits.drop 1
    digits.take 1 ++ fraction ++ ['e', if e < 0 then '-' else '+'] ++
      (if shown.length < 2 then '0' :: shown else shown)
  else if point ≤ 0 then
    ['0', '.'] ++ List.replicate (-point).toNat '0' ++ digits
  else if digits.length ≤ point.toNat then
    digits ++ List.replicate exponent.toNat '0' ++ ['.', '0']
  else digits.take point.toNat ++ '.' :: digits.drop point.toNat

/-- The text of a number given by its bits. -/
def text (bits : UInt64) : String :=
  let b := bits.toNat
  let (sign, magnitude) :=
    if Binary64.signBit ≤ b then (['-'], b - Binary64.signBit) else ([], b)
  if Binary64.infinity < magnitude then "NaN"
  else if magnitude = Binary64.infinity then String.ofList (sign ++ ['i', 'n', 'f'])
  else if magnitude = 0 then String.ofList (sign ++ ['0', '.', '0'])
  else
    let (d, e) := decimal magnitude
    let (digits, zeros) := stripZeros (Nat.toDigits 10 d)
    String.ofList (sign ++ layout digits (e + zeros))

end ClusterOperator.Shortest
