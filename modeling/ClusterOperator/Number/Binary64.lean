/-!
# Numbers of binary64

A finite positive number of the format is `m · 2 ^ q` with a 53-bit significand `m` and an
exponent `q` that is at least `-1074`. The bits of such a number are `(q + 1074) · 2 ^ 52 + m`:
the leading bit of a full significand carries into the exponent field, and a significand that
rounding has brought to `2 ^ 53` carries once more, so one formula covers normal, subnormal and
rounded-up numbers alike.

Rounding is of exact quotients, to the nearest number and on a tie to the even significand.

## Main definitions

* `Binary64.ofRatio`: the bits of the number nearest to a quotient of naturals.
* `Binary64.ofDecimal`: the same for digits with a power of ten.
* `Binary64.parts`: significand and exponent of the bits of a finite number.
* `Binary64.same`: whether two finite numbers are equal.
-/

namespace ClusterOperator.Binary64

/-- The leading bit of a full significand, `2 ^ 52`. -/
def leadingBit : Nat := 0x10000000000000

/-- The bits of positive infinity. -/
def infinity : Nat := 0x7ff0000000000000

/-- The bits of a number that is none. -/
def nan : Nat := 0x7ff8000000000000

/-- The quotient rounded to the nearest natural, a tie to the even one. -/
def roundQuotient (num den : Nat) : Nat :=
  let m := num / den
  let twice := 2 * (num % den)
  if twice < den then m
  else if twice = den then (if m % 2 = 0 then m else m + 1)
  else m + 1

/-- The exponent at which the significand of `num / den` has 53 bits, but never below the least
exponent of the format. -/
def exponentOf (num den : Nat) : Int :=
  let guess : Int := (num.log2 : Int) - den.log2 - 52
  -- the two logarithms leave the quotient's own logarithm open by one
  let fits (q : Int) : Bool :=
    if 0 ≤ q then decide (den * leadingBit * Nat.pow 2 q.toNat ≤ num)
    else decide (den * leadingBit ≤ num * Nat.pow 2 (-q).toNat)
  max (if fits guess then guess else guess - 1) (-1074)

/-- The bits of the number nearest to `num / den`; infinity beyond the largest number. -/
def ofRatio (num den : Nat) : Nat :=
  if num = 0 then 0
  else
    let q := exponentOf num den
    let m := if 0 ≤ q then roundQuotient num (den * Nat.pow 2 q.toNat)
      else roundQuotient (num * Nat.pow 2 (-q).toNat) den
    min ((q + 1074).toNat * leadingBit + m) infinity

/-- The bits of the number nearest to `digits · 10 ^ exponent`. Exponents far outside the format
are answered without computing the power. -/
def ofDecimal (digits : Nat) (exponent : Int) : Nat :=
  let magnitude : Int := (Nat.toDigits 10 digits).length + exponent
  if digits = 0 then 0
  else if 400 < magnitude then infinity
  else if magnitude < -400 then 0
  else if 0 ≤ exponent then ofRatio (digits * Nat.pow 10 exponent.toNat) 1
  else ofRatio digits (Nat.pow 10 (-exponent).toNat)

/-- Significand and exponent of the bits of a finite number without its sign. -/
def parts (bits : Nat) : Nat × Int :=
  let field : Nat := bits / leadingBit
  let low : Nat := bits % leadingBit
  if field = 0 then (low, -1074) else (low + leadingBit, (field : Int) - 1075)

/-- The bit that holds the sign. -/
def signBit : Nat := 0x8000000000000000

/-- Whether bits are those of one of the two zeros. -/
def isZero (bits : Nat) : Bool := bits == 0 || bits == signBit

/-- Whether the bits of two finite numbers stand for the same number: zero has two forms. -/
def same (a b : Nat) : Bool := a == b || (isZero a && isZero b)

end ClusterOperator.Binary64
