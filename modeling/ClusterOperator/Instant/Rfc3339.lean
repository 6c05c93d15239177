import ClusterOperator.Instant
import ClusterOperator.Json.Problem
import ClusterOperator.Text.Blank
import ClusterOperator.Text.Numeral

/-!
# The text of an instant

Instants are written in the form of RFC 3339: date and time in universal time, whole seconds, a
`Z` at the end. Years from 0 to 9999 have four digits; others have a sign and at least four.

Two readers accept more. The *lenient* one, used for the times inside objects, allows blanks in
front of numbers and separators, numbers of one digit, any signed year, any offset, and skips
digits of the fraction beyond the ninth. The *strict* one, used for the times that a caller sets,
asks for the exact number of digits.

## Main definitions

* `Instant.render`: the written form.
* `Instant.read`: the lenient reader.
* `Instant.readStrict`: the strict reader.
-/

namespace ClusterOperator.Instant

/-! ### Writing -/

/-- A number with zeros in front up to a width. -/
def padded (width n : Nat) : List Char :=
  let ds := Nat.toDigits 10 n
  List.replicate (width - ds.length) '0' ++ ds

/-- The year: four digits, or a sign and at least four. -/
def renderYear (year : Int) : List Char :=
  if 0 ≤ year ∧ year ≤ 9999 then padded 4 year.toNat
  else (if year < 0 then '-' else '+') :: padded 4 year.natAbs

/-- The written form of an instant, without its fraction of a second. -/
def render (t : Instant) : String :=
  String.ofList (renderYear t.date.year ++ '-' :: padded 2 t.date.month ++ '-' ::
    padded 2 t.date.day ++ 'T' :: padded 2 t.hour.val ++ ':' :: padded 2 t.minute.val ++ ':' ::
    padded 2 t.second.val ++ ['Z'])

/-! ### Reading

A reader takes the characters still to be read and gives what it read with the rest. -/

/-- Between `least` and `most` digits, as many as there are. -/
def digits (least : Nat) (most : Nat) (cs : List Char) : Except TimeProblem (Nat × List Char) :=
  let ds := (cs.take most).takeWhile Char.isDigit
  if (String.ofList cs).utf8ByteSize < least then .error .tooShort
  else if ds.length < least then .error .invalid
  else .ok (Nat.ofDigitChars 10 ds 0, cs.drop ds.length)

/-- A given character. -/
def literal (c : Char) : List Char → Except TimeProblem (Unit × List Char)
  | [] => .error .tooShort
  | d :: r => if d = c then .ok ((), r) else .error .invalid

/-- Refuses a number outside its range. -/
def within (least most : Nat) (n : Nat) : Except TimeProblem Nat :=
  if least ≤ n ∧ n ≤ most then .ok n else .error .outOfRange

/-- A number of at most two digits inside its range, after blanks. -/
def field (least most : Nat) (cs : List Char) : Except TimeProblem (Nat × List Char) := do
  let (n, cs) ← digits 1 2 (Text.trimLeft cs)
  let n ← within least most n
  return (n, cs)

/-- A year: up to four digits, or a sign and any number of digits. -/
def year (cs : List Char) : Except TimeProblem (Int × List Char) :=
  match Text.trimLeft cs with
  | '-' :: r => do
    let (n, r) ← digits 1 r.length r
    let n ← within 0 2147483648 n
    return (-(n : Int), r)
  | '+' :: r => do
    let (n, r) ← digits 1 r.length r
    let n ← within 0 2147483647 n
    return ((n : Int), r)
  | cs => do
    let (n, r) ← digits 1 4 cs
    return ((n : Int), r)

/-- A separator after blanks. -/
def separator (c : Char) (cs : List Char) : Except TimeProblem (Unit × List Char) :=
  literal c (Text.trimLeft cs)

/-- The nanoseconds of a fraction of a second, if a point announces one: nine places count, further
ones are skipped. -/
def fraction : List Char → Except TimeProblem (Nat × List Char)
  | '.' :: r => do
    let (n, rest) ← digits 1 9 r
    let places := r.length - rest.length
    return (n * Nat.pow 10 (9 - places), rest.dropWhile Char.isDigit)
  | cs => .ok (0, cs)

/-- Two digits of an offset. -/
def twoDigits : List Char → Except TimeProblem (Nat × List Char)
  | a :: b :: r =>
    if a.isDigit && b.isDigit then .ok (Nat.ofDigitChars 10 [a, b] 0, r) else .error .invalid
  | _ => .error .tooShort

/-- The distance from universal time in minutes; `between` skips what may stand between hours and
minutes. -/
def offset (between : List Char → Except TimeProblem (List Char)) :
    List Char → Except TimeProblem (Int × List Char)
  | [] => .error .tooShort
  | c :: r =>
    if c = 'Z' ∨ c = 'z' then .ok (0, r)
    else if c = '+' ∨ c = '-' ∨ c = '\u2212' then do
      let (hours, r) ← twoDigits r
      let r ← between r
      let (minutes, r) ← twoDigits r
      let minutes ← within 0 59 minutes
      let total : Int := hours * 60 + minutes
      return (if c = '+' then total else -total, r)
    else .error .invalid

/-- The `T` between date and time, or a blank in its place. -/
def dateTimeMark : List Char → Except TimeProblem (Unit × List Char)
  | [] => .error .tooShort
  | c :: r => if c = 'T' ∨ c = 't' ∨ c = ' ' then .ok ((), r) else .error .invalid

/-- The instant of calendar fields with an offset. -/
def ofParts (year : Int) (month day hour minute second nano : Nat) (aheadMinutes : Int) :
    Except TimeProblem Instant :=
  if 1440 ≤ aheadMinutes.natAbs then .error .outOfRange
  else
    match Date.ofFields? year month day with
    | none => .error .outOfRange
    | some date =>
      match (Instant.ofFields date hour minute second nano).ofLocal? aheadMinutes with
      | some t => .ok t
      | none => .error .outOfRange

/-- An offset written as the three letters of universal time, in any case. -/
def universalName : List Char → Option (List Char)
  | a :: b :: c :: r =>
    if a.toUpper = 'U' ∧ b.toUpper = 'T' ∧ c.toUpper = 'C' then some r else none
  | _ => none

/-- The lenient reader. -/
def read (s : String) : Except TimeProblem Instant := do
  let (y, cs) ← year s.toList
  let ((), cs) ← separator '-' cs
  let (month, cs) ← field 1 12 cs
  let ((), cs) ← separator '-' cs
  let (day, cs) ← field 1 31 cs
  let ((), cs) ← dateTimeMark cs
  let (hour, cs) ← field 0 23 cs
  let ((), cs) ← separator ':' cs
  let (minute, cs) ← field 0 59 cs
  let ((), cs) ← separator ':' cs
  let (second, cs) ← field 0 60 cs
  let (nano, cs) ← fraction cs
  let cs := Text.trimLeft cs
  let (ahead, cs) ← match universalName cs with
    | some r => pure ((0 : Int), r)
    | none => offset (fun r => .ok (r.dropWhile fun c => c = ':' || Text.isBlank c)) cs
  if (Text.trimLeft cs).isEmpty then ofParts y month day hour minute second nano ahead
  else .error .tooLong

/-- A number of exactly two digits inside its range. -/
def exactField (least most : Nat) (cs : List Char) : Except TimeProblem (Nat × List Char) := do
  let (n, cs) ← digits 2 2 cs
  let n ← within least most n
  return (n, cs)

/-- The strict reader. -/
def readStrict (s : String) : Except TimeProblem Instant := do
  let (y, cs) ← digits 4 4 s.toList
  let ((), cs) ← literal '-' cs
  let (month, cs) ← exactField 1 12 cs
  let ((), cs) ← literal '-' cs
  let (day, cs) ← exactField 1 31 cs
  let ((), cs) ← dateTimeMark cs
  let (hour, cs) ← exactField 0 23 cs
  let ((), cs) ← literal ':' cs
  let (minute, cs) ← exactField 0 59 cs
  let ((), cs) ← literal ':' cs
  let (second, cs) ← exactField 0 60 cs
  let (nano, cs) ← fraction cs
  let (ahead, cs) ← offset (fun r => (literal ':' r).map (·.2)) cs
  if cs.isEmpty then ofParts y month day hour minute second nano ahead
  else .error .tooLong

end ClusterOperator.Instant
