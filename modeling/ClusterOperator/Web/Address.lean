import ClusterOperator.Error
import ClusterOperator.Text.Percent

/-!
# Numeric addresses

The host of an address of the web may be a number: four bytes with points between them, or eight
groups of sixteen bits with colons. The texts that are read are more than the ones that are
written: bytes may be given in octal or hexadecimal or run together into one number, a run of zero
groups may be left out, and the last two groups may be given as four bytes.

## Main definitions

* `Ipv4.endsInNumber`, `Ipv4.parse`, `Ipv4.text`.
* `Ipv6.parse`, `Ipv6.text`.
-/

namespace ClusterOperator.Web

/-- The pieces of a list of characters between occurrences of a separator. -/
def pieces (isSeparator : Char → Bool) : List Char → List (List Char)
  | [] => [[]]
  | c :: rest =>
    if isSeparator c then [] :: pieces isSeparator rest
    else match pieces isSeparator rest with
      | [] => [[c]]
      | piece :: others => (c :: piece) :: others

/-- The number that digits of a base stand for, if they are digits of this base. -/
def ofDigits? (base : Nat) (cs : List Char) : Option Nat :=
  cs.foldlM (fun n c => do
    let d ← Percent.digitValue? c
    if d < base then some (n * base + d) else none) 0

namespace Ipv4

/-- The number that a part stands for: hexadecimal after `0x`, octal after `0`, else decimal. -/
def number? : List Char → Option Nat
  | [] => none
  | '0' :: 'x' :: digits | '0' :: 'X' :: digits => ofDigits? 16 digits
  | ['0'] => some 0
  | '0' :: digits => ofDigits? 8 digits
  | digits => ofDigits? 10 digits

/-- The parts between points; one point at the end counts for nothing. -/
def parts (cs : List Char) : List (List Char) :=
  let ps := pieces (· == '.') cs
  if ps.getLast? = some [] ∧ 1 < ps.length then ps.dropLast else ps

/-- Whether a host has to be read as a number, because its last part is one. -/
def endsInNumber (cs : List Char) : Bool :=
  match (parts cs).getLast? with
  | none => false
  | some last => (!last.isEmpty && last.all Char.isDigit) || (number? last).isSome

/-- The address that numbers stand for: a byte each, and the last one the bytes that are left. -/
def assemble (limit : Nat) : List Nat → Option Nat
  | [] => none
  | [last] => if last < Nat.pow 256 limit then some last else none
  | n :: rest =>
    if n ≤ 255 then (assemble (limit - 1) rest).map (n * Nat.pow 256 (limit - 1) + ·) else none

/-- The address of a host. -/
def parse (cs : List Char) : Except UrlProblem Nat :=
  match (parts cs).mapM number? with
  | some numbers =>
    if 4 < numbers.length then .error .badIpv4
    else ((assemble 4 numbers).map .ok).getD (.error .badIpv4)
  | none => .error .badIpv4

/-- The text of an address. -/
def text (address : Nat) : String :=
  String.intercalate "."
    ([16777216, 65536, 256, 1].map fun unit => (address / unit % 256).repr)

end Ipv4

namespace Ipv6

/-- A group of at most four hexadecimal digits. -/
def group? (cs : List Char) : Option Nat :=
  if cs.isEmpty ∨ 4 < cs.length then none else ofDigits? 16 cs

/-- A byte in decimal digits without superfluous zeros. -/
def byte? (cs : List Char) : Option Nat := do
  if cs.isEmpty ∨ (cs.head? = some '0' ∧ 1 < cs.length) then none
  else
    let n ← ofDigits? 10 cs
    if n ≤ 255 then some n else none

/-- The two groups that four bytes stand for. -/
def bytePairs? (cs : List Char) : Option (List Nat) := do
  match ← (pieces (· == '.') cs).mapM byte? with
  | [a, b, c, d] => some [a * 256 + b, c * 256 + d]
  | _ => none

/-- The groups between colons; the last one may be given as four bytes. -/
def groups? : List (List Char) → Option (List Nat)
  | [] => some []
  | [last] => if last.contains '.' then bytePairs? last else (group? last).map ([·])
  | g :: rest => do return (← group? g) :: (← groups? rest)

/-- The groups of a text that may be empty. -/
def side? (cs : List Char) : Option (List Nat) :=
  if cs.isEmpty then some [] else groups? (pieces (· == ':') cs)

/-- The texts on both sides of the first double colon. -/
def splitDouble : List Char → Option (List Char × List Char)
  | [] => none
  | ':' :: ':' :: rest => some ([], rest)
  | c :: rest => (splitDouble rest).map fun (left, right) => (c :: left, right)

/-- The eight groups of an address. -/
def parse (cs : List Char) : Except UrlProblem (List Nat) :=
  let found : Option (List Nat) := do
    match splitDouble cs with
    | none =>
      let groups ← groups? (pieces (· == ':') cs)
      if groups.length = 8 then some groups else none
    | some (left, right) =>
      if left.contains '.' then none
      else
        let left ← side? left
        let right ← side? right
        let given := left.length + right.length
        if given ≤ 7 then some (left ++ List.replicate (8 - given) 0 ++ right) else none
  (found.map .ok).getD (.error .badIpv6)

/-- The length of the run of zeros at the start of a list. -/
def zeros (groups : List Nat) : Nat := (groups.takeWhile (· == 0)).length

/-- The start and the length of the longest run of zeros, the first one of several. -/
def longestRun (groups : List Nat) : Nat × Nat :=
  ((List.range groups.length).map fun i => (i, zeros (groups.drop i))).foldl
    (fun best run => if best.2 < run.2 then run else best) (0, 0)

/-- Groups in lower-case hexadecimal digits with colons between them. -/
def joined (groups : List Nat) : String :=
  String.intercalate ":" (groups.map fun g => String.ofList (Nat.toDigits 16 g))

/-- The text of an address; its longest run of at least two zero groups is left out. -/
def text (groups : List Nat) : String :=
  let (start, length) := longestRun groups
  if length < 2 then joined groups
  else joined (groups.take start) ++ "::" ++ joined (groups.drop (start + length))

end Ipv6

end ClusterOperator.Web
