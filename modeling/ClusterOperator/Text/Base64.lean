/-!
# Bytes as text

Binary values of a configuration map are written in base 64: three bytes become four letters, and
a last group of one or two bytes is filled up with the padding sign. Only the canonical form is
read: with its padding, without blanks, and with no bits set beyond the last byte.

## Main definitions

* `Base64.encode`: the text of a list of bytes.
* `Base64.Problem`, `Base64.decode`: the bytes of a text, or what is wrong with it.
-/

namespace ClusterOperator

namespace Base64

/-- The letter of a group of six bits. -/
def letter (n : Nat) : Char :=
  if n < 26 then Char.ofNat (65 + n)
  else if n < 52 then Char.ofNat (97 + (n - 26))
  else if n < 62 then Char.ofNat (48 + (n - 52))
  else if n = 62 then '+'
  else '/'

/-- The six bits of a letter, given by its code. -/
def bits? (c : Nat) : Option Nat :=
  if 65 ≤ c ∧ c ≤ 90 then some (c - 65)
  else if 97 ≤ c ∧ c ≤ 122 then some (c - 97 + 26)
  else if 48 ≤ c ∧ c ≤ 57 then some (c - 48 + 52)
  else if c = 43 then some 62
  else if c = 47 then some 63
  else none

/-- The letters of a list of bytes. -/
def encodeBytes : List UInt8 → List Char
  | [] => []
  | [a] => [letter (a.toNat / 4), letter (a.toNat % 4 * 16), '=', '=']
  | [a, b] =>
    [letter (a.toNat / 4), letter (a.toNat % 4 * 16 + b.toNat / 16),
      letter (b.toNat % 16 * 4), '=']
  | a :: b :: c :: rest =>
    letter (a.toNat / 4) :: letter (a.toNat % 4 * 16 + b.toNat / 16) ::
      letter (b.toNat % 16 * 4 + c.toNat / 64) :: letter (c.toNat % 64) :: encodeBytes rest

/-- The text of a list of bytes. -/
def encode (bytes : List UInt8) : String := String.ofList (encodeBytes bytes)

/-- What is wrong with a text that stands for no bytes. Offsets count bytes. -/
inductive Problem where
  | badSymbol (offset code : Nat)
  | badLength (length : Nat)
  | badLastSymbol (offset code : Nat)
  | badPadding
  deriving DecidableEq, Repr

/-- The wording of a problem. -/
def Problem.message : Problem → String
  | badSymbol offset code => "Invalid symbol " ++ code.repr ++ ", offset " ++ offset.repr ++ "."
  | badLength length => "Invalid input length: " ++ length.repr
  | badLastSymbol offset code =>
    "Invalid last symbol " ++ code.repr ++ ", offset " ++ offset.repr ++ "."
  | badPadding => "Invalid padding"

/-- The code of the padding sign. -/
def padding : Nat := 61

/-- The letters of the last group up to the padding, each with its code, and how many padding
signs follow. The offset is that of the group. -/
def lastGroup (offset : Nat) : Nat → List (Nat × Nat) → Nat → List Nat →
    Except Problem (List (Nat × Nat) × Nat)
  | _, letters, pads, [] => .ok (letters.reverse, pads)
  | i, letters, pads, c :: rest =>
    if c = padding then
      if i < 2 then .error (.badSymbol (offset + i) c)
      else lastGroup offset (i + 1) letters (pads + 1) rest
    else if 0 < pads then .error (.badSymbol (offset + i - pads) padding)
    else match bits? c with
      | some b => lastGroup offset (i + 1) ((b, c) :: letters) pads rest
      | none => .error (.badSymbol (offset + i) c)

/-- The bytes of the last group of at most four symbols. -/
def decodeLast (offset : Nat) (codes : List Nat) : Except Problem (List UInt8) := do
  if codes.isEmpty then return []
  let (letters, pads) ← lastGroup offset 0 [] 0 codes
  if letters.length < 2 then .error (.badLength (offset + letters.length))
  else if (letters.length + pads) % 4 ≠ 0 then .error .badPadding
  else match letters with
    | [(a, _), (b, code)] =>
      if b % 16 = 0 then return [UInt8.ofNat (a * 4 + b / 16)]
      else .error (.badLastSymbol (offset + 1) code)
    | [(a, _), (b, _), (c, code)] =>
      if c % 4 = 0 then
        return [UInt8.ofNat (a * 4 + b / 16), UInt8.ofNat (b % 16 * 16 + c / 4)]
      else .error (.badLastSymbol (offset + 2) code)
    | [(a, _), (b, _), (c, _), (d, _)] =>
      return [UInt8.ofNat (a * 4 + b / 16), UInt8.ofNat (b % 16 * 16 + c / 4),
        UInt8.ofNat (c % 4 * 64 + d)]
    | _ => .error .badPadding

/-- The six bits of the symbol at an offset inside the text, where no padding may stand. -/
def inner (offset c : Nat) : Except Problem Nat :=
  match bits? c with
  | some b => .ok b
  | none => .error (.badSymbol offset c)

/-- The bytes of a list of symbols that starts at an offset. -/
def decodeFrom (offset : Nat) : List Nat → Except Problem (List UInt8)
  | a :: b :: c :: d :: e :: rest => do
    let a ← inner offset a
    let b ← inner (offset + 1) b
    let c ← inner (offset + 2) c
    let d ← inner (offset + 3) d
    let bytes ← decodeFrom (offset + 4) (e :: rest)
    return UInt8.ofNat (a * 4 + b / 16) :: UInt8.ofNat (b % 16 * 16 + c / 4) ::
      UInt8.ofNat (c % 4 * 64 + d) :: bytes
  | codes => decodeLast offset codes

/-- The bytes of a text. A single symbol that is left over after whole groups is looked at first,
so that a stray line end is named as what it is. -/
def decode (s : String) : Except Problem (List UInt8) :=
  let codes := s.toUTF8.toList.map (·.toNat)
  match codes.length % 4, codes.getLast? with
  | 1, some last =>
    if last ≠ padding ∧ (bits? last).isNone then .error (.badSymbol (codes.length - 1) last)
    else decodeFrom 0 codes
  | _, _ => decodeFrom 0 codes

end Base64

end ClusterOperator
