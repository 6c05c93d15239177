/-!
# Percent encoding

Where a text may hold only some characters, the bytes of any other character in UTF-8 are written
as a percent sign and two hexadecimal digits each.

## Main definitions

* `Percent.encode`: the text with every character that is not plain written as its bytes.
* `Percent.decode`: the bytes that a text stands for.
* `Percent.formValue`: a value in a form, where a space is written as a plus sign.
-/

namespace ClusterOperator.Percent

/-- The bytes of a list of characters in UTF-8. -/
def utf8 (cs : List Char) : List UInt8 := cs.flatMap String.utf8EncodeChar

/-- The upper-case hexadecimal digit of a number below sixteen. -/
def digit (n : Nat) : Char := (Nat.digitChar n).toUpper

/-- A byte as a percent sign and two digits. -/
def escape (b : UInt8) : List Char := ['%', digit (b.toNat / 16), digit (b.toNat % 16)]

/-- The text with every character that is not plain written as its bytes. -/
def encode (plain : Char → Bool) (cs : List Char) : List Char :=
  cs.flatMap fun c => if plain c then [c] else (String.utf8EncodeChar c).flatMap escape

/-- The value of a hexadecimal digit. -/
def digitValue? (c : Char) : Option Nat :=
  if '0' ≤ c ∧ c ≤ '9' then some (c.toNat - '0'.toNat)
  else if 'a' ≤ c ∧ c ≤ 'f' then some (c.toNat - 'a'.toNat + 10)
  else if 'A' ≤ c ∧ c ≤ 'F' then some (c.toNat - 'A'.toNat + 10)
  else none

/-- The byte that two digits stand for. -/
def byte? (high low : Char) : Option UInt8 := do
  return UInt8.ofNat ((← digitValue? high) * 16 + (← digitValue? low))

/-- The bytes that a text stands for; a percent sign that no two digits follow stands for itself. -/
def decode : List Char → List UInt8
  | [] => []
  | '%' :: high :: low :: rest =>
    match byte? high low with
    | some b => b :: decode rest
    | none => String.utf8EncodeChar '%' ++ decode (high :: low :: rest)
  | c :: rest => String.utf8EncodeChar c ++ decode rest

/-- The characters that stand for themselves in the value of a form. -/
def isFormPlain (c : Char) : Bool :=
  c.isAlphanum || c == '*' || c == '-' || c == '.' || c == '_'

/-- A value in a form. -/
def formValue (s : String) : String :=
  String.ofList (s.toList.flatMap fun c => if c = ' ' then ['+'] else encode isFormPlain [c])

end ClusterOperator.Percent
