import ClusterOperator.Json.Problem
import ClusterOperator.Text.Numeral

/-!
# Reading JSON text

A `Cursor` is the text still to be read together with the place reached. The functions here read
the pieces of JSON: blanks, literal words, strings, numbers, the marks between the items of a list
and the members of an object. Each either gives what it read and the cursor behind it, or refuses
with the cause and the place.

A problem seen when looking at the next character is placed behind that character; a problem seen
after taking it is placed where the cursor then is.

## Main definitions

* `Cursor`: the rest of the text and the place.
* `Cursor.string`, `Cursor.number`, `Cursor.ident`.
* `Cursor.nextItem`, `Cursor.endList`, `Cursor.nextKey`, `Cursor.colon`, `Cursor.endObject`.
* `Cursor.skipValue`: passes over a value without looking at what it is.
* `Json.parse`: the value of a whole text.
-/

namespace ClusterOperator

/-- The text still to be read, and the line and column reached. -/
structure Cursor where
  rest : List Char
  line : Nat
  column : Nat

namespace Cursor

/-- The start of a text. -/
def ofString (s : String) : Cursor := ⟨s.toList, 1, 0⟩

/-- The cursor behind the next character. -/
def advance (c : Cursor) : Cursor :=
  match c.rest with
  | [] => c
  | '\n' :: r => ⟨r, c.line + 1, 0⟩
  | x :: r => ⟨r, c.line, c.column + x.utf8Size⟩

/-- A refusal at the place reached. -/
def failWith (c : Cursor) (p : ReadProblem) : Located := ⟨p, c.line, c.column⟩

/-- A syntax problem at the place reached. -/
def fail {α : Type} (c : Cursor) (p : SyntaxProblem) : Except Located α :=
  .error (c.failWith (.badSyntax p))

/-- A syntax problem seen when looking at the next character. -/
def peekFail {α : Type} (c : Cursor) (p : SyntaxProblem) : Except Located α :=
  match c.rest with
  | [] => c.fail p
  | '\n' :: _ => .error ⟨.badSyntax p, c.line + 1, 0⟩
  | _ :: _ => .error ⟨.badSyntax p, c.line, c.column + 1⟩

/-- The cursor behind the characters that satisfy a condition. -/
def dropWhile (p : Char → Bool) : List Char → Nat → Nat → Cursor
  | [], line, column => ⟨[], line, column⟩
  | x :: r, line, column =>
    if p x then
      if x = '\n' then dropWhile p r (line + 1) 0 else dropWhile p r line (column + x.utf8Size)
    else ⟨x :: r, line, column⟩

/-- The blanks between the pieces of JSON. -/
def isJsonBlank (c : Char) : Bool := c = ' ' || c = '\n' || c = '\t' || c = '\r'

/-- The cursor behind the blanks. -/
def skipBlanks (c : Cursor) : Cursor := dropWhile isJsonBlank c.rest c.line c.column

/-- The next character. -/
def peek (c : Cursor) : Option Char := c.rest.head?

/-- The remaining letters of a literal word. -/
def ident (c : Cursor) : List Char → Except Located Cursor
  | [] => .ok c
  | x :: word =>
    match c.peek with
    | none => c.fail .endInValue
    | some y => if y = x then c.advance.ident word else c.advance.fail .expectedIdent

/-! ### Strings -/

/-- The value of a hexadecimal digit. -/
def hexValue (c : Char) : Option Nat :=
  if '0' ≤ c ∧ c ≤ '9' then some (c.toNat - 48)
  else if 'a' ≤ c ∧ c ≤ 'f' then some (c.toNat - 87)
  else if 'A' ≤ c ∧ c ≤ 'F' then some (c.toNat - 55)
  else none

/-- The cursor a number of bytes further on, inside a character if it ends there. -/
def advanceBytes (c : Cursor) : Nat → Cursor
  | 0 => c
  | n + 1 =>
    match c.rest with
    | [] => c
    | x :: _ =>
      if x.utf8Size ≤ n + 1 then c.advance.advanceBytes (n + 1 - x.utf8Size)
      else { c.advance with column := c.column + n + 1 }
termination_by n => n
decreasing_by have := Char.utf8Size_pos x; omega

/-- The four hexadecimal digits of an escape. -/
def hexEscape (c : Cursor) : Except Located (Nat × Cursor) :=
  match c.rest.take 4 with
  | [w, x, y, z] =>
    match hexValue w, hexValue x, hexValue y, hexValue z with
    | some w, some x, some y, some z =>
      .ok (((w * 16 + x) * 16 + y) * 16 + z, c.advance.advance.advance.advance)
    | _, _, _, _ => (c.advanceBytes 4).fail .invalidEscape
  | few =>
    if (String.ofList few).utf8ByteSize < 4 then (c.advanceBytes 4).fail .endInString
    else (c.advanceBytes 4).fail .invalidEscape

/-- A character given by its code, after the letter `u`. A code of the first half of a surrogate
pair asks for the second half in an escape of its own. -/
def unicodeEscape (c : Cursor) : Except Located (Char × Cursor) := do
  let (n, c) ← c.hexEscape
  if 0xdc00 ≤ n ∧ n ≤ 0xdfff then c.fail .loneSurrogate
  else if n < 0xd800 ∨ 0xdbff < n then return (Char.ofNat n, c)
  else
    match c.peek with
    | none => c.fail .endInString
    | some '\\' =>
      let c := c.advance
      match c.peek with
      | none => c.fail .endInString
      | some 'u' => do
        let (m, c) ← c.advance.hexEscape
        if 0xdc00 ≤ m ∧ m ≤ 0xdfff then
          return (Char.ofNat ((n - 0xd800) * 0x400 + (m - 0xdc00) + 0x10000), c)
        else c.fail .loneSurrogate
      | some _ => c.advance.fail .endOfHexEscape
    | some _ => c.advance.fail .endOfHexEscape

/-- The character of a one-letter escape. -/
def shortEscape : Char → Option Char
  | '"' => some '"'
  | '\\' => some '\\'
  | '/' => some '/'
  | 'b' => some '\x08'
  | 'f' => some '\x0c'
  | 'n' => some '\n'
  | 'r' => some '\r'
  | 't' => some '\t'
  | _ => none

/-- The character of an escape, after the backslash. -/
def escaped (c : Cursor) : Except Located (Char × Cursor) :=
  match c.peek with
  | none => c.fail .endInString
  | some 'u' => c.advance.unicodeEscape
  | some x =>
    match shortEscape x with
    | some y => .ok (y, c.advance)
    | none => c.advance.fail .invalidEscape

/-- The characters of a string up to its closing quote, put in front of those already read in
reverse. -/
def stringTail : Nat → List Char → Cursor → Except Located (String × Cursor)
  | 0, _, c => c.fail .endInString
  | fuel + 1, done, c =>
    match c.peek with
    | none => c.fail .endInString
    | some '"' => .ok (String.ofList done.reverse, c.advance)
    | some '\\' => do
      let (x, c) ← c.advance.escaped
      stringTail fuel (x :: done) c
    | some x =>
      if x.toNat < 0x20 then c.advance.fail .controlCharacter
      else stringTail fuel (x :: done) c.advance

/-- The text of a string, after its opening quote. -/
def string (c : Cursor) : Except Located (String × Cursor) := stringTail (c.rest.length + 1) [] c

/-! ### Numbers -/

/-- A number as it is written: a whole number that fits 64 bits, or the bits of a binary64
number. -/
inductive Number where
  | integer (value : Int)
  | real (bits : UInt64)

/-- What a number shows of itself where something else was expected. -/
def Number.found : Number → Found
  | integer n => .integer n
  | real bits => .real bits

/-- The value of a number. -/
def Number.toJson : Number → Json
  | integer n => .integer n
  | real bits => .real bits

/-- The power of ten as a binary64 number. -/
def powerOfTen (n : Nat) : Float := Float.ofBits (Binary64.ofDecimal 1 n).toUInt64

/-- Scales a significand by a power of ten, in steps of at most 308 places, each of which rounds.
None if the result is beyond the largest number. -/
def scale : Nat → Float → Int → Option Float
  | 0, f, _ => some f
  | fuel + 1, f, e =>
    if e.natAbs ≤ 308 then
      if 0 ≤ e then
        let g := f * powerOfTen e.natAbs
        if g.isInf then none else some g
      else some (f / powerOfTen e.natAbs)
    else if f == 0.0 then some f
    else if 0 ≤ e then none
    else scale fuel (f / powerOfTen 308) (e + 308)

/-- The binary64 number of a significand and a power of ten. -/
def real (c : Cursor) (negative : Bool) (significand : Nat) (exponent : Int) :
    Except Located (Number × Cursor) :=
  match scale 8 (Float.ofBits (Binary64.ofRatio significand 1).toUInt64) exponent with
  | none => c.fail .numberOutOfRange
  | some f => .ok (.real (if negative then -f else f).toBits, c)

/-- Appends digits to a significand as long as it fits 64 bits; gives the significand and the
digits left over. -/
def gather (significand : Nat) : List Char → Nat × List Char
  | [] => (significand, [])
  | d :: ds =>
    let next := significand * 10 + (d.toNat - 48)
    if next ≤ Text.maxUnsigned64 then gather next ds else (significand, d :: ds)

/-- The digits at the cursor and the cursor behind them. -/
def digits (c : Cursor) : List Char × Cursor :=
  (c.rest.takeWhile Char.isDigit, dropWhile Char.isDigit c.rest c.line c.column)

/-- Whether the next character is a digit. -/
def atDigit (c : Cursor) : Bool := (c.peek.map Char.isDigit).getD false

/-- Reads the digits of an exponent as long as it fits 32 bits with a sign. The flag tells whether
it did. -/
def exponentDigits (value : Nat) : Nat → Cursor → Nat × Bool × Cursor
  | 0, c => (value, true, c)
  | fuel + 1, c =>
    match c.peek with
    | some d =>
      if d.isDigit then
        let next := value * 10 + (d.toNat - 48)
        if next < 2147483648 then exponentDigits next fuel c.advance else (value, false, c.advance)
      else (value, true, c)
    | none => (value, true, c)

/-- The exponent part, after its letter. -/
def exponentPart (c : Cursor) (negative : Bool) (significand : Nat) (start : Int) :
    Except Located (Number × Cursor) :=
  let (down, c) := match c.peek with
    | some '+' => (false, c.advance)
    | some '-' => (true, c.advance)
    | _ => (false, c)
  match c.peek with
  | none => c.fail .endInValue
  | some d =>
    if d.isDigit then
      let (e, fits, c) := exponentDigits 0 (c.rest.length + 1) c
      if fits then real c negative significand (if down then start - e else start + e)
      else if significand ≠ 0 ∧ !down then c.fail .numberOutOfRange
      else real (digits c).2 negative 0 0
    else c.advance.fail .invalidNumber

/-- The part after the point. -/
def fractionPart (c : Cursor) (negative : Bool) (significand : Nat) (start : Int) :
    Except Located (Number × Cursor) :=
  let (ds, after) := digits c
  if ds.isEmpty then
    c.peekFail (if c.rest.isEmpty then .endInValue else .invalidNumber)
  else
    let (significand, dropped) := gather significand ds
    let exponent := start - ((ds.length - dropped.length : Nat) : Int)
    match after.peek with
    | some 'e' | some 'E' => exponentPart after.advance negative significand exponent
    | _ => real after negative significand exponent

/-- What follows the whole part of a number. -/
def numberTail (c : Cursor) (negative : Bool) (significand dropped : Nat) :
    Except Located (Number × Cursor) :=
  match c.peek with
  | some '.' => fractionPart c.advance negative significand dropped
  | some 'e' | some 'E' => exponentPart c.advance negative significand dropped
  | _ =>
    if 0 < dropped then real c negative significand dropped
    else if !negative then .ok (.integer significand, c)
    else if 0 < significand ∧ significand ≤ 9223372036854775808 then
      .ok (.integer (-(significand : Int)), c)
    else real c true significand 0

/-- A number, from its sign or its first digit. -/
def number (c : Cursor) : Except Located (Number × Cursor) :=
  let (negative, c) := if c.peek = some '-' then (true, c.advance) else (false, c)
  match c.peek with
  | none => c.fail .endInValue
  | some '0' =>
    let c := c.advance
    if c.atDigit then c.peekFail .invalidNumber else numberTail c negative 0 0
  | some d =>
    if d.isDigit then
      let (ds, c) := digits c
      let (significand, dropped) := gather 0 ds
      numberTail c negative significand dropped.length
    else c.advance.fail .invalidNumber

/-! ### Lists and objects -/

/-- The start of the next item of a list, or nothing if the list ends here. -/
def nextItem (c : Cursor) (first : Bool) : Except Located (Option Cursor) :=
  let c := c.skipBlanks
  match c.peek with
  | none => c.peekFail .endInList
  | some ']' => .ok none
  | some x =>
    if first then .ok (some c)
    else if x = ',' then
      let c := c.advance.skipBlanks
      match c.peek with
      | none => c.peekFail .endInValue
      | some ']' => c.peekFail .trailingComma
      | some _ => .ok (some c)
    else c.peekFail .expectedListCommaOrEnd

/-- The closing bracket of a list. -/
def endList (c : Cursor) : Except Located Cursor :=
  let c := c.skipBlanks
  match c.peek with
  | none => c.peekFail .endInList
  | some ']' => .ok c.advance
  | some ',' =>
    let c := c.advance.skipBlanks
    c.peekFail (if c.peek = some ']' then .trailingComma else .trailingCharacters)
  | some _ => c.peekFail .trailingCharacters

/-- The name of the next member of an object, or nothing if the object ends here. -/
def nextKey (c : Cursor) (first : Bool) : Except Located (Option (String × Cursor)) :=
  let c := c.skipBlanks
  match c.peek with
  | none => c.peekFail .endInObject
  | some '\x7d' => .ok none
  | some x =>
    if first then
      if x = '"' then c.advance.string.map some else c.peekFail .keyMustBeString
    else if x = ',' then
      let c := c.advance.skipBlanks
      match c.peek with
      | none => c.peekFail .endInValue
      | some '"' => c.advance.string.map some
      | some '\x7d' => c.peekFail .trailingComma
      | some _ => c.peekFail .keyMustBeString
    else c.peekFail .expectedObjectCommaOrEnd

/-- The colon between a name and its value. -/
def colon (c : Cursor) : Except Located Cursor :=
  let c := c.skipBlanks
  match c.peek with
  | none => c.peekFail .endInObject
  | some ':' => .ok c.advance
  | some _ => c.peekFail .expectedColon

/-- The closing brace of an object. -/
def endObject (c : Cursor) : Except Located Cursor :=
  let c := c.skipBlanks
  match c.peek with
  | none => c.peekFail .endInObject
  | some '\x7d' => .ok c.advance
  | some ',' => c.peekFail .trailingComma
  | some _ => c.peekFail .trailingCharacters

/-- The end of the text. -/
def finish (c : Cursor) : Except Located Unit :=
  let c := c.skipBlanks
  if c.rest.isEmpty then .ok () else c.peekFail .trailingCharacters

/-! ### Passing over a value

A value whose content nobody asks for only has to be well formed as text: halves of surrogate
pairs and numbers beyond binary64 pass, and lists and objects may be nested to any depth. -/

/-- Passes over a string, after its opening quote. -/
def skipString : Nat → Cursor → Except Located Cursor
  | 0, c => c.fail .endInString
  | fuel + 1, c =>
    match c.peek with
    | none => c.fail .endInString
    | some '"' => .ok c.advance
    | some '\\' =>
      let c := c.advance
      match c.peek with
      | none => c.fail .endInString
      | some 'u' => do
        let (_, c) ← c.advance.hexEscape
        skipString fuel c
      | some x =>
        if (shortEscape x).isSome then skipString fuel c.advance
        else c.advance.fail .invalidEscape
    | some x => if x.toNat < 0x20 then c.fail .controlCharacter else skipString fuel c.advance

/-- Passes over the exponent part of a number, after its letter. -/
def skipExponent (c : Cursor) : Except Located Cursor :=
  let c := if c.peek = some '+' ∨ c.peek = some '-' then c.advance else c
  if c.atDigit then .ok (digits c).2 else c.advance.fail .invalidNumber

/-- Passes over a number, from its first digit. -/
def skipNumber (c : Cursor) : Except Located Cursor := do
  let c ← match c.peek with
    | some '0' =>
      if c.advance.atDigit then c.advance.peekFail .invalidNumber else .ok c.advance
    | _ => if c.atDigit then .ok (digits c).2 else c.advance.fail .invalidNumber
  match c.peek with
  | some '.' =>
    let c := c.advance
    if c.atDigit then
      let c := (digits c).2
      if c.peek = some 'e' ∨ c.peek = some 'E' then c.advance.skipExponent else .ok c
    else c.peekFail .invalidNumber
  | some 'e' | some 'E' => c.advance.skipExponent
  | _ => .ok c

/-- The kind of an open list or object. -/
inductive Frame where
  | list
  | object
  deriving DecidableEq

/-- The character that closes a frame. -/
def Frame.close : Frame → Char
  | list => ']'
  | object => '\x7d'

/-- The name and colon that precede a value in an object. -/
def skipKey (c : Cursor) : Except Located Cursor :=
  let c := c.skipBlanks
  match c.peek with
  | none => c.peekFail .endInObject
  | some '"' => do
    let c ← skipString (c.rest.length + 1) c.advance
    c.colon
  | some _ => c.peekFail .keyMustBeString

mutual

/-- Passes over a value and all that follows it inside the open frames. -/
def skipFrom : Nat → List Frame → Cursor → Except Located Cursor
  | 0, _, c => c.fail .endInValue
  | fuel + 1, open_, c =>
    let c := c.skipBlanks
    match c.peek with
    | none => c.peekFail .endInValue
    | some 'n' => do skipAfter fuel open_ true (← c.advance.ident ['u', 'l', 'l'])
    | some 't' => do skipAfter fuel open_ true (← c.advance.ident ['r', 'u', 'e'])
    | some 'f' => do skipAfter fuel open_ true (← c.advance.ident ['a', 'l', 's', 'e'])
    | some '"' => do skipAfter fuel open_ true (← skipString (c.rest.length + 1) c.advance)
    | some '-' => do skipAfter fuel open_ true (← c.advance.skipNumber)
    | some '[' => skipAfter fuel (.list :: open_) false c.advance
    | some '\x7b' => skipAfter fuel (.object :: open_) false c.advance
    | some x =>
      if x.isDigit then do skipAfter fuel open_ true (← c.skipNumber)
      else c.peekFail .expectedValue

/-- Goes on behind a value, or behind the opening of a frame if no value has come yet. -/
def skipAfter : Nat → List Frame → Bool → Cursor → Except Located Cursor
  | 0, _, _, c => c.fail .endInValue
  | _ + 1, [], _, c => .ok c
  | fuel + 1, frame :: open_, afterValue, c =>
    let c := c.skipBlanks
    let next (c : Cursor) : Except Located Cursor := do
      match frame with
      | .list => skipFrom fuel (frame :: open_) c
      | .object => do skipFrom fuel (frame :: open_) (← c.skipKey)
    match c.peek with
    | none => c.peekFail (match frame with | .list => .endInList | .object => .endInObject)
    | some x =>
      if afterValue ∧ x = ',' then next c.advance
      else if x = frame.close then skipAfter fuel open_ true c.advance
      else if afterValue then
        c.peekFail (match frame with
          | .list => .expectedListCommaOrEnd
          | .object => .expectedObjectCommaOrEnd)
      else next c

end

/-- Passes over a value. -/
def skipValue (c : Cursor) : Except Located Cursor := skipFrom (2 * c.rest.length + 2) [] c

/-! ### Values -/

mutual

/-- A value of any kind. -/
def valueTail : Nat → Cursor → Except Located (Json × Cursor)
  | 0, c => c.fail .endInValue
  | fuel + 1, c =>
    let c := c.skipBlanks
    match c.peek with
    | none => c.peekFail .endInValue
    | some 'n' => do return (.null, ← c.advance.ident ['u', 'l', 'l'])
    | some 't' => do return (.bool true, ← c.advance.ident ['r', 'u', 'e'])
    | some 'f' => do return (.bool false, ← c.advance.ident ['a', 'l', 's', 'e'])
    | some '"' => do
      let (s, c) ← c.advance.string
      return (.string s, c)
    | some '[' => do
      let (items, c) ← itemsTail fuel true [] c.advance
      return (.array items, ← c.endList)
    | some '\x7b' => do
      let (ms, c) ← membersTail fuel true [] c.advance
      return (Json.ofMembers ms, ← c.endObject)
    | some x =>
      if x = '-' ∨ x.isDigit then do
        let (n, c) ← c.number
        return (n.toJson, c)
      else c.peekFail .expectedValue

/-- The items of a list up to its end, behind those already read in reverse. -/
def itemsTail : Nat → Bool → List Json → Cursor → Except Located (List Json × Cursor)
  | 0, _, _, c => c.fail .endInList
  | fuel + 1, first, done, c => do
    match ← c.nextItem first with
    | none => return (done.reverse, c)
    | some c => do
      let (j, c) ← valueTail fuel c
      itemsTail fuel false (j :: done) c

/-- The members of an object up to its end, behind those already read in reverse. -/
def membersTail : Nat → Bool → List (String × Json) → Cursor →
    Except Located (List (String × Json) × Cursor)
  | 0, _, _, c => c.fail .endInObject
  | fuel + 1, first, done, c => do
    match ← c.nextKey first with
    | none => return (done.reverse, c)
    | some (name, c) => do
      let c ← c.colon
      let (j, c) ← valueTail fuel c
      membersTail fuel false ((name, j) :: done) c

end

/-- A value of any kind. -/
def value (c : Cursor) : Except Located (Json × Cursor) := valueTail (2 * c.rest.length + 2) c

end Cursor

/-- The value of a whole text. -/
def Json.parse (s : String) : Except Located Json := do
  let (j, c) ← (Cursor.ofString s).value
  c.finish
  return j

end ClusterOperator
