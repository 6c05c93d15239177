import ClusterOperator.Json.Cursor
import ClusterOperator.Shape.Read

/-!
# Reading text

Decodes JSON text by a shape, from left to right, without building the value in between. What is
wrong first in the text decides, be it the text or the type of a value, and the place at which
reading stopped is named. Members that no field has only have to be well formed.

## Main definitions

* `Shape.scan`: the value that the text at a cursor stands for.
* `Shape.readText`: the value of a whole text.
-/

namespace ClusterOperator

namespace Cursor

/-- The refusal of the value at the cursor because another type was expected. A value that is no
list and no object is read first, so that a value which is not even well formed is refused as
such. -/
def unexpected (c : Cursor) (expected : String) : Located :=
  let wrong (found : Found) (c : Cursor) : Located := c.failWith (.invalidType found expected)
  let word (letters : List Char) (found : Found) : Located :=
    match c.advance.ident letters with
    | .ok c => wrong found c
    | .error e => e
  match c.peek with
  | some 'n' => word ['u', 'l', 'l'] .null
  | some 't' => word ['r', 'u', 'e'] (.bool true)
  | some 'f' => word ['a', 'l', 's', 'e'] (.bool false)
  | some '"' =>
    match c.advance.string with
    | .ok (s, c) => wrong (.string s) c
    | .error e => e
  | some '[' => wrong .sequence c
  | some '\x7b' => wrong .map c
  | some x =>
    if x = '-' ∨ x.isDigit then
      match c.number with
      | .ok (n, c) => wrong n.found c
      | .error e => e
    else
      match (c.peekFail .expectedValue : Except Located Unit) with
      | .ok _ => wrong .null c
      | .error e => e
  | none => c.failWith (.badSyntax .expectedValue)

/-- Goes to the start of the next value, which must exist. -/
def start (c : Cursor) : Except Located Cursor :=
  let c := c.skipBlanks
  if c.rest.isEmpty then c.peekFail .endInValue else .ok c

/-- The items of a list, each by the given reader. -/
def items {α : Type} (item : Cursor → Except Located (α × Cursor)) :
    Nat → Bool → List α → Cursor → Except Located (List α × Cursor)
  | 0, _, _, c => c.fail .endInList
  | fuel + 1, first, done, c => do
    match ← c.nextItem first with
    | none => return (done.reverse, c)
    | some c =>
      let (v, c) ← item c
      items item fuel false (v :: done) c

/-- Takes the members of an object one by one into a state. -/
def members {σ : Type} (step : String → σ → Cursor → Except Located (σ × Cursor)) :
    Nat → Bool → σ → Cursor → Except Located (σ × Cursor)
  | 0, _, _, c => c.fail .endInObject
  | fuel + 1, first, s, c => do
    match ← c.nextKey first with
    | none => return (s, c)
    | some (name, c) =>
      let (s, c) ← step name s c
      members step fuel false s c

/-- A refusal by a check of a value that has been read, at the place reached. -/
def check {α : Type} (c : Cursor) (r : Except ReadProblem α) : Except Located α :=
  r.mapError c.failWith

/-- A whole number of a range. -/
def scanInteger (w : Width) (c : Cursor) : Except Located (w.Val × Cursor) := do
  let c ← c.start
  if c.peek = some '-' ∨ c.atDigit then
    let (n, c) ← c.number
    let v ← c.check (readInteger w n.toJson)
    return (v, c)
  else .error (c.unexpected w.name)

/-- A text. -/
def scanText (expected : String) (c : Cursor) : Except Located (String × Cursor) := do
  let c ← c.start
  if c.peek = some '"' then c.advance.string else .error (c.unexpected expected)

/-- A truth value. -/
def scanBoolean (c : Cursor) : Except Located (Bool × Cursor) := do
  let c ← c.start
  match c.peek with
  | some 't' => return (true, ← c.advance.ident ['r', 'u', 'e'])
  | some 'f' => return (false, ← c.advance.ident ['a', 'l', 's', 'e'])
  | _ => .error (c.unexpected "a boolean")

/-- One of the given names, as a text or as the only member of an object whose value is null. -/
def scanChoice (first : String) (others : List String) (c : Cursor) :
    Except Located (Fin (others.length + 1) × Cursor) := do
  let c ← c.start
  match c.peek with
  | some '"' =>
    let (name, c) ← c.advance.string
    let i ← c.check (readChoice first others (.string name))
    return (i, c)
  | some '\x7b' =>
    let (name, c) ← scanText "variant identifier" c.advance
    let i ← c.check (readChoice first others (.string name))
    let c ← c.colon
    let c ← c.start
    if c.peek = some 'n' then
      let c ← c.advance.ident ['u', 'l', 'l']
      let c := c.skipBlanks
      match c.peek with
      | some '\x7d' => return (i, c.advance)
      | some _ => c.fail .expectedValue
      | none => c.fail .endInObject
    else .error (c.unexpected "unit")
  | _ => c.peekFail .expectedValue

/-- A port: a number of 32 bits or a text. -/
def scanNumberOrName (c : Cursor) : Except Located ((Signed32 ⊕ String) × Cursor) := do
  let c ← c.start
  if c.peek = some '"' then
    let (s, c) ← c.advance.string
    return (.inr s, c)
  else if c.peek = some '-' ∨ c.atDigit then
    let (n, c) ← c.number
    let v ← c.check (readNumberOrName n.toJson)
    return (v, c)
  else .error (c.unexpected "IntOrString")

/-- An instant, by the lenient reader. -/
def scanInstant (c : Cursor) : Except Located (Instant × Cursor) := do
  let (s, c) ← c.scanText "an RFC 3339 formatted date and time string"
  let t ← c.check (readInstant (.string s))
  return (t, c)

/-- Bytes in base 64. -/
def scanBytes (c : Cursor) : Except Located (List UInt8 × Cursor) := do
  let (s, c) ← c.scanText "a base64-encoded string"
  let bytes ← c.check (readBytes (.string s))
  return (bytes, c)

/-- The word null, if it stands here. -/
def null? (c : Cursor) : Except Located (Option Cursor) :=
  let c := c.skipBlanks
  if c.peek = some 'n' then (c.advance.ident ['u', 'l', 'l']).map some else .ok none

end Cursor

/-- The value of a field that is given in a list of fields. -/
def Presence.scanGiven {α : Type} (scan : Cursor → Except Located (α × Cursor)) (c : Cursor) :
    (p : Presence) → Except Located (p.Val α × Cursor)
  | optional => do
    match ← c.null? with
    | some c => return (none, c)
    | none =>
      let (v, c) ← scan c
      return (some v, c)
  | nullable => do
    match ← c.null? with
    | some c => return (none, c)
    | none =>
      let (v, c) ← scan c
      return (some v, c)
  | defaulted => scan c
  | required => scan c

/-- The member of a name after its colon. -/
def Slot.scan {α : Type} (allowsNull : Bool) (scan : Cursor → Except Located (α × Cursor))
    (c : Cursor) : Except Located (Slot α × Cursor) := do
  let c ← c.colon
  match ← (if allowsNull then c.null? else .ok none) with
  | some c => return (.blank, c)
  | none =>
    let (v, c) ← scan c
    return (.filled v, c)

mutual

/-- The value that the text at a cursor stands for. -/
def Shape.scan : (s : Shape) → Cursor → Except Located (s.Val × Cursor)
  | .anything, c => c.value
  | .boolean, c => c.scanBoolean
  | .text, c => c.scanText "a string"
  | .bytes, c => c.scanBytes
  | .integer width, c => c.scanInteger width
  | .choice first others, c => c.scanChoice first others
  | .numberOrName, c => c.scanNumberOrName
  | .instant, c => c.scanInstant
  | .sequence item, c => do
    let c ← c.start
    if c.peek = some '[' then
      let (vs, c) ← Cursor.items item.scan (c.rest.length + 1) true [] c.advance
      return (vs, ← c.endList)
    else .error (c.unexpected "a sequence")
  | .dictionary item, c => do
    let c ← c.start
    if c.peek = some '\x7b' then
      let (m, c) ← Cursor.members (fun name (m : Dict item.Val) c => do
        let c ← c.colon
        let (v, c) ← item.scan c
        return (m.insert name v, c)) (c.rest.length + 1) true SortedMap.empty c.advance
      return (m, ← c.endObject)
    else .error (c.unexpected "a map")
  | .record form fields, c => do
    let c ← c.start
    if c.peek = some '\x7b' then
      let (slots, c) ← Cursor.members (fun name slots c => do
        if form.lenient ∧ form.identity.isSome ∧ (name = "apiVersion" ∨ name = "kind") then
          let (stated, c) ← (← c.colon).scanText "a string"
          let _ ← c.check (form.checkStamp name (.string stated))
          return (slots, c)
        match fields.scanMember form.lenient name slots c with
        | some r => r
        | none =>
          let c ← c.colon
          return (slots, ← c.skipValue)) (c.rest.length + 1) true fields.unseen c.advance
      let c ← c.endObject
      let v ← c.check (fields.finish slots)
      return (v, c)
    else if c.peek = some '[' ∧ !form.lenient then
      fields.scanListed (form.describeListed fields.size) 0 (fun v c => do
        return (v, ← c.endList)) c.advance
    else .error (c.unexpected form.describe)

/-- Reads the member of a name into the slot of its field; nothing if no field has the name. A
field of the strict style that has been seen already is refused. -/
def Fields.scanMember (lenient : Bool) : (fs : Fields) → String → fs.Slots → Cursor →
    Option (Except Located (fs.Slots × Cursor))
  | .nil, _, _, _ => none
  | .cons field presence shape rest, name, (slot, slots), c =>
    if field = name then
      if slot.seen ∧ !lenient then some (.error (c.skipBlanks.failWith (.duplicateField name)))
      else some do
        let (slot, c) ← Slot.scan (presence.allowsNull lenient) shape.scan c
        return ((slot, slots), c)
    else (rest.scanMember lenient name slots c).map fun r => do
      let (slots, c) ← r
      return ((slot, slots), c)

/-- Reads the fields of a record from the items of a list, in their order, and goes on with the
values of all fields. -/
def Fields.scanListed {β : Type} (expected : String) : (fs : Fields) → Nat →
    (fs.Val → Cursor → Except Located (β × Cursor)) → Cursor → Except Located (β × Cursor)
  | .nil, _, next, c => next () c
  | .cons _ presence shape rest, i, next, c => do
    match ← c.nextItem (i == 0) with
    | some c =>
      let (v, c) ← presence.scanGiven shape.scan c
      rest.scanListed expected (i + 1) (fun vs c => next (v, vs) c) c
    | none =>
      match presence.leftOut shape.default (.invalidLength i expected) with
      | .ok v => rest.scanListed expected (i + 1) (fun vs c => next (v, vs) c) c
      | .error p => .error ((← c.endList).failWith p)

end

/-- The value of a whole text. -/
def Shape.readText (s : Shape) (text : String) : Except Located s.Val := do
  let (v, c) ← s.scan (Cursor.ofString text)
  c.finish
  return v

end ClusterOperator
