import ClusterOperator.Json.Problem
import ClusterOperator.Shape

/-!
# Reading values

Decodes a JSON value by a shape. The members of an object are taken in the order in which they are
listed, and the first one that is refused decides; fields that are missing are noticed when all
members have been read.

While a record is read each of its fields has a *slot*. A slot also remembers that a field was
given as null, because the strict style refuses a field that is given twice in a text.

## Main definitions

* `Slot`, `Fields.Slots`: what has been read of a record so far.
* `Fields.finish`: the values of the fields once all members are read.
* `Shape.read`: the value of a document.
-/

namespace ClusterOperator

/-- Whether a value is null. -/
def Json.isNull : Json → Bool
  | .null => true
  | _ => false

/-- What has been read of one field so far. -/
inductive Slot (α : Type) where
  | unseen
  | blank
  | filled (value : α)

/-- Whether the field has been given. -/
def Slot.seen {α : Type} : Slot α → Bool
  | unseen => false
  | _ => true

/-- The value that was read, if any. -/
def Slot.value? {α : Type} : Slot α → Option α
  | filled a => some a
  | _ => none

/-- What has been read of the fields of a record so far. -/
def Fields.Slots : Fields → Type
  | .nil => Unit
  | .cons _ _ shape rest => Slot shape.Val × rest.Slots

/-- Nothing has been read yet. -/
def Fields.unseen : (fs : Fields) → fs.Slots
  | .nil => ()
  | .cons _ _ _ rest => (.unseen, rest.unseen)

/-- The value of a field of which nothing or a value has been read; refused with the given cause
if the field must not be missing. -/
def Presence.settle {α : Type} (default : α) (missing : ReadProblem) :
    (p : Presence) → Option α → Except ReadProblem (p.Val α)
  | optional, v => .ok v
  | nullable, v => .ok v
  | defaulted, v => .ok (v.getD default)
  | required, some v => .ok v
  | required, none => .error missing

/-- The values of the fields once all members are read. -/
def Fields.finish : (fs : Fields) → fs.Slots → Except ReadProblem fs.Val
  | .nil, _ => .ok ()
  | .cons name presence shape rest, (slot, slots) => do
    let v ← presence.settle shape.default (.missingField name) slot.value?
    let vs ← rest.finish slots
    return (v, vs)

/-- The value of a field that is left out of the end of an array: only an option that is written
as null and a defaulted field may be. -/
def Presence.leftOut {α : Type} (default : α) (tooFew : ReadProblem) :
    (p : Presence) → Except ReadProblem (p.Val α)
  | optional => .error tooFew
  | nullable => .ok none
  | defaulted => .ok default
  | required => .error tooFew

/-- The value of a field that is given in the strict style. -/
def Presence.given {α : Type} (read : Json → Except ReadProblem α) (j : Json) :
    (p : Presence) → Except ReadProblem (p.Val α)
  | optional => if j.isNull then .ok none else (read j).map some
  | nullable => if j.isNull then .ok none else (read j).map some
  | defaulted => read j
  | required => read j

/-- Whether null stands for a missing value of a field. -/
def Presence.allowsNull (lenient : Bool) : Presence → Bool
  | optional => true
  | nullable => true
  | defaulted => lenient
  | required => lenient

/-- A whole number of a range. -/
def readInteger (w : Width) (j : Json) : Except ReadProblem w.Val :=
  match j with
  | .integer n =>
    match w.ofInt? n with
    | some v => .ok v
    | none => .error (.invalidValue (.integer n) w.name)
  | j => .error (.invalidType j.found w.name)

/-- A text. -/
def readText (j : Json) : Except ReadProblem String :=
  match j with
  | .string s => .ok s
  | j => .error (.invalidType j.found "a string")

/-- The position of a name among the choices. -/
def choiceIndex? (first : String) (others : List String) (name : String) :
    Option (Fin (others.length + 1)) :=
  (List.finRange (others.length + 1)).find? fun i => choiceName first others i == name

/-- One of the given names, as a text or as the only member of an object whose value is null. -/
def readChoice (first : String) (others : List String) (j : Json) :
    Except ReadProblem (Fin (others.length + 1)) :=
  let named (name : String) : Except ReadProblem (Fin (others.length + 1)) :=
    match choiceIndex? first others name with
    | some i => .ok i
    | none => .error (.unknownVariant name (first :: others))
  match j with
  | .string s => named s
  | .object [(name, content)] => do
    let i ← named name
    if content.isNull then return i else .error (.invalidType content.found "unit")
  | .object _ => .error (.invalidValue .map "map with a single key")
  | j => .error (.invalidType j.found "string or map")

/-- A port: a number of 32 bits or a text. -/
def readNumberOrName (j : Json) : Except ReadProblem (Signed32 ⊕ String) :=
  match j with
  | .integer n =>
    match Width.signed32.ofInt? n with
    | some v => .ok (.inl v)
    | none => .error (.invalidValue (.integer n) "a 32-bit integer")
  | .string s => .ok (.inr s)
  | j => .error (.invalidType j.found "IntOrString")

/-- An instant, by the lenient reader. -/
def readInstant (j : Json) : Except ReadProblem Instant :=
  match j with
  | .string s => (Instant.read s).mapError .badTime
  | j => .error (.invalidType j.found "an RFC 3339 formatted date and time string")

/-- Bytes in base 64. -/
def readBytes (j : Json) : Except ReadProblem (List UInt8) :=
  match j with
  | .string s => (Base64.decode s).mapError .badBase64
  | j => .error (.invalidType j.found "a base64-encoded string")

/-- Checks a member that states the kind of an object. The answer tells whether the member is such
a statement. -/
def RecordForm.checkStamp (form : RecordForm) (name : String) (j : Json) :
    Except ReadProblem Bool :=
  match form.identity with
  | some (apiVersion, kind) =>
    if form.lenient ∧ (name = "apiVersion" ∨ name = "kind") then do
      let stated ← readText j
      let own := if name = "kind" then kind else apiVersion
      if stated = own then return true else .error (.invalidValue (.string stated) own)
    else .ok false
  | none => .ok false

mutual

/-- The value of a document. -/
def Shape.read : (s : Shape) → Json → Except ReadProblem s.Val
  | .anything, j => .ok j
  | .boolean, .bool b => .ok b
  | .boolean, j => .error (.invalidType j.found "a boolean")
  | .text, j => readText j
  | .bytes, j => readBytes j
  | .integer width, j => readInteger width j
  | .choice first others, j => readChoice first others j
  | .numberOrName, j => readNumberOrName j
  | .instant, j => readInstant j
  | .sequence item, .array items => items.mapM item.read
  | .sequence _, j => .error (.invalidType j.found "a sequence")
  | .dictionary item, .object members => do
    let entries ← members.mapM fun m => (item.read m.2).map fun v => (m.1, v)
    return (SortedMap.ofList entries : Dict item.Val)
  | .dictionary _, j => .error (.invalidType j.found "a map")
  | .record form fields, .object members => do
    let slots ← members.foldlM (fun slots m => do
      if ← form.checkStamp m.1 m.2 then return slots
      fields.put form.lenient m.1 m.2 slots) fields.unseen
    fields.finish slots
  | .record form fields, .array items =>
    if form.lenient then .error (.invalidType .sequence form.describe)
    else do
      let (v, rest) ← fields.readListed (form.describeListed fields.size) 0 items
      if rest = 0 then return v
      else .error (.invalidLength items.length "fewer elements in array")
  | .record form _, j => .error (.invalidType j.found form.describe)

/-- Reads a member into the slot of the field of its name; members that no field has are
ignored. -/
def Fields.put (lenient : Bool) : (fs : Fields) → String → Json → fs.Slots →
    Except ReadProblem fs.Slots
  | .nil, _, _, _ => .ok ()
  | .cons field presence shape rest, name, j, (slot, slots) =>
    if field = name then
      if presence.allowsNull lenient && j.isNull then .ok (.blank, slots)
      else do
        let v ← shape.read j
        return (.filled v, slots)
    else do
      let slots ← rest.put lenient name j slots
      return (slot, slots)

/-- Reads the fields of a record from the items of an array, in their order; also tells how many
items are left over. A missing item is accepted only where the field has a default. -/
def Fields.readListed (expected : String) : (fs : Fields) → Nat → List Json →
    Except ReadProblem (fs.Val × Nat)
  | .nil, _, items => .ok ((), items.length)
  | .cons _ presence shape rest, i, [] => do
    let v ← presence.leftOut shape.default (.invalidLength i expected)
    let (vs, left) ← rest.readListed expected (i + 1) []
    return ((v, vs), left)
  | .cons _ presence shape rest, i, j :: items => do
    let v ← presence.given shape.read j
    let (vs, left) ← rest.readListed expected (i + 1) items
    return ((v, vs), left)

end

end ClusterOperator
