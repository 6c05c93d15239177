import ClusterOperator.Instant.Rfc3339
import ClusterOperator.Json
import ClusterOperator.Text.Base64

/-!
# Shapes of documents

A shape says which JSON documents a type is written as. It is data, so that one reader of JSON
values, one reader of JSON text and one writer serve every type, and what they share can be proved
once. A shape also gives the Lean type of what it describes, `Shape.Val`: the value of a record is
the tuple of its fields, with `Option` where a field may be missing. The structures of this library
are named views of such tuples.

Two styles of record occur. In the *strict* style a field is given at most once, null stands for a
missing value only where the field is an option, and the fields may also be listed in an array, in
their order. In the *lenient* style null counts as absent for every field, of a repeated field the
last value stays, and nothing but an object is accepted. Both ignore members they do not know.

## Main definitions

* `Width`, `Signed32.wrap`: the ranges of whole numbers, and numbers that wrap around in one.
* `Presence`: what is read from, and written for, a missing field.
* `Shape`, `Fields`: the shapes and the fields of a record.
* `Shape.Val`, `Fields.Val`: the values of a shape.
* `Shape.default`, `Fields.default`: the value that stands for an absent one.
* `Shape.write`: the document of a value.
-/

namespace ClusterOperator

/-- The ranges in which whole numbers are kept. -/
inductive Width where
  | signed32
  | signed64
  | unsigned16
  | unsigned32
  deriving DecidableEq, Repr

namespace Width

/-- The smallest number of a range. -/
def least : Width → Int
  | signed32 => -2147483648
  | signed64 => -9223372036854775808
  | unsigned16 => 0
  | unsigned32 => 0

/-- The largest number of a range. -/
def greatest : Width → Int
  | signed32 => 2147483647
  | signed64 => 9223372036854775807
  | unsigned16 => 65535
  | unsigned32 => 4294967295

/-- How messages name a range. -/
def name : Width → String
  | signed32 => "i32"
  | signed64 => "i64"
  | unsigned16 => "u16"
  | unsigned32 => "u32"

/-- The numbers of a range. -/
abbrev Val (w : Width) : Type := {n : Int // w.least ≤ n ∧ n ≤ w.greatest}

/-- Zero belongs to every range. -/
def zero (w : Width) : w.Val := ⟨0, by cases w <;> decide⟩

instance (w : Width) : Inhabited w.Val := ⟨w.zero⟩

/-- The number, if it belongs to the range. -/
def ofInt? (w : Width) (n : Int) : Option w.Val :=
  if h : w.least ≤ n ∧ n ≤ w.greatest then some ⟨n, h⟩ else none

@[simp] theorem ofInt?_val (w : Width) (n : w.Val) : w.ofInt? n.val = some n := by
  simp [ofInt?, n.property]

end Width

/-- Whole numbers of 32 bits with a sign: replica counts, ports, codes. -/
abbrev Signed32 : Type := Width.signed32.Val

/-- A number kept in 32 bits: outside of their range it wraps around. -/
def Signed32.wrap (n : Int) : Signed32 :=
  ⟨n.bmod 4294967296,
    Int.le_bmod (Nat.succ_pos _), Int.le_of_lt_add_one (Int.bmod_lt (Nat.succ_pos _))⟩

theorem Signed32.wrap_val {n : Int}
    (h : Width.signed32.least ≤ n ∧ n ≤ Width.signed32.greatest) : (wrap n).val = n :=
  Int.bmod_eq_of_le h.1 (Int.lt_add_one_of_le h.2)

theorem Signed32.wrap_le {n : Int} (h : 0 ≤ n) : (wrap n).val ≤ n := by
  simp only [wrap, Int.bmod_def]
  omega

/-- What is read from, and written for, a missing field. -/
inductive Presence where
  /-- A missing field is no value, and no value is not written. -/
  | optional
  /-- A missing field is no value, and no value is written as null. -/
  | nullable
  /-- A missing field has the default of its shape, and every value is written. -/
  | defaulted
  /-- The field must not be missing. -/
  | required
  deriving DecidableEq, Repr

/-- The type of a field of the given presence. -/
def Presence.Val (α : Type) : Presence → Type
  | optional => Option α
  | nullable => Option α
  | defaulted => α
  | required => α

/-- Name and style of a record, and the API version and kind of a record that is a whole object.
An object of the lenient style must not state others; one of the strict style is not asked. -/
structure RecordForm where
  name : String
  lenient : Bool
  identity : Option (String × String) := none

mutual

/-- The shape of a document. -/
inductive Shape where
  | anything
  | boolean
  | text
  /-- Bytes, written in base 64. -/
  | bytes
  | integer (width : Width)
  /-- One of the given names. -/
  | choice (first : String) (others : List String)
  /-- A port, as a number or as a name. -/
  | numberOrName
  | instant
  | sequence (item : Shape)
  | dictionary (item : Shape)
  | record (form : RecordForm) (fields : Fields)

/-- The fields of a record in their order. -/
inductive Fields where
  | nil
  | cons (name : String) (presence : Presence) (shape : Shape) (rest : Fields)

end

mutual

/-- The values of a shape. -/
def Shape.Val : Shape → Type
  | .anything => Json
  | .boolean => Bool
  | .text => String
  | .bytes => List UInt8
  | .integer width => width.Val
  | .choice _ others => Fin (others.length + 1)
  | .numberOrName => Signed32 ⊕ String
  | .instant => Instant
  | .sequence item => List item.Val
  | .dictionary item => Dict item.Val
  | .record _ fields => fields.Val

/-- The values of the fields of a record. -/
def Fields.Val : Fields → Type
  | .nil => Unit
  | .cons _ presence shape rest => presence.Val shape.Val × rest.Val

end

mutual

/-- The value that stands for an absent one: empty, zero, false, or the first choice. -/
def Shape.default : (s : Shape) → s.Val
  | .anything => Json.null
  | .boolean => false
  | .text => ""
  | .bytes => []
  | .integer width => width.zero
  | .choice _ _ => (⟨0, Nat.succ_pos _⟩ : Fin _)
  | .numberOrName => .inl Width.signed32.zero
  | .instant => Instant.epoch
  | .sequence _ => []
  | .dictionary _ => SortedMap.empty
  | .record _ fields => fields.default

/-- The values of fields that are all missing. -/
def Fields.default : (fs : Fields) → fs.Val
  | .nil => ()
  | .cons _ presence shape rest =>
    (match presence with
      | .optional => (none : Option shape.Val)
      | .nullable => (none : Option shape.Val)
      | .defaulted => shape.default
      | .required => shape.default,
    rest.default)

end

instance (s : Shape) : Inhabited s.Val := ⟨s.default⟩
instance (fs : Fields) : Inhabited fs.Val := ⟨fs.default⟩

/-- The name of a choice. -/
def choiceName (first : String) (others : List String) (i : Fin (others.length + 1)) : String :=
  (first :: others).get (i.cast (List.length_cons).symm)

/-- The members that state which kind of object a record is. -/
def RecordForm.stamps (form : RecordForm) : List (String × Json) :=
  match form.identity with
  | none => []
  | some (apiVersion, kind) => [("apiVersion", .string apiVersion), ("kind", .string kind)]

mutual

/-- The document of a value. -/
def Shape.write : (s : Shape) → s.Val → Json
  | .anything, v => v
  | .boolean, v => .bool v
  | .text, v => .string v
  | .bytes, v => .string (Base64.encode v)
  | .integer _, v => .integer v.val
  | .choice first others, v => .string (choiceName first others v)
  | .numberOrName, .inl n => .integer n.val
  | .numberOrName, .inr s => .string s
  | .instant, v => .string (Instant.render v)
  | .sequence item, v => .array (List.map item.write v)
  | .dictionary item, v => .object (SortedMap.mapValues (fun _ => item.write) v).entries
  | .record form fields, v => .object (form.stamps ++ fields.write v)

/-- The members that are written for the fields of a record. -/
def Fields.write : (fs : Fields) → fs.Val → List (String × Json)
  | .nil, _ => []
  | .cons name presence shape rest, v =>
    (match presence, v.1 with
      | .optional, none => []
      | .optional, some x => [(name, shape.write x)]
      | .nullable, none => [(name, .null)]
      | .nullable, some x => [(name, shape.write x)]
      | .defaulted, x => [(name, shape.write x)]
      | .required, x => [(name, shape.write x)]) ++ rest.write v.2

end

/-- How many fields a record has. -/
def Fields.size : Fields → Nat
  | .nil => 0
  | .cons _ _ _ rest => rest.size + 1

/-- The names of the fields. -/
def Fields.names : Fields → List String
  | .nil => []
  | .cons name _ _ rest => name :: rest.names

/-- Fields that are all options, in front of others. -/
def Fields.optionals : List (String × Shape) → Fields → Fields
  | [], rest => rest
  | (name, shape) :: more, rest => .cons name .optional shape (optionals more rest)

/-- Fields that stand for a default where they are missing, in front of others. -/
def Fields.defaults : List (String × Shape) → Fields → Fields
  | [], rest => rest
  | (name, shape) :: more, rest => .cons name .defaulted shape (defaults more rest)

/-- A record of the lenient style. -/
def Shape.lenient (name : String) (fields : Fields) : Shape :=
  .record { name, lenient := true } fields

/-- A whole object of the lenient style. -/
def Shape.object (apiVersion kind : String) (fields : Fields) : Shape :=
  .record { name := kind, lenient := true, identity := some (apiVersion, kind) } fields

/-- A record of the strict style. -/
def Shape.strict (name : String) (fields : Fields) : Shape :=
  .record { name, lenient := false } fields

/-- How messages name the type of a record. -/
def RecordForm.describe (form : RecordForm) : String :=
  if form.lenient then form.name else "struct " ++ form.name

/-- How messages name the type of a record that is listed in an array. -/
def RecordForm.describeListed (form : RecordForm) (size : Nat) : String :=
  form.describe ++ " with " ++ size.repr ++ (if size = 1 then " element" else " elements")

end ClusterOperator
