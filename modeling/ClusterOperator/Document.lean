import ClusterOperator.Shape.Scan

/-!
# Types that are written as documents

A type is a document type when its values are the values of a shape under other names: there are
mutually inverse maps between the type and the values of the shape. Reading and writing, done once
for all shapes, then serve the type.

A structure becomes a document type from the list of its members. `Members τ` builds the fields of
a record together with the maps to and from the tuple `τ` of the members; a structure adds the
names of the members to the tuple.

## Main definitions

* `Document`: the shape of a type and the two maps.
* `Document.read`, `Document.readText`, `Document.write`.
* `Members`: the members of a record and the tuple of their values.
* `Document.ofMembers`: a structure as a named view of a tuple of members.
-/

namespace ClusterOperator

/-- A type whose values are those of a shape under other names. -/
class Document (α : Type) where
  shape : Shape
  ofVal : shape.Val → α
  toVal : α → shape.Val
  ofVal_toVal : ∀ a, ofVal (toVal a) = a
  toVal_ofVal : ∀ v, toVal (ofVal v) = v

namespace Document

variable {α : Type} [Document α]

/-- The value of a JSON document. -/
def read (α : Type) [Document α] (j : Json) : Except ReadProblem α :=
  ((shape α).read j).map ofVal

/-- The value of a JSON text. -/
def readText (α : Type) [Document α] (text : String) : Except Located α :=
  ((shape α).readText text).map ofVal

/-- The document of a value. -/
def write (a : α) : Json := (shape α).write (toVal a)

/-- The values of a shape itself. -/
@[reducible] def ofShape (s : Shape) : Document s.Val where
  shape := s
  ofVal v := v
  toVal v := v
  ofVal_toVal _ := rfl
  toVal_ofVal _ := rfl

instance : Document Json := ofShape .anything
instance : Document Bool := ofShape .boolean
instance : Document String := ofShape .text
instance : Document (List UInt8) := ofShape .bytes
instance (w : Width) : Document w.Val := ofShape (.integer w)
instance : Document (Signed32 ⊕ String) := ofShape .numberOrName
instance : Document Instant := ofShape .instant

instance : Document (List α) where
  shape := .sequence (shape α)
  ofVal vs := List.map ofVal vs
  toVal as := List.map toVal as
  ofVal_toVal as := by
    rw [List.map_map, show ofVal ∘ toVal = (id : α → α) from funext ofVal_toVal, List.map_id]
  toVal_ofVal vs :=
    (List.map_map ..).trans
      ((congrArg (List.map · vs) (funext fun v => toVal_ofVal v)).trans (List.map_id vs))

instance : Document (Dict α) where
  shape := .dictionary (shape α)
  ofVal m := SortedMap.mapValues (fun _ => ofVal) m
  toVal m := SortedMap.mapValues (fun _ => toVal) m
  ofVal_toVal m := (SortedMap.mapValues_mapValues ..).trans
    ((congrArg (SortedMap.mapValues · m) (funext fun _ => funext ofVal_toVal)).trans
      (SortedMap.mapValues_id m))
  toVal_ofVal m := (SortedMap.mapValues_mapValues ..).trans
    ((congrArg (SortedMap.mapValues · m) (funext fun _ => funext fun v => toVal_ofVal v)).trans
      (SortedMap.mapValues_id m))

end Document

/-- The members of a record, and the tuple of their values under other names. -/
structure Members (τ : Type) where
  fields : Fields
  ofVal : fields.Val → τ
  toVal : τ → fields.Val
  ofVal_toVal : ∀ t, ofVal (toVal t) = t
  toVal_ofVal : ∀ v, toVal (ofVal v) = v

namespace Members

variable {τ : Type}

/-- Members that are not looked at. -/
def others (fields : Fields) : Members fields.Val where
  fields := fields
  ofVal v := v
  toVal v := v
  ofVal_toVal _ := rfl
  toVal_ofVal _ := rfl

/-- No members. -/
def nil : Members Unit := others .nil

theorem map_ofVal_map_toVal {α : Type} [Document α] (a : Option α) :
    (a.map Document.toVal).map Document.ofVal = a := by
  cases a with
  | none => rfl
  | some a => exact congrArg some (Document.ofVal_toVal a)

theorem map_toVal_map_ofVal {α : Type} [Document α] (v : Option (Document.shape α).Val) :
    (v.map Document.ofVal : Option α).map Document.toVal = v := by
  cases v with
  | none => rfl
  | some v => exact congrArg some (Document.toVal_ofVal v)

/-- A member that may be missing, in front of others. -/
def optional (name : String) (α : Type) [Document α] (rest : Members τ) :
    Members (Option α × τ) where
  fields := .cons name .optional (Document.shape α) rest.fields
  ofVal v := (Option.map Document.ofVal v.1, rest.ofVal v.2)
  toVal t := (Option.map Document.toVal t.1, rest.toVal t.2)
  ofVal_toVal t := congr (congrArg Prod.mk (map_ofVal_map_toVal t.1)) (rest.ofVal_toVal t.2)
  toVal_ofVal v := congr (congrArg Prod.mk (map_toVal_map_ofVal v.1))
    (rest.toVal_ofVal v.2)

/-- A member that may be missing and is then written as null, in front of others. -/
def nullable (name : String) (α : Type) [Document α] (rest : Members τ) :
    Members (Option α × τ) where
  fields := .cons name .nullable (Document.shape α) rest.fields
  ofVal v := (Option.map Document.ofVal v.1, rest.ofVal v.2)
  toVal t := (Option.map Document.toVal t.1, rest.toVal t.2)
  ofVal_toVal t := congr (congrArg Prod.mk (map_ofVal_map_toVal t.1)) (rest.ofVal_toVal t.2)
  toVal_ofVal v := congr (congrArg Prod.mk (map_toVal_map_ofVal v.1))
    (rest.toVal_ofVal v.2)

/-- A member that must be given, in front of others. -/
def required (name : String) (α : Type) [Document α] (rest : Members τ) : Members (α × τ) where
  fields := .cons name .required (Document.shape α) rest.fields
  ofVal v := (Document.ofVal v.1, rest.ofVal v.2)
  toVal t := (Document.toVal t.1, rest.toVal t.2)
  ofVal_toVal t := congr (congrArg Prod.mk (Document.ofVal_toVal t.1)) (rest.ofVal_toVal t.2)
  toVal_ofVal v := congr (congrArg Prod.mk (Document.toVal_ofVal v.1))
    (rest.toVal_ofVal v.2)

/-- A member with a default, in front of others. -/
def defaulted (name : String) (α : Type) [Document α] (rest : Members τ) : Members (α × τ) where
  fields := .cons name .defaulted (Document.shape α) rest.fields
  ofVal v := (Document.ofVal v.1, rest.ofVal v.2)
  toVal t := (Document.toVal t.1, rest.toVal t.2)
  ofVal_toVal t := congr (congrArg Prod.mk (Document.ofVal_toVal t.1)) (rest.ofVal_toVal t.2)
  toVal_ofVal v := congr (congrArg Prod.mk (Document.toVal_ofVal v.1))
    (rest.toVal_ofVal v.2)

end Members

/-- A structure as a named view of a tuple of members. -/
@[reducible] def Document.ofMembers {α τ : Type} (form : RecordForm) (members : Members τ)
    (name : τ → α) (list : α → τ) (name_list : ∀ a, name (list a) = a)
    (list_name : ∀ t, list (name t) = t) : Document α where
  shape := .record form members.fields
  ofVal v := name (members.ofVal v)
  toVal a := members.toVal (list a)
  ofVal_toVal a := (congrArg name (members.ofVal_toVal (list a))).trans (name_list a)
  toVal_ofVal v := (congrArg members.toVal (list_name (members.ofVal v))).trans
    (members.toVal_ofVal v)

namespace RecordForm

/-- The form of a lenient record. -/
def lenientNamed (name : String) : RecordForm := { name, lenient := true }

/-- The form of a strict record. -/
def strictNamed (name : String) : RecordForm := { name, lenient := false }

/-- The form of a whole object of the lenient style. -/
def objectNamed (apiVersion kind : String) : RecordForm :=
  { name := kind, lenient := true, identity := some (apiVersion, kind) }

end RecordForm

end ClusterOperator
