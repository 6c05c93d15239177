import ClusterOperator.Declaration

/-!
# The declared kind

The orchestration API learns about the kind of declared deployments from a definition: its names,
its version, the columns that are listed, and a schema of its documents. The schema follows from
the shapes of the types, together with what is said about each field.

## Main definitions

* `Schema.ofShape`: the schema of a shape.
* `Declaration.definition`: the facts of the definition.
-/

namespace ClusterOperator

namespace Schema

/-- What is said about the type of a time. -/
def instantDescription : String :=
  "Time is a wrapper around time.Time which supports correct marshaling to YAML and JSON.  " ++
    "Wrappers are provided for many of the factory methods that the time package offers."

/-- What is said about fields, by their names. -/
abbrev Notes : Type := List (String × String)

/-- The member that says something about a field, if anything is said. -/
def describe (notes : Notes) (name : String) : List (String × Json) :=
  match SortedMap.Entries.lookup name notes with
  | some text => [("description", .string text)]
  | none => []

/-- The members that state a type and its format. -/
def typed (name : String) (format : List (String × Json)) : List (String × Json) :=
  format ++ [("type", .string name)]

mutual

/-- The members of the schema of a shape. -/
def ofShape (notes : Notes) : Shape → List (String × Json)
  | .anything => []
  | .boolean => typed "boolean" []
  | .text => typed "string" []
  | .bytes => typed "string" [("format", .string "byte")]
  | .integer w =>
    typed "integer" [("format", .string (if w = .signed64 then "int64" else "int32"))]
  | .choice first others =>
    typed "string" [("enum", .array ((first :: others).map .string))]
  | .numberOrName => typed "string" []
  | .instant =>
    typed "string"
      [("description", .string instantDescription), ("format", .string "date-time")]
  | .sequence item => typed "array" [("items", .object (ofShape [] item))]
  | .dictionary item => typed "object" [("additionalProperties", .object (ofShape [] item))]
  | .record _ fields =>
    let needed := (SortedMap.ofList ((required fields).map fun name => (name, ()))).keys
    typed "object" <|
      [("properties", Json.ofMembers (ofFields notes fields))] ++
        (if needed.isEmpty then [] else [("required", .array (needed.map .string))])

/-- The schemas of the fields of a record. -/
def ofFields (notes : Notes) : Fields → List (String × Json)
  | .nil => []
  | .cons name presence shape rest =>
    let state := match presence with
      | .optional | .nullable => [("nullable", Json.bool true)]
      | .defaulted => [("default", shape.write shape.default)]
      | .required => []
    (name, .object (describe notes name ++ state ++ ofShape [] shape)) :: ofFields notes rest

/-- The fields that must not be missing. -/
def required : Fields → List String
  | .nil => []
  | .cons name presence _ rest =>
    if presence = .required then name :: required rest else required rest

end

/-- The names of the fields of a record in increasing order. -/
def fieldNames : Shape → List String
  | .record _ fields => (SortedMap.ofList (fields.names.map fun name => (name, ()))).keys
  | _ => []

end Schema

namespace Declaration

/-- What is said about the fields of a database. -/
def databaseNotes : Schema.Notes :=
  [("type", "\"embedded\" or \"mysql\" (defaults to \"embedded\")")]

/-- What is said about the fields of a condition. -/
def conditionNotes : Schema.Notes :=
  [("type", "Type of condition"), ("status", "Status: \"True\", \"False\", \"Unknown\"")]

/-- The schema of a type as a whole, with its description and, if it stands for a missing field,
its default. -/
def schemaOf (α : Type) [Document α] (description : String) (isDefaulted : Bool)
    (notes : Schema.Notes) : Json :=
  let shape := Document.shape α
  .object <|
    [("description", .string description)] ++
      (if isDefaulted then [("default", shape.write shape.default)] else []) ++
      Schema.ofShape notes shape

/-- A column of the list of declared deployments. -/
def column (name type path : String) : Json :=
  .object [("jsonPath", .string path), ("name", .string name), ("type", .string type)]

/-- The facts of the definition of the kind. -/
def definition : Json :=
  .object
    [("name", .string "nacos.nacos.io"),
      ("group", .string "nacos.io"),
      ("names", .object
        [("categories", .array []), ("kind", .string kind), ("plural", .string "nacos"),
          ("shortNames", .array []), ("singular", .string "nacos")]),
      ("scope", .string "Namespaced"),
      ("version", .string "v1alpha1"),
      ("served", .bool true),
      ("storage", .bool true),
      ("subresources", .object [("status", .object [])]),
      ("columns", .array
        [column "Type" "string" ".spec.type", column "Replicas" "integer" ".spec.replicas",
          column "Phase" "string" ".status.phase"]),
      ("spec_fields", .array ((Schema.fieldNames (Document.shape Spec)).map .string)),
      ("status_fields", .array ((Schema.fieldNames (Document.shape Status)).map .string)),
      ("volume_fields", .array ((Schema.fieldNames (Document.shape Storage)).map .string)),
      ("database", schemaOf Database "Backing database settings" true databaseNotes),
      ("phase", schemaOf Phase "Coarse lifecycle phase" true []),
      ("event", schemaOf Event "One entry in the failure history" false []),
      ("condition", schemaOf Condition "Kubernetes-style status condition" false conditionNotes)]

end Declaration

end ClusterOperator
