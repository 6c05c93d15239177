import ClusterOperator.Json

/-!
# Labels and selectors

Objects that belong together carry the same labels, and a selector names the labels that an object
must carry. A selector is written as terms `key=value` with commas between them.

## Main definitions

* `Labels.ofName`: the labels that all objects of a deployment share.
* `Labels.selector`: the written selector of a map of labels.
* `Selector.Term`, `Selector.terms`, `Selector.holds`: what a written selector asks for.
-/

namespace ClusterOperator

namespace Labels

/-- The labels that all objects of a deployment share and by which its pods are selected. -/
def ofName (name : String) : Dict String :=
  SortedMap.ofList [("app", name), ("middleware", "nacos"), ("component", "nacos")]

/-- The written selector of a map of labels, in the order of the keys. -/
def selector (labels : Dict String) : String :=
  String.intercalate "," (labels.entries.map fun l => l.1 ++ "=" ++ l.2)

end Labels

namespace Selector

/-- What one term of a selector asks for. -/
inductive Term where
  /-- A label has a value. -/
  | equals (key value : String)
  /-- A term without an equality sign. -/
  | bare (text : String)
  deriving DecidableEq, Repr

/-- The pieces of a text between commas. -/
def splitCommas : List Char → List (List Char)
  | [] => [[]]
  | ',' :: rest => [] :: splitCommas rest
  | c :: rest =>
    match splitCommas rest with
    | [] => [[c]]
    | piece :: pieces => (c :: piece) :: pieces

/-- The term written by a piece; the first equality sign divides it. -/
def Term.ofPiece (piece : List Char) : Term :=
  match piece.dropWhile (· ≠ '=') with
  | [] => bare (String.ofList piece)
  | _ :: value => equals (String.ofList (piece.takeWhile (· ≠ '='))) (String.ofList value)

/-- The terms of a written selector; empty pieces ask for nothing. -/
def terms (selector : String) : List Term :=
  ((splitCommas selector.toList).filter fun piece => !piece.isEmpty).map Term.ofPiece

/-- Whether labels are as a term asks. -/
def Term.holds (labels : Json) : Term → Bool
  | equals key value => (labels.get? key).bind Json.string? == some value
  | bare _ => false

/-- Whether labels, as they are stored, are as a written selector asks. -/
def holds (selector : String) (labels : Json) : Bool := (terms selector).all (·.holds labels)

end Selector

end ClusterOperator
