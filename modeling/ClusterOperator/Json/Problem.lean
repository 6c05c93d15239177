import ClusterOperator.Json
import ClusterOperator.Text.Base64
import ClusterOperator.Text.Quoted

/-!
# Why a document is refused

A document is refused because its text is no JSON, or because a value in it is not of the shape
that is expected there. Each refusal is a cause; its wording is given by one function. A refusal
met while reading text also names the line and the column at which reading stopped.

## Main definitions

* `SyntaxProblem`: the ways in which a text fails to be JSON.
* `Found`: what stands where something else was expected.
* `TimeProblem`: the ways in which a text fails to be a time.
* `ReadProblem`: why a value or a text is refused.
* `ReadProblem.message`: the wording.
* `Located`: a refusal with its place in the text.
-/

namespace ClusterOperator

/-- A way in which a text fails to be JSON. -/
inductive SyntaxProblem where
  | endInList
  | endInObject
  | endInString
  | endInValue
  | expectedColon
  | expectedListCommaOrEnd
  | expectedObjectCommaOrEnd
  | expectedIdent
  | expectedValue
  | invalidEscape
  | invalidNumber
  | numberOutOfRange
  | controlCharacter
  | keyMustBeString
  | loneSurrogate
  | endOfHexEscape
  | trailingComma
  | trailingCharacters
  deriving DecidableEq, Repr

/-- The wording of a syntax problem. -/
def SyntaxProblem.message : SyntaxProblem → String
  | endInList => "EOF while parsing a list"
  | endInObject => "EOF while parsing an object"
  | endInString => "EOF while parsing a string"
  | endInValue => "EOF while parsing a value"
  | expectedColon => "expected `:`"
  | expectedListCommaOrEnd => "expected `,` or `]`"
  | expectedObjectCommaOrEnd => "expected `,` or `\x7d`"
  | expectedIdent => "expected ident"
  | expectedValue => "expected value"
  | invalidEscape => "invalid escape"
  | invalidNumber => "invalid number"
  | numberOutOfRange => "number out of range"
  | controlCharacter => "control character (\\u0000-\\u001F) found while parsing a string"
  | keyMustBeString => "key must be a string"
  | loneSurrogate => "lone leading surrogate in hex escape"
  | endOfHexEscape => "unexpected end of hex escape"
  | trailingComma => "trailing comma"
  | trailingCharacters => "trailing characters"

/-- What stands where something else was expected. -/
inductive Found where
  | null
  | bool (value : Bool)
  | integer (value : Int)
  | real (bits : UInt64)
  | string (value : String)
  | sequence
  | map
  deriving DecidableEq

/-- How a message names what it found. -/
def Found.describe : Found → String
  | null => "null"
  | bool true => "boolean `true`"
  | bool false => "boolean `false`"
  | integer n => "integer `" ++ n.repr ++ "`"
  | real bits => "floating point `" ++ Shortest.text bits ++ "`"
  | string s => "string " ++ Text.quoted s
  | sequence => "sequence"
  | map => "map"

/-- What a value shows of itself where something else was expected. -/
def Json.found : Json → Found
  | .null => .null
  | .bool b => .bool b
  | .integer n => .integer n
  | .real bits => .real bits
  | .string s => .string s
  | .array _ => .sequence
  | .object _ => .map

/-- A way in which a text fails to be a time. -/
inductive TimeProblem where
  | tooShort
  | tooLong
  | invalid
  | outOfRange
  deriving DecidableEq, Repr

/-- The wording of a time problem. -/
def TimeProblem.message : TimeProblem → String
  | tooShort => "premature end of input"
  | tooLong => "trailing input"
  | invalid => "input contains invalid characters"
  | outOfRange => "input is out of range"

/-- Why a value or a text is refused. -/
inductive ReadProblem where
  | badSyntax (problem : SyntaxProblem)
  | invalidType (found : Found) (expected : String)
  | invalidValue (found : Found) (expected : String)
  | invalidLength (length : Nat) (expected : String)
  | missingField (name : String)
  | duplicateField (name : String)
  | unknownVariant (name : String) (known : List String)
  | badTime (problem : TimeProblem)
  | badBase64 (problem : Base64.Problem)
  deriving DecidableEq

/-- The names of variants as a message lists them. -/
def listVariants : List String → String
  | [] => "there are no variants"
  | [a] => "`" ++ a ++ "`"
  | [a, b] => "`" ++ a ++ "` or `" ++ b ++ "`"
  | as => "one of " ++ String.intercalate ", " (as.map fun a => "`" ++ a ++ "`")

/-- The wording of a refusal. -/
def ReadProblem.message : ReadProblem → String
  | badSyntax p => p.message
  | invalidType found expected =>
    "invalid type: " ++ found.describe ++ ", expected " ++ expected
  | invalidValue found expected =>
    "invalid value: " ++ found.describe ++ ", expected " ++ expected
  | invalidLength n expected => "invalid length " ++ n.repr ++ ", expected " ++ expected
  | missingField name => "missing field `" ++ name ++ "`"
  | duplicateField name => "duplicate field `" ++ name ++ "`"
  | unknownVariant name known =>
    "unknown variant `" ++ name ++ "`, expected " ++ listVariants known
  | badTime p => p.message
  | badBase64 p => p.message

/-- A refusal with the line, counted from one, and the column, counted in bytes, at which reading
stopped. -/
structure Located where
  problem : ReadProblem
  line : Nat
  column : Nat
  deriving DecidableEq

/-- The wording of a refusal and its place. -/
def Located.message (l : Located) : String :=
  l.problem.message ++ " at line " ++ l.line.repr ++ " column " ++ l.column.repr

end ClusterOperator
