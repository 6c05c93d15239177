import ClusterOperator.Number.Shortest
import ClusterOperator.SortedMap

/-!
# JSON values

The documents that the orchestration API stores and exchanges. Whole numbers and binary64 numbers
are kept apart, because a count written as `1.0` is not a count. An object lists its members, each
name once; the order of the list carries no meaning. A text that repeats a name gives the member
its last value.

## Main definitions

* `Json`: the values.
* `Json.get?`, `Json.set`, `Json.erase`: the member of an object, with another value, without it.
* `Json.ofMembers`: an object from members in any order.
* `Json.mergePatch`: JSON merge patch.
* `Json.render`: the compact text.
-/

namespace ClusterOperator

/-- A JSON value; `real` holds the bits of a binary64 number. -/
inductive Json where
  | null
  | bool (value : Bool)
  | integer (value : Int)
  | real (bits : UInt64)
  | string (value : String)
  | array (items : List Json)
  | object (members : List (String × Json))
  deriving Inhabited

namespace Json

/-- The member of a name, if the value is an object that has one. -/
def get? (j : Json) (name : String) : Option Json :=
  match j with
  | object members => SortedMap.Entries.lookup name members
  | _ => none

/-- The member of a name, null if there is none. -/
def getD (j : Json) (name : String) : Json := (j.get? name).getD null

/-- The members of an object; other values have none. -/
def members : Json → List (String × Json)
  | object ms => ms
  | _ => []

/-- Members with the one of a name replaced at its place, or added at the end. -/
def setMember (name : String) (value : Json) : List (String × Json) → List (String × Json)
  | [] => [(name, value)]
  | (n, v) :: rest =>
    if name = n then (name, value) :: rest else (n, v) :: setMember name value rest

/-- The object with the member of a name replaced or added; other values become an object with
this member alone. -/
def set (j : Json) (name : String) (value : Json) : Json :=
  object (setMember name value j.members)

/-- The object without the member of a name. -/
def erase (j : Json) (name : String) : Json :=
  match j with
  | object ms => object (ms.filter fun m => decide (m.1 ≠ name))
  | other => other

/-- The object with the given members, listed in the order of their names; of a repeated name the
last member stays. -/
def ofMembers (ms : List (String × Json)) : Json := object (SortedMap.ofList ms).entries

/-- The text of a string value. -/
def string? : Json → Option String
  | string s => some s
  | _ => none

/-- The value of a whole number. -/
def integer? : Json → Option Int
  | integer n => some n
  | _ => none

/-- A truth value. -/
def bool? : Json → Option Bool
  | bool b => some b
  | _ => none

/-- The items of an array. -/
def array? : Json → Option (List Json)
  | array items => some items
  | _ => none

theorem lookup_setMember_self (name : String) (value : Json) (ms : List (String × Json)) :
    SortedMap.Entries.lookup name (setMember name value ms) = some value := by
  induction ms with
  | nil => simp [setMember, SortedMap.Entries.lookup]
  | cons m ms ih =>
    obtain ⟨n, v⟩ := m
    by_cases h : name = n <;> simp [setMember, SortedMap.Entries.lookup, h] at ih ⊢
    exact ih

theorem lookup_setMember_of_ne {name other : String} (value : Json) (h : other ≠ name)
    (ms : List (String × Json)) :
    SortedMap.Entries.lookup other (setMember name value ms) =
      SortedMap.Entries.lookup other ms := by
  induction ms with
  | nil => simp [setMember, SortedMap.Entries.lookup, h]
  | cons m ms ih =>
    obtain ⟨n, v⟩ := m
    by_cases hn : name = n
    · subst hn
      simp [setMember, SortedMap.Entries.lookup, h]
    · simp only [setMember, if_neg hn, SortedMap.Entries.lookup, ih]

@[simp] theorem get?_set_self (j : Json) (name : String) (value : Json) :
    (j.set name value).get? name = some value :=
  lookup_setMember_self name value j.members

theorem get?_eq_lookup (j : Json) (name : String) :
    j.get? name = SortedMap.Entries.lookup name j.members := by
  cases j <;> rfl

theorem get?_set_of_ne (j : Json) {name other : String} (value : Json) (h : other ≠ name) :
    (j.set name value).get? other = j.get? other := by
  rw [get?_eq_lookup j]
  exact lookup_setMember_of_ne value h j.members

/-! ### Merge patch

A patch that is an object changes the members it names: null removes a member, any other value is
merged into it. A patch that is no object replaces the target. -/

mutual

/-- The target changed by a patch. -/
def mergePatch (target : Json) : Json → Json
  | object changes => object (mergeMembers target.members changes)
  | patch => patch

/-- The members of a target changed one by one. -/
def mergeMembers (ms : List (String × Json)) : List (String × Json) → List (String × Json)
  | [] => ms
  | (name, null) :: rest => mergeMembers (ms.filter fun m => decide (m.1 ≠ name)) rest
  | (name, change) :: rest =>
    let merged := mergePatch ((SortedMap.Entries.lookup name ms).getD null) change
    mergeMembers (setMember name merged ms) rest

end

/-! ### Compact text -/

/-- The four hexadecimal digits of a control character. -/
def hexFour (n : Nat) : List Char :=
  let ds := Nat.toDigits 16 n
  List.replicate (4 - ds.length) '0' ++ ds

/-- What stands for a character inside a JSON string. -/
def escape (c : Char) : List Char :=
  match c with
  | '"' => ['\\', '"']
  | '\\' => ['\\', '\\']
  | '\n' => ['\\', 'n']
  | '\r' => ['\\', 'r']
  | '\t' => ['\\', 't']
  | '\x08' => ['\\', 'b']
  | '\x0c' => ['\\', 'f']
  | c => if c.toNat < 0x20 then ['\\', 'u'] ++ hexFour c.toNat else [c]

/-- A text as a JSON string. -/
def renderString (s : String) : String :=
  String.ofList ('"' :: s.toList.flatMap escape ++ ['"'])

mutual

/-- The compact text of a value: no blanks, members in the order in which they are listed. -/
def render : Json → String
  | null => "null"
  | bool true => "true"
  | bool false => "false"
  | integer n => n.repr
  | real bits => Shortest.text bits
  | string s => renderString s
  | array items => "[" ++ String.intercalate "," (renderItems items) ++ "]"
  | object ms => "\x7b" ++ String.intercalate "," (renderMembers ms) ++ "\x7d"

/-- The texts of the items of an array. -/
def renderItems : List Json → List String
  | [] => []
  | j :: rest => render j :: renderItems rest

/-- The texts of the members of an object. -/
def renderMembers : List (String × Json) → List String
  | [] => []
  | (name, j) :: rest => (renderString name ++ ":" ++ render j) :: renderMembers rest

end

end Json

end ClusterOperator
