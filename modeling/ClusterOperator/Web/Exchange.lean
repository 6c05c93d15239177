import ClusterOperator.Json

/-!
# Requests and responses of the web

A request names a resource by a target: a path, and a query after a question mark. A target is
taken as it is given, so a question mark or a number sign that is meant as a part of a name splits
it all the same; a target with other characters that do not belong there is refused.

## Main definitions

* `Target.parse`: the path and the query of a target.
* `Message`, `Response`: requests and responses.
* `reasonPhrase`: the phrase that goes with a status code.
-/

namespace ClusterOperator.Web

/-- What is done to a resource. -/
inductive Method where
  | get
  | post
  | put
  | patch
  | delete
  deriving DecidableEq, Repr

/-- The name of a method. -/
def Method.name : Method → String
  | get => "GET"
  | post => "POST"
  | put => "PUT"
  | patch => "PATCH"
  | delete => "DELETE"

/-- The resource that a request is about. -/
structure Target where
  path : String
  query : Option String
  deriving DecidableEq, Repr

namespace Target

/-- Whether a character may stand in a path. -/
def isPathChar (c : Char) : Bool := 0x20 < c.toNat && !"#<>?`".contains c

/-- Whether a character may stand in a query. -/
def isQueryChar (c : Char) : Bool := 0x20 < c.toNat && !"\"#<>".contains c

/-- The path and the query of a target; what follows a number sign is dropped. Nothing comes back
if a character does not belong. -/
def parse (s : String) : Option Target :=
  let path := s.toList.takeWhile isPathChar
  match s.toList.dropWhile isPathChar with
  | [] => some ⟨s, none⟩
  | '#' :: _ => some ⟨String.ofList path, none⟩
  | '?' :: rest =>
    let query := String.ofList (rest.takeWhile isQueryChar)
    match rest.dropWhile isQueryChar with
    | [] | '#' :: _ => some ⟨String.ofList path, some query⟩
    | _ => none
  | _ => none

end Target

/-- A request. -/
structure Message where
  method : Method
  target : Target
  contentType : Option String
  body : Option Json

/-- A response: its status code and its body. -/
structure Response where
  code : Nat
  body : String
  deriving DecidableEq, Repr

/-- Whether a response says that the request failed. -/
def Response.isFailure (r : Response) : Bool := 400 ≤ r.code && r.code < 600

/-- The phrases of the status codes of failures. -/
def failurePhrases : List (Nat × String) :=
  [(400, "Bad Request"), (401, "Unauthorized"), (402, "Payment Required"), (403, "Forbidden"),
    (404, "Not Found"), (405, "Method Not Allowed"), (406, "Not Acceptable"),
    (407, "Proxy Authentication Required"), (408, "Request Timeout"), (409, "Conflict"),
    (410, "Gone"), (411, "Length Required"), (412, "Precondition Failed"),
    (413, "Payload Too Large"), (414, "URI Too Long"), (415, "Unsupported Media Type"),
    (416, "Range Not Satisfiable"), (417, "Expectation Failed"), (418, "I'm a teapot"),
    (421, "Misdirected Request"), (422, "Unprocessable Entity"), (423, "Locked"),
    (424, "Failed Dependency"), (426, "Upgrade Required"), (428, "Precondition Required"),
    (429, "Too Many Requests"), (431, "Request Header Fields Too Large"),
    (451, "Unavailable For Legal Reasons"), (500, "Internal Server Error"),
    (501, "Not Implemented"), (502, "Bad Gateway"), (503, "Service Unavailable"),
    (504, "Gateway Timeout"), (505, "HTTP Version Not Supported"),
    (506, "Variant Also Negotiates"), (507, "Insufficient Storage"), (508, "Loop Detected"),
    (510, "Not Extended"), (511, "Network Authentication Required")]

/-- The phrase that goes with the status code of a failure. -/
def reasonPhrase (code : Nat) : String :=
  ((failurePhrases.find? fun entry => entry.1 == code).map (·.2)).getD "<unknown status code>"

/-- A status code with its phrase. -/
def statusLine (code : Nat) : String := code.repr ++ " " ++ reasonPhrase code

end ClusterOperator.Web
