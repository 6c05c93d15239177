import ClusterOperator.Web.Domain

/-!
# Addresses of the web

A URL of the plain scheme as it is read and as it is written back. Reading accepts what people
type: backslashes for slashes, tabulators and line ends anywhere, names of users, capitals in the
name of a host, numbers in many forms, and steps up and down in the path. Writing gives the one
form that is sent, without the names of users.

## Main definitions

* `Url`, `Url.Host`: what an address consists of.
* `Url.parse`: the address of a text that follows the scheme.
* `Url.text`: the text of an address.
-/

namespace ClusterOperator.Web

/-- The host of an address. -/
inductive Url.Host where
  | domain (name : String)
  | ipv4 (address : Nat)
  | ipv6 (groups : List Nat)
  deriving DecidableEq, Repr

/-- An address of the web. -/
structure Url where
  host : Url.Host
  /-- The port, unless it is the usual one. -/
  port : Option Nat
  /-- The steps of the path, each after a slash. -/
  path : List String
  query : Option String
  fragment : Option String
  deriving DecidableEq, Repr

namespace Url

/-- The scheme and what follows it. -/
def schemeText : String := "http://"

/-- The port that is not written. -/
def usualPort : Nat := 80

/-- The greatest port. -/
def maxPort : Nat := 65535

/-! ### Writing -/

/-- The text of a host. -/
def Host.text : Host → String
  | domain name => name
  | ipv4 address => Ipv4.text address
  | ipv6 groups => "[" ++ Ipv6.text groups ++ "]"

/-- The text of an address. -/
def text (u : Url) : String :=
  schemeText ++ u.host.text ++
    (u.port.map fun p => ":" ++ p.repr).getD "" ++
    String.join (u.path.map ("/" ++ ·)) ++
    (u.query.map ("?" ++ ·)).getD "" ++
    (u.fragment.map ("#" ++ ·)).getD ""

/-! ### Reading -/

/-- Whether a character separates the steps of a path. -/
def isSlash (c : Char) : Bool := c == '/' || c == '\\'

/-- Whether a character ends the part that names the host. -/
def endsAuthority (c : Char) : Bool := isSlash c || c == '?' || c == '#'

/-- Whether a character is left out wherever it stands. -/
def isDropped (c : Char) : Bool := c == '\t' || c == '\n' || c == '\r'

/-- What follows the last at sign, which ends the name of a user. -/
def afterUser (authority : List Char) : List Char :=
  (authority.reverse.takeWhile (· ≠ '@')).reverse

/-- The host and what follows it; a colon between brackets belongs to the host. -/
def splitHost : Bool → List Char → List Char × List Char
  | _, [] => ([], [])
  | inBrackets, c :: rest =>
    if c = ':' ∧ ¬ inBrackets then ([], c :: rest)
    else
      let inBrackets := if c = '[' then true else if c = ']' then false else inBrackets
      let (host, rest) := splitHost inBrackets rest
      (c :: host, rest)

/-- The text of bytes in UTF-8. -/
def ofUtf8? (bytes : List UInt8) : Option (List Char) :=
  (String.fromUTF8? ⟨bytes.toArray⟩).map String.toList

/-- The host of a text. -/
def parseHost (cs : List Char) : Except UrlProblem Host := do
  match cs with
  | [] => .error .emptyHost
  | '[' :: rest =>
    if rest.getLast? = some ']' then return .ipv6 (← Ipv6.parse rest.dropLast)
    else .error .badIpv6
  | cs =>
    let some letters := ofUtf8? (Percent.decode cs) | .error .badDomain
    let name ← Domain.normalize letters
    if name.isEmpty then .error .emptyHost
    else if Ipv4.endsInNumber name then return .ipv4 (← Ipv4.parse name)
    else return .domain (String.ofList name)

/-- The port of a text of digits; none if it is empty or the usual one. -/
def parsePort (cs : List Char) : Except UrlProblem (Option Nat) :=
  if cs.isEmpty then .ok none
  else match ofDigits? 10 cs with
    | some port =>
      if maxPort < port then .error .badPort
      else .ok (if port = usualPort then none else some port)
    | none => .error .badPort

/-- Whether a character is a visible one of ASCII other than the given ones. -/
def isPlainBut (others : String) (c : Char) : Bool :=
  0x20 < c.toNat && c.toNat < 0x7F && !others.contains c

/-- A text in which all characters but the visible ones of ASCII are written as bytes, and so are
the given ones. -/
def escaped (others : String) (cs : List Char) : String :=
  String.ofList (Percent.encode (isPlainBut others) cs)

/-- A step as it is compared, in which an escaped point is a point. -/
def pointsOf : List Char → List Char
  | [] => []
  | '%' :: '2' :: 'e' :: rest | '%' :: '2' :: 'E' :: rest => '.' :: pointsOf rest
  | c :: rest => c :: pointsOf rest

/-- The steps of a path, without the steps up and down; `taken` are the steps taken so far, the
last one first. A step up or down at the end leaves an empty step. -/
def walk : List (List Char) → List (List Char) → List (List Char)
  | taken, [] => taken.reverse
  | taken, step :: rest =>
    if pointsOf step = ['.', '.'] then
      walk (if rest.isEmpty then [] :: taken.tail else taken.tail) rest
    else if pointsOf step = ['.'] then walk (if rest.isEmpty then [] :: taken else taken) rest
    else walk (step :: taken) rest

/-- The steps of a path. -/
def parsePath (cs : List Char) : List String :=
  let cs := match cs with
    | c :: rest => if isSlash c then rest else cs
    | [] => []
  (walk [] (pieces isSlash cs)).map (escaped "\"#<>?`\x7b\x7d")

/-- The query, if there is one. -/
def parseQuery : List Char → Option String
  | '?' :: query => some (escaped "\"#<>'" query)
  | _ => none

/-- The fragment, if there is one. -/
def parseFragment : List Char → Option String
  | '#' :: fragment => some (escaped "\"<>`" fragment)
  | _ => none

/-- The address of a text that follows the scheme. -/
def parse (s : String) : Except UrlProblem Url := do
  let cs := (s.toList.filter fun c => !isDropped c).dropWhile isSlash
  let authority := cs.takeWhile fun c => !endsAuthority c
  let rest := cs.dropWhile fun c => !endsAuthority c
  let (host, port) := splitHost false (afterUser authority)
  let host ← parseHost host
  let port ← parsePort (port.drop 1)
  let path := rest.takeWhile fun c => c != '?' && c != '#'
  let rest := rest.dropWhile fun c => c != '?' && c != '#'
  let query := rest.takeWhile (· != '#')
  return { host, port
           path := parsePath path
           query := parseQuery query
           fragment := parseFragment (rest.dropWhile (· != '#')) }

end Url

end ClusterOperator.Web
