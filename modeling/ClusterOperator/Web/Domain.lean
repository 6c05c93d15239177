import ClusterOperator.Text.Hidden
import ClusterOperator.Web.Address

/-!
# Names of hosts

A host that is no number is a domain: labels with points between them, in small letters. A label
with letters beyond ASCII is written in the letters of ASCII alone, as `xn--` and its Punycode.

Before that, letters are mapped: capitals to small letters, the full-width forms to the plain ones,
and what is not visible is left out. The table of capitals covers the Latin, Greek, Cyrillic and
Armenian alphabets.

## Main definitions

* `Domain.small`: the small form of a letter.
* `Punycode.encode`: a label in ASCII.
* `Domain.normalize`: a domain as it is sent.
-/

namespace ClusterOperator.Web

namespace Punycode

/-- The digit of a value below 36: the letters come first. -/
def digit (n : Nat) : Char := if n < 26 then Char.ofNat (97 + n) else Char.ofNat (22 + n)

/-- How many values the digit at a place stands for without being the last one. -/
def threshold (place bias : Nat) : Nat :=
  if place ≤ bias then 1 else if bias + 26 ≤ place then 26 else place - bias

/-- The digits of a number, the least one first; digits below the threshold end the number. -/
def number (bias : Nat) : Nat → Nat → Nat → List Char
  | 0, _, _ => []
  | fuel + 1, place, n =>
    let t := threshold place bias
    if n < t then [digit n]
    else digit (t + (n - t) % (36 - t)) :: number bias fuel (place + 36) ((n - t) / (36 - t))

/-- Divides by 35 until the rest is small, and counts the steps. -/
def damp : Nat → Nat → Nat → Nat × Nat
  | 0, delta, steps => (delta, steps)
  | fuel + 1, delta, steps =>
    if 455 < delta then damp fuel (delta / 35) (steps + 1) else (delta, steps)

/-- The bias after a number was written, from its size and how many letters are written. -/
def adapt (delta written : Nat) (isFirst : Bool) : Nat :=
  let delta := if isFirst then delta / 700 else delta / 2
  let (delta, steps) := damp (delta + delta / written) (delta + delta / written) 0
  steps * 36 + 36 * delta / (delta + 38)

/-- What the encoder remembers: the gap since the last insertion, the bias and how many letters
are written. -/
structure State where
  delta : Nat
  bias : Nat
  written : Nat
  output : List Char

/-- Goes through the label to insert every letter of one code. -/
def insertLetter (plain code : Nat) (label : List Nat) (s : State) : State :=
  label.foldl (fun s c =>
    if c < code then { s with delta := s.delta + 1 }
    else if c = code then
      { delta := 0
        bias := adapt s.delta (s.written + 1) (s.written == plain)
        written := s.written + 1
        output := s.output ++ number s.bias (s.delta + 1) 36 s.delta }
    else s) s

/-- The codes of a label beyond ASCII, each once, in increasing order. -/
def codes (label : List Nat) : List Nat :=
  ((label.filter (128 ≤ ·)).mergeSort).eraseDups

/-- A label in ASCII: its letters that are there already, a hyphen, and where the others belong. -/
def encode (label : List Char) : List Char :=
  let numbers := label.map Char.toNat
  let plain := label.filter fun c => c.toNat < 128
  let start := if plain.isEmpty then [] else plain ++ ['-']
  let step := fun (current : Nat × State) code =>
    let (next, s) := current
    let s := { s with delta := s.delta + (code - next) * (s.written + 1) }
    let s := insertLetter plain.length code numbers s
    (code + 1, { s with delta := s.delta + 1 })
  ((codes numbers).foldl step (128, ⟨0, 72, plain.length, start⟩)).2.output

end Punycode

namespace Domain

/-- Whether a code lies in a range. -/
def within (first last n : Nat) : Bool := first ≤ n && n ≤ last

/-- The code of the small form of a letter. -/
def smallCode (n : Nat) : Nat :=
  if within 0x41 0x5A n then n + 32
  else if within 0xC0 0xDE n && n != 0xD7 then n + 32
  else if n = 0x130 then n
  else if within 0x100 0x137 n || within 0x14A 0x177 n || within 0x1E00 0x1E95 n ||
      within 0x1EA0 0x1EFF n || within 0x3D8 0x3EF n || within 0x460 0x481 n ||
      within 0x48A 0x4BF n || within 0x4D0 0x52F n then
    if n % 2 = 0 then n + 1 else n
  else if within 0x139 0x148 n || within 0x179 0x17E n || within 0x4C1 0x4CE n then
    if n % 2 = 1 then n + 1 else n
  else if n = 0x178 then 0xFF
  else if n = 0x386 then 0x3AC
  else if within 0x388 0x38A n then n + 37
  else if n = 0x38C then 0x3CC
  else if within 0x38E 0x38F n then n + 63
  else if within 0x391 0x3AB n then n + 32
  else if within 0x400 0x40F n then n + 80
  else if within 0x410 0x42F n then n + 32
  else if within 0x531 0x556 n then n + 48
  else n

/-- The characters that are left out. -/
def isIgnored (n : Nat) : Bool :=
  n == 0xAD || n == 0x200B || n == 0x2060 || n == 0x2064 || n == 0xFEFF || within 0xFE00 0xFE0F n

/-- What stands for a character: nothing, the plain form, or the small form. -/
def mapped (c : Char) : List Char :=
  let n := c.toNat
  if isIgnored n then []
  else if n = 0x3002 || n = 0xFF61 then ['.']
  else if within 0xFF01 0xFF5E n then [Char.ofNat (smallCode (n - 0xFEE0))]
  else [Char.ofNat (smallCode n)]

/-- The characters that no domain contains. -/
def isForbidden (c : Char) : Bool :=
  c.toNat ≤ 0x20 || c.toNat == 0x7F || "%#/:<>?@[\\]^|".contains c ||
    (128 ≤ c.toNat && Text.isHidden c)

/-- A label as it is sent. -/
def encodeLabel (label : List Char) : List Char :=
  if label.all fun c => c.toNat < 128 then label
  else ['x', 'n', '-', '-'] ++ Punycode.encode label

/-- A domain as it is sent. -/
def normalize (cs : List Char) : Except UrlProblem (List Char) :=
  let letters := cs.flatMap mapped
  if letters.any isForbidden then .error .badDomain
  else .ok (List.intercalate ['.'] ((pieces (· == '.') letters).map encodeLabel))

end Domain

end ClusterOperator.Web
