/-!
# The generic grammar of resource identifiers

A resource identifier consists of a scheme, an authority (a user, a host and a port), a path, a
query and a fragment. The grammar says which characters each part may hold. A host is an address of
four bytes, an address of eight groups or of a later version in brackets, or a name. A text is read
as an identifier if that obeys the grammar and is written as the text.

## Main definitions

* `Uri`, `Uri.Authority`, `Uri.Host`: what an identifier consists of.
* `Uri.IsIpv4`, `Uri.IsIpv6`: the literals of the two families of addresses.
* `Uri.Proper`: an identifier obeys the grammar.
* `Uri.ReadsAs`: a text is read as an identifier.

## Main results

* `Uri.IsIpv4.isAddressChar_of_mem`, `Uri.IsIpv6.isAddressChar_of_mem`: the characters of addresses.
* `Uri.IsIpv6.two_le_count_colon`: at least two colons stand in an address of groups.
-/

namespace ClusterOperator.Web

namespace Uri

/-! ### Characters -/

/-- The hexadecimal digits. -/
def isHexDigit (c : Char) : Bool :=
  c.isDigit || ['a', 'b', 'c', 'd', 'e', 'f', 'A', 'B', 'C', 'D', 'E', 'F'].contains c

/-- The characters that have no meaning of their own in any part. -/
def isUnreserved (c : Char) : Bool := c.isAlphanum || ['-', '.', '_', '~'].contains c

/-- The characters that may have a meaning within a part. -/
def isSubDelimiter (c : Char) : Bool :=
  ['!', '$', '&', '\x27', '(', ')', '*', '+', ',', ';', '='].contains c

/-- The characters of numeric addresses. -/
def isAddressChar (c : Char) : Bool := isHexDigit c || c == ':' || c == '.'

/-- The characters of the name of a host. -/
def isNameChar (c : Char) : Bool := isUnreserved c || isSubDelimiter c

/-- The characters of a user. -/
def isUserChar (c : Char) : Bool := isNameChar c || c == ':'

/-- The characters of a path. -/
def isPathChar (c : Char) : Bool := isUserChar c || c == '@' || c == '/'

/-- The characters of a query or a fragment. -/
def isQueryChar (c : Char) : Bool := isPathChar c || c == '?'

/-- Characters of a kind, and any others as a percent sign and two hexadecimal digits. -/
inductive Encoded (plain : Char → Bool) : List Char → Prop where
  | nil : Encoded plain []
  | plain {c : Char} {cs : List Char} :
      plain c = true → Encoded plain cs → Encoded plain (c :: cs)
  | escape {a b : Char} {cs : List Char} :
      isHexDigit a = true → isHexDigit b = true → Encoded plain cs →
      Encoded plain ('%' :: a :: b :: cs)

theorem Encoded.of_all {plain : Char → Bool} {cs : List Char} (h : ∀ c ∈ cs, plain c = true) :
    Encoded plain cs := by
  induction cs with
  | nil => exact .nil
  | cons c cs ih =>
    obtain ⟨hc, hcs⟩ := List.forall_mem_cons.mp h
    exact .plain hc (ih hcs)

/-- Only characters of the kind and what escapes are made of occur. -/
theorem Encoded.forall_mem {plain : Char → Bool} (hhex : ∀ c, isHexDigit c = true → plain c = true)
    {cs : List Char} (h : Encoded plain cs) : ∀ c ∈ cs, plain c = true ∨ c = '%' := by
  induction h with
  | nil => exact List.forall_mem_nil _
  | plain hc _ ih => exact List.forall_mem_cons.mpr ⟨.inl hc, ih⟩
  | escape ha hb _ ih =>
    exact List.forall_mem_cons.mpr ⟨.inr rfl, List.forall_mem_cons.mpr ⟨.inl (hhex _ ha),
      List.forall_mem_cons.mpr ⟨.inl (hhex _ hb), ih⟩⟩⟩

theorem isNameChar_of_isHexDigit {c : Char} (h : isHexDigit c = true) : isNameChar c = true := by
  unfold isHexDigit at h
  rcases Bool.or_eq_true_iff.mp h with h | h
  · simp [isNameChar, isUnreserved, Char.isAlphanum, h]
  · have hall : ∀ d ∈ ['a', 'b', 'c', 'd', 'e', 'f', 'A', 'B', 'C', 'D', 'E', 'F'],
        isNameChar d = true := List.all_eq_true.mp (by decide)
    exact hall c (by simpa using h)

/-! ### Addresses -/

/-- Four bytes in decimal digits, without zeros in front, with points between them. -/
def IsIpv4 (cs : List Char) (bytes : List Nat) : Prop :=
  bytes.length = 4 ∧ (∀ b ∈ bytes, b < 256) ∧
    cs = List.intercalate ['.'] (bytes.map (Nat.toDigits 10))

/-- A group of sixteen bits: one to four hexadecimal digits. -/
def IsGroup (cs : List Char) : Prop :=
  cs ≠ [] ∧ cs.length ≤ 4 ∧ ∀ c ∈ cs, isHexDigit c = true

/-- As many groups with colons between them. Where `atEnd` holds nothing follows, and the last two
groups may be given as four bytes. -/
inductive Groups (atEnd : Bool) : List Char → Nat → Prop where
  | one {cs : List Char} : IsGroup cs → Groups atEnd cs 1
  | bytes {cs : List Char} {bytes : List Nat} :
      atEnd = true → IsIpv4 cs bytes → Groups atEnd cs 2
  | more {group cs : List Char} {count : Nat} :
      IsGroup group → Groups atEnd cs count → Groups atEnd (group ++ ':' :: cs) (count + 1)

/-- The groups on one side of a double colon: some, or none. -/
def Side (atEnd : Bool) (cs : List Char) (count : Nat) : Prop :=
  (cs = [] ∧ count = 0) ∨ Groups atEnd cs count

/-- Eight groups, or fewer with a double colon for one or more groups of zeros. -/
inductive IsIpv6 : List Char → Prop where
  | full {cs : List Char} : Groups true cs 8 → IsIpv6 cs
  | short {left right : List Char} {m k : Nat} :
      Side false left m → Side true right k → m + k ≤ 7 → IsIpv6 (left ++ ':' :: ':' :: right)

/-- An address of a later version: its number in hexadecimal digits, a point and the address. -/
def IsFuture (cs : List Char) : Prop :=
  ∃ v version address, (v = 'v' ∨ v = 'V') ∧
    (version ≠ [] ∧ ∀ c ∈ version, isHexDigit c = true) ∧
    (address ≠ [] ∧ ∀ c ∈ address, isUserChar c = true) ∧ cs = v :: (version ++ '.' :: address)

/-! ### The characters of addresses -/

theorem mem_intercalate {sep : List Char} {pieces : List (List Char)} {c : Char}
    (h : c ∈ List.intercalate sep pieces) : c ∈ sep ∨ ∃ piece ∈ pieces, c ∈ piece := by
  induction pieces with
  | nil => cases h
  | cons piece pieces ih =>
    cases pieces with
    | nil => exact .inr ⟨piece, List.mem_singleton_self _, by simpa [List.intercalate] using h⟩
    | cons next more =>
      rw [List.intercalate_cons_cons, List.mem_append, List.mem_append] at h
      rcases h with (h | h) | h
      · exact .inr ⟨piece, List.mem_cons_self, h⟩
      · exact .inl h
      · obtain hsep | ⟨other, hother, hc⟩ := ih h
        · exact .inl hsep
        · exact .inr ⟨other, List.mem_cons_of_mem _ hother, hc⟩

theorem IsIpv4.forall_mem {cs : List Char} {bytes : List Nat} (h : IsIpv4 cs bytes) :
    ∀ c ∈ cs, c.isDigit = true ∨ c = '.' := by
  obtain ⟨-, -, rfl⟩ := h
  intro c hc
  obtain hpoint | ⟨piece, hpiece, hdigit⟩ := mem_intercalate hc
  · exact .inr (List.mem_singleton.mp hpoint)
  · obtain ⟨b, -, rfl⟩ := List.mem_map.mp hpiece
    exact .inl (Nat.isDigit_of_mem_toDigits (by decide) (by decide) hdigit)

theorem isHexDigit_of_isDigit {c : Char} (h : c.isDigit = true) : isHexDigit c = true := by
  rw [isHexDigit, h, Bool.true_or]

/-- A character of an address is none that means anything else. -/
theorem ne_of_isAddressChar {c d : Char} (hc : isAddressChar c = true)
    (hd : isAddressChar d = false) : c ≠ d := by
  rintro rfl
  rw [hc] at hd
  cases hd

theorem isAddressChar_of_isHexDigit {c : Char} (h : isHexDigit c = true) :
    isAddressChar c = true := by
  rw [isAddressChar, h, Bool.true_or, Bool.true_or]

theorem IsIpv4.isAddressChar_of_mem {cs : List Char} {bytes : List Nat} (h : IsIpv4 cs bytes) :
    ∀ c ∈ cs, isAddressChar c = true := by
  intro c hc
  obtain hdigit | rfl := h.forall_mem c hc
  · exact isAddressChar_of_isHexDigit (isHexDigit_of_isDigit hdigit)
  · decide

theorem Groups.isAddressChar_of_mem {atEnd : Bool} {cs : List Char} {count : Nat}
    (h : Groups atEnd cs count) : ∀ c ∈ cs, isAddressChar c = true := by
  induction h with
  | one h => exact fun c hc => isAddressChar_of_isHexDigit (h.2.2 c hc)
  | bytes _ h => exact h.isAddressChar_of_mem
  | more h _ ih =>
    exact List.forall_mem_append.mpr ⟨fun c hc => isAddressChar_of_isHexDigit (h.2.2 c hc),
      List.forall_mem_cons.mpr ⟨by decide, ih⟩⟩

theorem Side.isAddressChar_of_mem {atEnd : Bool} {cs : List Char} {count : Nat}
    (h : Side atEnd cs count) : ∀ c ∈ cs, isAddressChar c = true := by
  obtain ⟨rfl, -⟩ | h := h
  · exact List.forall_mem_nil _
  · exact h.isAddressChar_of_mem

theorem IsIpv6.isAddressChar_of_mem {cs : List Char} (h : IsIpv6 cs) :
    ∀ c ∈ cs, isAddressChar c = true := by
  cases h with
  | full h => exact h.isAddressChar_of_mem
  | short hleft hright _ =>
    exact List.forall_mem_append.mpr ⟨hleft.isAddressChar_of_mem, List.forall_mem_cons.mpr
      ⟨by decide, List.forall_mem_cons.mpr ⟨by decide, hright.isAddressChar_of_mem⟩⟩⟩

theorem Groups.le_count_colon {cs : List Char} {count : Nat} {atEnd : Bool}
    (h : Groups atEnd cs count) : count ≤ cs.count ':' + 2 := by
  induction h with
  | one _ => omega
  | bytes _ _ => omega
  | more _ _ ih =>
    rw [List.count_append, List.count_cons_self]
    omega

/-- At least two colons stand in an address of groups. -/
theorem IsIpv6.two_le_count_colon {cs : List Char} (h : IsIpv6 cs) : 2 ≤ cs.count ':' := by
  cases h with
  | full h =>
    have := h.le_count_colon
    omega
  | short _ _ _ =>
    rw [List.count_append, List.count_cons_self, List.count_cons_self]
    omega

/-- No text is an address of both families. -/
theorem IsIpv4.not_isIpv6 {cs : List Char} {bytes : List Nat} (h : IsIpv4 cs bytes) :
    ¬ IsIpv6 cs := by
  intro hgroups
  have hcolon : ':' ∈ cs := List.count_pos_iff.mp
    (Nat.lt_of_lt_of_le (by decide) hgroups.two_le_count_colon)
  exact absurd (h.forall_mem ':' hcolon) (by decide)

theorem isUserChar_of_isNameChar {c : Char} (h : isNameChar c = true) : isUserChar c = true := by
  rw [isUserChar, h, Bool.true_or]

theorem isUserChar_of_isAddressChar {c : Char} (h : isAddressChar c = true) :
    isUserChar c = true := by
  rw [isAddressChar, Bool.or_eq_true_iff, Bool.or_eq_true_iff, beq_iff_eq, beq_iff_eq] at h
  obtain (hhex | rfl) | rfl := h
  · exact isUserChar_of_isNameChar (isNameChar_of_isHexDigit hhex)
  · decide
  · decide

theorem isUserChar_of_isHexDigit {c : Char} (h : isHexDigit c = true) : isUserChar c = true :=
  isUserChar_of_isNameChar (isNameChar_of_isHexDigit h)

theorem IsFuture.isUserChar_of_mem {cs : List Char} (h : IsFuture cs) :
    ∀ c ∈ cs, isUserChar c = true := by
  obtain ⟨v, version, address, hv, ⟨-, hversion⟩, ⟨-, haddress⟩, rfl⟩ := h
  refine List.forall_mem_cons.mpr ⟨?_, List.forall_mem_append.mpr
    ⟨fun c hc => isUserChar_of_isHexDigit (hversion c hc),
      List.forall_mem_cons.mpr ⟨by decide, haddress⟩⟩⟩
  rcases hv with rfl | rfl <;> decide

/-- An address of a later version is none of groups. -/
theorem IsFuture.not_isIpv6 {cs : List Char} (h : IsFuture cs) : ¬ IsIpv6 cs := by
  obtain ⟨v, version, address, hv, -, -, rfl⟩ := h
  intro h
  have hfirst := h.isAddressChar_of_mem v List.mem_cons_self
  rcases hv with rfl | rfl <;> revert hfirst <;> decide

/-! ### Identifiers -/

/-- The host of an identifier. -/
inductive Host where
  | ipv4 (literal : List Char)
  | ipv6 (literal : List Char)
  | future (literal : List Char)
  | name (letters : List Char)
  deriving DecidableEq

/-- Who is to be reached: a host, and a user and a port or not. -/
@[ext]
structure Authority where
  user : Option (List Char)
  host : Host
  port : Option (List Char)
  deriving DecidableEq

end Uri

/-- A resource identifier. -/
@[ext]
structure Uri where
  scheme : List Char
  authority : Option Uri.Authority
  path : List Char
  query : Option (List Char)
  fragment : Option (List Char)
  deriving DecidableEq

namespace Uri

/-- A host obeys the grammar. What can be read as four bytes is no name. -/
def Host.Proper : Host → Prop
  | ipv4 literal => ∃ bytes, IsIpv4 literal bytes
  | ipv6 literal => IsIpv6 literal
  | future literal => IsFuture literal
  | name letters => Encoded isNameChar letters ∧ ¬ ∃ bytes, IsIpv4 letters bytes

/-- An authority obeys the grammar. -/
structure Authority.Proper (a : Authority) : Prop where
  user : ∀ cs ∈ a.user, Encoded isUserChar cs
  host : a.host.Proper
  port : ∀ cs ∈ a.port, ∀ c ∈ cs, c.isDigit = true

/-- A scheme: a letter, then letters, digits and some marks. -/
def IsScheme (cs : List Char) : Prop :=
  ∃ c rest, cs = c :: rest ∧ c.isAlpha = true ∧
    ∀ d ∈ rest, (d.isAlphanum || ['+', '-', '.'].contains d) = true

/-- An identifier obeys the grammar. After an authority a path is empty or starts with a slash, and
without one it does not start as an authority would. -/
structure Proper (u : Uri) : Prop where
  scheme : IsScheme u.scheme
  authority : ∀ a ∈ u.authority, a.Proper
  path : Encoded isPathChar u.path
  rooted : u.authority.isSome = true → ∀ c ∈ u.path.head?, c = '/'
  single : u.authority = none → ∀ rest, u.path ≠ '/' :: '/' :: rest
  query : ∀ cs ∈ u.query, Encoded isQueryChar cs
  fragment : ∀ cs ∈ u.fragment, Encoded isQueryChar cs

/-! ### Texts -/

/-- The text of a part that may be missing, after its mark. -/
def marked (mark : Char) : Option (List Char) → List Char
  | none => []
  | some cs => mark :: cs

/-- Whether a host stands in brackets. -/
def Host.bracketed : Host → Bool
  | ipv4 _ | name _ => false
  | ipv6 _ | future _ => true

/-- The text of a host. -/
def Host.text : Host → List Char
  | ipv4 literal => literal
  | ipv6 literal | future literal => '[' :: (literal ++ [']'])
  | name letters => letters

/-- The text of an authority. -/
def Authority.text (a : Authority) : List Char :=
  ((a.user.map (· ++ ['@'])).getD []) ++ (a.host.text ++ marked ':' a.port)

/-- The text that follows the authority. -/
def afterAuthority (u : Uri) : List Char := u.path ++ (marked '?' u.query ++ marked '#' u.fragment)

/-- The text of an identifier. -/
def text (u : Uri) : List Char :=
  u.scheme ++ ':' ::
    ((u.authority.map fun a => '/' :: '/' :: a.text).getD [] ++ u.afterAuthority)

/-- A text is read as an identifier. -/
def ReadsAs (s : String) (u : Uri) : Prop := u.Proper ∧ u.text = s.toList

/-- Whether a character ends an authority. -/
def endsAuthority (c : Char) : Bool := c == '/' || c == '?' || c == '#'

end Uri

end ClusterOperator.Web
