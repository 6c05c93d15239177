import ClusterOperator.Shape.Scan

/-!
# Reading the pieces of a rendered text

Compact JSON text has no blanks between its pieces, and what follows a value is a comma, a closing
bracket or the end of the text. Where a piece of compact text stands at a cursor, the reader of such
pieces gives what was rendered and stops right behind it.

## Main definitions

* `Cursor.Ends`: what may follow a value.
* `Cursor.Takes`: a reader takes a text for a value.
* `Cursor.Begins`: how the text of a value begins.

## Main results

* `Cursor.string_append`, `Cursor.number_takes`: strings and whole numbers are read back.
* `Cursor.items_joined`, `Cursor.members_joined`: lists and objects are read back.
-/

namespace ClusterOperator

namespace Cursor

/-- What may follow a value: nothing, the comma before the next one, or a closing bracket. -/
def Ends (rest : List Char) : Prop := ∀ x ∈ rest.head?, x = ',' ∨ x = ']' ∨ x = '\x7d'

/-- A reader takes a text for a value: wherever the text stands in front of something that may
follow a value, the reader gives the value and stops behind the text. -/
def Takes {α : Type} (read : Cursor → Except Located (α × Cursor)) (text : List Char) (a : α) :
    Prop :=
  ∀ (c : Cursor) (rest : List Char), c.rest = text ++ rest → Ends rest →
    ∃ c', read c = .ok (a, c') ∧ c'.rest = rest

theorem Takes.congr {α : Type} {read read' : Cursor → Except Located (α × Cursor)}
    {text : List Char} {a : α} (h : Takes read text a) (heq : ∀ c, read' c = read c) :
    Takes read' text a :=
  funext heq ▸ h

/-- The text of a value other than null begins with a character that is no blank, closes nothing
and is not the first letter of null. -/
def Begins (text : List Char) : Prop :=
  ∃ x r, text = x :: r ∧ isJsonBlank x = false ∧ x ≠ ']' ∧ x ≠ 'n'

/-! ### Single characters -/

variable {c : Cursor} {x : Char} {rest : List Char}

theorem rest_advance (h : c.rest = x :: rest) : c.advance.rest = rest := by
  unfold advance
  rw [h]
  split
  · next heq => cases heq
  · next heq => exact (List.cons.inj heq).2.symm
  · next heq => exact (List.cons.inj heq).2.symm

theorem peek_cons (h : c.rest = x :: rest) : c.peek = some x := by
  rw [peek, h]
  rfl

/-- There are no blanks to be passed over. -/
theorem skipBlanks_cons (h : c.rest = x :: rest) (hx : isJsonBlank x = false) :
    c.skipBlanks = c := by
  obtain ⟨r, line, column⟩ := c
  have h : r = x :: rest := h
  subst h
  rw [skipBlanks, dropWhile, if_neg (by rw [hx]; decide)]

theorem start_cons (h : c.rest = x :: rest) (hx : isJsonBlank x = false) : c.start = .ok c := by
  unfold start
  rw [skipBlanks_cons h hx]
  simp [h]

theorem ident_append : ∀ {word : List Char} {c : Cursor}, c.rest = word ++ rest →
    ∃ c', c.ident word = .ok c' ∧ c'.rest = rest
  | [], c, h => ⟨c, rfl, h⟩
  | x :: word, c, h => by
    rw [ident, peek_cons h]
    simp only [if_true]
    exact ident_append (rest_advance h)

/-! ### Strings -/

theorem escaped_short {y : Char} (h : c.rest = x :: rest) (hx : shortEscape x = some y) :
    c.escaped = .ok (y, c.advance) := by
  rw [escaped, peek_cons h]
  split
  · next heq => cases heq
  · next heq =>
    cases heq
    cases hx
  · next heq =>
    cases heq
    simp only [hx]

/-- The digits of a control character. -/
theorem hexFour_control : ∀ n < 32,
    Json.hexFour n = ['0', '0', Nat.digitChar (n / 16), Nat.digitChar (n % 16)] := by
  decide

theorem hexValue_digitChar : ∀ n < 16, hexValue (Nat.digitChar n) = some n := by
  decide

theorem hexEscape_control {n : Nat} (hn : n < 32) (h : c.rest = Json.hexFour n ++ rest) :
    ∃ c', c.hexEscape = .ok (n, c') ∧ c'.rest = rest := by
  rw [hexFour_control n hn] at h
  refine ⟨c.advance.advance.advance.advance, ?_, ?_⟩
  · have hhigh := hexValue_digitChar (n / 16) (by omega)
    have hlow := hexValue_digitChar (n % 16) (by omega)
    have hzero : hexValue '0' = some 0 := rfl
    rw [hexEscape, h]
    simp only [List.cons_append, List.nil_append, List.take_succ_cons, List.take_zero, hhigh, hlow,
      hzero]
    congr 2
    omega
  · exact rest_advance (rest_advance (rest_advance (rest_advance h)))

/-- A control character is read from its escape. -/
theorem escaped_control (hx : x.toNat < 0x20)
    (h : c.rest = 'u' :: Json.hexFour x.toNat ++ rest) :
    ∃ c', c.escaped = .ok (x, c') ∧ c'.rest = rest := by
  obtain ⟨c', hread, hrest⟩ := hexEscape_control hx (rest_advance h)
  refine ⟨c', ?_, hrest⟩
  rw [escaped, peek_cons h]
  have hsmall : ¬ (0xdc00 ≤ x.toNat ∧ x.toNat ≤ 0xdfff) := by omega
  have hsingle : x.toNat < 0xd800 ∨ 0xdbff < x.toNat := by omega
  show unicodeEscape c.advance = _
  rw [unicodeEscape, hread]
  simp only [bind, Except.bind, if_neg hsmall, if_pos hsingle, Char.ofNat_toNat]
  rfl

/-- One character of a string is read from what stands for it. -/
theorem stringTail_escape (fuel : Nat) (done : List Char) (x : Char)
    (h : c.rest = Json.escape x ++ rest) :
    ∃ c', stringTail (fuel + 1) done c = stringTail fuel (x :: done) c' ∧ c'.rest = rest := by
  have hshort {letter y : Char} (h : c.rest = '\\' :: letter :: rest)
      (hy : shortEscape letter = some y) :
      ∃ c', stringTail (fuel + 1) done c = stringTail fuel (y :: done) c' ∧ c'.rest = rest := by
    refine ⟨c.advance.advance, ?_, rest_advance (rest_advance h)⟩
    rw [stringTail, peek_cons h]
    simp only [escaped_short (rest_advance h) hy]
    rfl
  unfold Json.escape at h
  -- The seven characters with a short escape, then control characters, then all others.
  split at h
  · exact hshort h rfl
  · exact hshort h rfl
  · exact hshort h rfl
  · exact hshort h rfl
  · exact hshort h rfl
  · exact hshort h rfl
  · exact hshort h rfl
  · next hquote hbackslash _ _ _ _ _ =>
    split at h
    · next hcontrol =>
      obtain ⟨c', hread, hrest⟩ := escaped_control hcontrol (rest_advance h)
      refine ⟨c', ?_, hrest⟩
      rw [stringTail, peek_cons h]
      simp only [hread]
      rfl
    · next hvisible =>
      refine ⟨c.advance, ?_, rest_advance h⟩
      rw [stringTail, peek_cons h]
      simp only [if_neg hvisible]

theorem stringTail_flatMap : ∀ (cs : List Char) (fuel : Nat) (done : List Char) (c : Cursor),
    c.rest = cs.flatMap Json.escape ++ '"' :: rest → cs.length < fuel →
      ∃ c', stringTail fuel done c = .ok (String.ofList (done.reverse ++ cs), c') ∧
        c'.rest = rest
  | _, 0, _, _, _, hfuel => absurd hfuel (Nat.not_lt_zero _)
  | [], fuel + 1, done, c, h, _ => by
    refine ⟨c.advance, ?_, rest_advance h⟩
    rw [stringTail, peek_cons h, List.append_nil]
    rfl
  | x :: cs, fuel + 1, done, c, h, hfuel => by
    rw [List.flatMap_cons, List.append_assoc] at h
    obtain ⟨c', hstep, hrest⟩ := stringTail_escape fuel done x h
    obtain ⟨c'', hread, hend⟩ :=
      stringTail_flatMap cs fuel (x :: done) c' hrest (Nat.lt_of_succ_lt_succ hfuel)
    refine ⟨c'', ?_, hend⟩
    rw [hstep, hread, List.reverse_cons, List.append_assoc]
    rfl

theorem escape_ne_nil (x : Char) : Json.escape x ≠ [] := by
  unfold Json.escape
  repeat' split
  all_goals exact List.cons_ne_nil _ _

theorem length_le_flatMap_escape (cs : List Char) :
    cs.length ≤ (cs.flatMap Json.escape).length := by
  induction cs with
  | nil => exact Nat.le_refl 0
  | cons x cs ih =>
    have hescape := List.length_pos_iff.mpr (escape_ne_nil x)
    rw [List.flatMap_cons, List.length_append, List.length_cons]
    omega

/-- A string is read back, after its opening quote. -/
theorem string_append {s : String} (h : c.rest = s.toList.flatMap Json.escape ++ '"' :: rest) :
    ∃ c', c.string = .ok (s, c') ∧ c'.rest = rest := by
  have hfuel : s.toList.length < c.rest.length + 1 := by
    have hescaped := length_le_flatMap_escape s.toList
    rw [h, List.length_append]
    omega
  obtain ⟨c', hread, hrest⟩ := stringTail_flatMap s.toList _ [] c h hfuel
  refine ⟨c', ?_, hrest⟩
  rw [string, hread, List.reverse_nil, List.nil_append, String.ofList_toList]

/-! ### Numbers -/

theorem rest_dropWhile (p : Char → Bool) :
    ∀ (cs : List Char) (line column : Nat), (dropWhile p cs line column).rest = cs.dropWhile p
  | [], _, _ => rfl
  | x :: cs, line, column => by
    rw [dropWhile, List.dropWhile_cons]
    split
    · split <;> exact rest_dropWhile p cs _ _
    · rfl

theorem not_isDigit_of_ends (h : Ends rest) : ∀ x ∈ rest.head?, x.isDigit = false := by
  intro x hx
  rcases h x hx with rfl | rfl | rfl <;> rfl

theorem digits_append {ds : List Char} (h : c.rest = ds ++ rest)
    (hds : ∀ x ∈ ds, x.isDigit = true) (hrest : ∀ x ∈ rest.head?, x.isDigit = false) :
    c.digits.1 = ds ∧ c.digits.2.rest = rest := by
  have htake : rest.takeWhile Char.isDigit = [] := by
    cases rest with
    | nil => rfl
    | cons x r => rw [List.takeWhile_cons, hrest x rfl, if_neg (by decide)]
  have hdrop : rest.dropWhile Char.isDigit = rest := by
    cases rest with
    | nil => rfl
    | cons x r => rw [List.dropWhile_cons, hrest x rfl, if_neg (by decide)]
  constructor
  · show c.rest.takeWhile Char.isDigit = ds
    rw [h, List.takeWhile_append_of_pos hds, htake, List.append_nil]
  · show (dropWhile Char.isDigit c.rest c.line c.column).rest = rest
    rw [rest_dropWhile, h, List.dropWhile_append_of_pos hds, hdrop]

theorem le_ofDigitChars (ds : List Char) (n : Nat) : n ≤ Nat.ofDigitChars 10 ds n := by
  induction ds generalizing n with
  | nil => exact Nat.le_of_eq Nat.ofDigitChars_nil.symm
  | cons d ds ih =>
    rw [Nat.ofDigitChars_cons]
    exact Nat.le_trans (by omega) (ih _)

/-- A numeral that fits 64 bits is gathered as a whole. -/
theorem gather_of_le (ds : List Char) (n : Nat)
    (h : Nat.ofDigitChars 10 ds n ≤ Text.maxUnsigned64) :
    gather n ds = (Nat.ofDigitChars 10 ds n, []) := by
  induction ds generalizing n with
  | nil => rw [gather, Nat.ofDigitChars_nil]
  | cons d ds ih =>
    rw [Nat.ofDigitChars_cons] at h
    have hnext : n * 10 + (d.toNat - 48) = 10 * n + (d.toNat - '0'.toNat) := by
      rw [Nat.mul_comm]
      rfl
    rw [gather, hnext, if_pos (Nat.le_trans (le_ofDigitChars ds _) h), ih _ h,
      Nat.ofDigitChars_cons]

/-- A positive number is not written with a zero in front. -/
theorem toDigits_head (n : Nat) (h : 0 < n) :
    ∃ d ds, Nat.toDigits 10 n = d :: ds ∧ d ≠ '0' := by
  induction n using Nat.strongRecOn with
  | ind n ih =>
    by_cases hsmall : n < 10
    · have hdigit : ∀ m < 10, 0 < m → Nat.digitChar m ≠ '0' := by decide
      exact ⟨n.digitChar, [], Nat.toDigits_of_lt_base hsmall, hdigit n hsmall h⟩
    · obtain ⟨d, ds, hdigits, hd⟩ := ih (n / 10) (by omega) (by omega)
      refine ⟨d, ds ++ [(n % 10).digitChar], ?_, hd⟩
      rw [Nat.toDigits_of_base_le (by decide) (by omega), hdigits]
      rfl

/-- A number that ends where it is followed by what may follow a value is a whole one. -/
theorem numberTail_of_ends (h : Ends c.rest) (negative : Bool) (n : Nat)
    (hn : negative = true → 0 < n ∧ n ≤ 9223372036854775808) :
    c.numberTail negative n 0 = .ok (.integer (if negative then -(n : Int) else n), c) := by
  have hpeek {x : Char} (hx : c.peek = some x) : x = ',' ∨ x = ']' ∨ x = '\x7d' := h x hx
  unfold numberTail
  split
  · next hx => rcases hpeek hx with h | h | h <;> cases h
  · next hx => rcases hpeek hx with h | h | h <;> cases h
  · next hx => rcases hpeek hx with h | h | h <;> cases h
  · rw [if_neg (Nat.lt_irrefl 0)]
    cases negative with
    | false => rfl
    | true => exact if_pos (hn rfl)

/-- A number behind its sign. -/
def numeral (c : Cursor) (negative : Bool) : Except Located (Number × Cursor) :=
  match c.peek with
  | none => c.fail .endInValue
  | some '0' =>
    let c := c.advance
    if c.atDigit then c.peekFail .invalidNumber else numberTail c negative 0 0
  | some d =>
    if d.isDigit then
      let (ds, c) := digits c
      let (significand, dropped) := gather 0 ds
      numberTail c negative significand dropped.length
    else c.advance.fail .invalidNumber

theorem number_eq (c : Cursor) :
    c.number = if c.peek = some '-' then c.advance.numeral true else c.numeral false := by
  have hsplit : c.number =
      (if c.peek = some '-' then (true, c.advance) else (false, c)).2.numeral
        (if c.peek = some '-' then (true, c.advance) else (false, c)).1 := rfl
  rw [hsplit]
  split <;> rfl

theorem atDigit_of_ends (h : Ends c.rest) : c.atDigit = false := by
  unfold atDigit peek
  cases hhead : c.rest.head? with
  | none => rfl
  | some x => exact not_isDigit_of_ends h x hhead

/-- The digits of a number are read back. -/
theorem numeral_toDigits {negative : Bool} {n : Nat} (h : c.rest = Nat.toDigits 10 n ++ rest)
    (hrest : Ends rest) (hle : n ≤ Text.maxUnsigned64)
    (hn : negative = true → 0 < n ∧ n ≤ 9223372036854775808) :
    ∃ c', c.numeral negative = .ok (.integer (if negative then -(n : Int) else n), c') ∧
      c'.rest = rest := by
  rcases Nat.eq_zero_or_pos n with rfl | hpos
  · rw [Nat.toDigits_zero] at h
    have hadvance := rest_advance h
    have hends : Ends c.advance.rest := by rwa [hadvance]
    refine ⟨c.advance, ?_, hadvance⟩
    rw [numeral, peek_cons h]
    simp only [atDigit_of_ends hends]
    exact numberTail_of_ends hends negative 0 hn
  · obtain ⟨d, ds, hdigits, hd⟩ := toDigits_head n hpos
    have hall : ∀ x ∈ Nat.toDigits 10 n, x.isDigit = true := fun x hx =>
      Nat.isDigit_of_mem_toDigits (by decide) (by decide) hx
    obtain ⟨htaken, hleft⟩ := digits_append h hall (not_isDigit_of_ends hrest)
    have hends : Ends c.digits.2.rest := by rwa [hleft]
    have hgather : gather 0 c.digits.1 = (n, []) := by
      rw [htaken, gather_of_le _ _ (by rwa [Nat.ofDigitChars_ten_toDigits]),
        Nat.ofDigitChars_ten_toDigits]
    refine ⟨c.digits.2, ?_, hleft⟩
    rw [hdigits] at h
    rw [numeral, peek_cons h]
    split
    · next heq => cases heq
    · next heq => exact absurd (Option.some.inj heq) hd
    · next heq =>
      cases heq
      rw [if_pos (hall _ (hdigits ▸ List.mem_cons_self))]
      simp only [hgather]
      exact numberTail_of_ends hends negative n hn

/-- A whole number of 64 bits is read back. -/
theorem number_takes (n : Int) (hl : -9223372036854775808 ≤ n) (hr : n ≤ 18446744073709551615) :
    Takes number n.repr.toList (.integer n) := by
  intro c rest h hrest
  rw [number_eq]
  cases n with
  | ofNat n =>
    have h : c.rest = Nat.toDigits 10 n ++ rest := by rw [h, ← Nat.toList_repr]; rfl
    have hle : n ≤ Text.maxUnsigned64 := Int.ofNat_le.mp hr
    have hminus : c.peek ≠ some '-' := by
      intro hpeek
      have hmem : '-' ∈ Nat.toDigits 10 n := by
        cases hdigits : Nat.toDigits 10 n with
        | nil => exact absurd hdigits Nat.toDigits_ne_nil
        | cons d ds =>
          rw [hdigits] at h
          cases (peek_cons h).symm.trans hpeek
          exact List.mem_cons_self
      cases Nat.isDigit_of_mem_toDigits (by decide) (by decide) hmem
    rw [if_neg hminus]
    exact numeral_toDigits h hrest hle nofun
  | negSucc n =>
    have hle : n + 1 ≤ 9223372036854775808 := by omega
    have h : c.rest = '-' :: (Nat.toDigits 10 (n + 1) ++ rest) := by
      rw [h, ← Nat.toList_repr]
      exact congrArg (· ++ rest) String.toList_append
    rw [if_pos (peek_cons h)]
    exact numeral_toDigits (rest_advance h) hrest (Nat.le_trans hle (by decide))
      fun _ => ⟨Nat.succ_pos n, hle⟩

/-! ### Lists -/

/-- Texts with a comma between each two, or in front of each if they are not the first ones. -/
def joined : (first : Bool) → List (List Char) → List Char
  | _, [] => []
  | true, text :: texts => text ++ joined false texts
  | false, text :: texts => ',' :: (text ++ joined false texts)

theorem intercalate_eq_joined (texts : List (List Char)) :
    [','].intercalate texts = joined true texts := by
  cases texts with
  | nil => rfl
  | cons text texts =>
    rw [joined]
    induction texts generalizing text with
    | nil => simp [joined]
    | cons other texts ih =>
      rw [List.intercalate_cons_cons, ih, joined, List.append_assoc]
      rfl

theorem length_le_joined (first : Bool) (texts : List (List Char)) :
    texts.length ≤ (joined first texts).length + 1 := by
  have hfalse : ∀ texts : List (List Char), texts.length ≤ (joined false texts).length := by
    intro texts
    induction texts with
    | nil => exact Nat.le_refl 0
    | cons text texts ih =>
      rw [joined, List.length_cons, List.length_cons, List.length_append]
      omega
  cases first with
  | false => exact Nat.le_succ_of_le (hfalse texts)
  | true =>
    cases texts with
    | nil => exact Nat.zero_le _
    | cons text texts =>
      have hrest := hfalse texts
      rw [joined, List.length_cons, List.length_append]
      omega

/-- What follows a value in a list or an object may follow a value. -/
theorem ends_joined {close : Char} (h : close = ']' ∨ close = '\x7d') (texts : List (List Char)) :
    Ends (joined false texts ++ close :: rest) := by
  intro x hx
  cases texts with
  | nil =>
    cases hx
    exact .inr h
  | cons text texts =>
    cases hx
    exact .inl rfl

/-- Behind the comma, if there is one, the next item of a list is found. -/
theorem nextItem_joined {first : Bool} {text : List Char} {texts : List (List Char)}
    (begins : Begins text) (h : c.rest = joined first (text :: texts) ++ rest) :
    ∃ c', c.nextItem first = .ok (some c') ∧ c'.rest = text ++ (joined false texts ++ rest) := by
  obtain ⟨x, r, rfl, hblank, hclose, -⟩ := begins
  cases first with
  | true =>
    have h : c.rest = x :: r ++ (joined false texts ++ rest) := h.trans (List.append_assoc ..)
    refine ⟨c, ?_, h⟩
    unfold nextItem
    simp only [skipBlanks_cons h hblank, peek_cons h]
    exact if_pos trivial
  | false =>
    have h : c.rest = ',' :: (x :: r ++ (joined false texts ++ rest)) :=
      h.trans (congrArg (',' :: ·) (List.append_assoc ..))
    have hnext := rest_advance h
    refine ⟨c.advance, ?_, hnext⟩
    unfold nextItem
    simp only [skipBlanks_cons h rfl, peek_cons h, skipBlanks_cons hnext hblank, peek_cons hnext]
    rfl

theorem nextItem_end (first : Bool) (h : c.rest = ']' :: rest) : c.nextItem first = .ok none := by
  unfold nextItem
  simp only [skipBlanks_cons h rfl, peek_cons h]

theorem endList_cons (h : c.rest = ']' :: rest) : c.endList = .ok c.advance := by
  unfold endList
  simp only [skipBlanks_cons h rfl, peek_cons h]

/-- The items of a list are read back one by one. -/
theorem items_joined {α β : Type} {item : Cursor → Except Located (α × Cursor)}
    {text : β → List Char} {value : β → α} : ∀ (bs : List β),
      (∀ b ∈ bs, Begins (text b) ∧ Takes item (text b) (value b)) →
        ∀ (fuel : Nat) (first : Bool) (done : List α) (c : Cursor),
          c.rest = joined first (bs.map text) ++ ']' :: rest → bs.length < fuel →
            ∃ c', items item fuel first done c = .ok (done.reverse ++ bs.map value, c') ∧
              c'.rest = ']' :: rest
  | _, _, 0, _, _, _, _, hfuel => absurd hfuel (Nat.not_lt_zero _)
  | [], _, fuel + 1, first, done, c, h, _ => by
    have h : c.rest = ']' :: rest := by rw [h, List.map_nil, joined, List.nil_append]
    refine ⟨c, ?_, h⟩
    rw [items, nextItem_end first h, List.map_nil, List.append_nil]
    rfl
  | b :: bs, hbs, fuel + 1, first, done, c, h, hfuel => by
    obtain ⟨⟨hbegins, htakes⟩, hbs⟩ := List.forall_mem_cons.mp hbs
    obtain ⟨c₁, hnext, htext⟩ := nextItem_joined hbegins h
    obtain ⟨c₂, hread, hrest⟩ := htakes c₁ _ htext (ends_joined (.inl rfl) _)
    obtain ⟨c', hitems, hend⟩ := items_joined bs hbs fuel false (value b :: done) c₂ hrest
      (Nat.lt_of_succ_lt_succ hfuel)
    refine ⟨c', ?_, hend⟩
    rw [items, hnext]
    simp only [bind, Except.bind, hread, hitems, List.reverse_cons, List.append_assoc]
    rfl

/-! ### Objects -/

/-- The text of a member of an object: its name, a colon and the text of its value. -/
def memberText (m : String × List Char) : List Char :=
  (Json.renderString m.1).toList ++ ':' :: m.2

theorem toList_renderString (s : String) :
    (Json.renderString s).toList = '"' :: (s.toList.flatMap Json.escape ++ ['"']) :=
  String.toList_ofList

/-- Behind the comma, if there is one, the name of the next member of an object is read. -/
theorem nextKey_joined {first : Bool} {m : String × List Char} {texts : List (List Char)}
    (h : c.rest = joined first (memberText m :: texts) ++ rest) :
    ∃ c', c.nextKey first = .ok (some (m.1, c')) ∧
      c'.rest = ':' :: (m.2 ++ (joined false texts ++ rest)) := by
  have hname {c : Cursor} (h : c.rest = memberText m ++ (joined false texts ++ rest)) :
      c.peek = some '"' ∧ c.skipBlanks = c ∧ ∃ c', c.advance.string = .ok (m.1, c') ∧
        c'.rest = ':' :: (m.2 ++ (joined false texts ++ rest)) := by
    rw [memberText, toList_renderString] at h
    refine ⟨peek_cons h, skipBlanks_cons h rfl, string_append ((rest_advance h).trans ?_)⟩
    simp
  cases first with
  | true =>
    obtain ⟨hpeek, hblanks, c', hread, hrest⟩ := hname (h.trans (List.append_assoc ..))
    refine ⟨c', ?_, hrest⟩
    unfold nextKey
    simp only [hblanks, hpeek, hread]
    rfl
  | false =>
    have h : c.rest = ',' :: (memberText m ++ (joined false texts ++ rest)) :=
      h.trans (congrArg (',' :: ·) (List.append_assoc ..))
    obtain ⟨hpeek, hblanks, c', hread, hrest⟩ := hname (rest_advance h)
    refine ⟨c', ?_, hrest⟩
    unfold nextKey
    simp only [skipBlanks_cons h rfl, peek_cons h, hblanks, hpeek, hread]
    rfl

theorem nextKey_end (first : Bool) (h : c.rest = '\x7d' :: rest) :
    c.nextKey first = .ok none := by
  unfold nextKey
  simp only [skipBlanks_cons h rfl, peek_cons h]

theorem colon_cons (h : c.rest = ':' :: rest) : c.colon = .ok c.advance := by
  unfold colon
  simp only [skipBlanks_cons h rfl, peek_cons h]

theorem endObject_cons (h : c.rest = '\x7d' :: rest) : c.endObject = .ok c.advance := by
  unfold endObject
  simp only [skipBlanks_cons h rfl, peek_cons h]

variable {σ : Type} {step : String → σ → Cursor → Except Located (σ × Cursor)}

/-- A step takes the text of the value of a member, behind a colon, from one state to another. -/
def TakesMember (step : String → σ → Cursor → Except Located (σ × Cursor)) (m : String × List Char)
    (s s' : σ) : Prop :=
  ∀ (c : Cursor) (rest : List Char), c.rest = ':' :: (m.2 ++ rest) → Ends rest →
    ∃ c', step m.1 s c = .ok (s', c') ∧ c'.rest = rest

/-- A step takes members one by one from one state to another. -/
inductive TakesMembers (step : String → σ → Cursor → Except Located (σ × Cursor)) :
    List (String × List Char) → σ → σ → Prop
  | nil (s : σ) : TakesMembers step [] s s
  | cons {m : String × List Char} {ms : List (String × List Char)} {s s' s'' : σ}
      (first : TakesMember step m s s') (rest : TakesMembers step ms s' s'') :
      TakesMembers step (m :: ms) s s''

/-- The members of an object are read back one by one. -/
theorem members_joined {ms : List (String × List Char)} {s s' : σ}
    (hms : TakesMembers step ms s s') : ∀ (fuel : Nat) (first : Bool) (c : Cursor),
      c.rest = joined first (ms.map memberText) ++ '\x7d' :: rest → ms.length < fuel →
        ∃ c', members step fuel first s c = .ok (s', c') ∧ c'.rest = '\x7d' :: rest := by
  -- By induction on the members: each takes one step of fuel and leaves the cursor at the next.
  induction hms with
  | nil s =>
    intro fuel first c h hfuel
    have h : c.rest = '\x7d' :: rest := by rw [h, List.map_nil, joined, List.nil_append]
    refine ⟨c, ?_, h⟩
    cases fuel with
    | zero => exact absurd hfuel (Nat.not_lt_zero _)
    | succ fuel =>
      rw [members, nextKey_end first h]
      rfl
  | cons htakes _ ih =>
    intro fuel first c h hfuel
    cases fuel with
    | zero => exact absurd hfuel (Nat.not_lt_zero _)
    | succ fuel =>
      obtain ⟨c₁, hkey, hcolon⟩ := nextKey_joined h
      obtain ⟨c₂, hstep, hrest⟩ := htakes c₁ _ hcolon (ends_joined (.inr rfl) _)
      obtain ⟨c', hmembers, hend⟩ := ih fuel false c₂ hrest (Nat.lt_of_succ_lt_succ hfuel)
      refine ⟨c', ?_, hend⟩
      rw [members, hkey]
      simp only [bind, Except.bind, hstep, hmembers]

end Cursor

end ClusterOperator
