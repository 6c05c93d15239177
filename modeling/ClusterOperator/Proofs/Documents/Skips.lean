import ClusterOperator.Proofs.Documents.Cursors
import ClusterOperator.Proofs.Documents.Records

/-!
# Values that are passed over

A value that nobody asks for is passed over step by step, with the lists and objects that are open
around the place reached. How a value is passed over does not depend on what is open around it, and
the steps that it takes are bounded by its text. So passing over a value is a matter of two places:
where it starts and where it ends.

## Main definitions

* `Cursor.SkipsTo`: how far the scanner comes inside a string.
* `Cursor.skipFirst`, `Cursor.skipNext`: the first step over a value, and the next one in a frame.
* `Cursor.Passes`: a value stands between two places.
* `Cursor.Closes`: the rest of an open list or object stands between two places.

## Main results

* `Cursor.skipString_of_stringTail`, `Cursor.skipNumber_of_numeral`: strings and whole numbers that
  are read are passed over.
* `Cursor.passes_of_opened`, `Cursor.closes_of_next`: values are passed over frame by frame.
* `Cursor.skipValue_eq_ok`: what is passed over is what stands between two places.
-/

namespace ClusterOperator

namespace Cursor

/-! ### Places -/

variable {c c₁ c₂ c' : Cursor} {x : Char}

theorem rest_advance_eq (c : Cursor) : c.advance.rest = c.rest.tail := by
  unfold advance
  split <;> next h => rw [h]; rfl

/-- A character that is seen and taken is no longer left. -/
theorem length_advance (h : c.peek = some x) : c.advance.rest.length + 1 = c.rest.length := by
  rw [rest_advance_eq]
  cases hrest : c.rest with
  | nil => rw [peek, hrest] at h; cases h
  | cons y r => rfl

theorem length_skipBlanks_le (c : Cursor) : c.skipBlanks.rest.length ≤ c.rest.length := by
  rw [skipBlanks, rest_dropWhile]
  exact (List.dropWhile_suffix _).length_le

/-- What follows the blanks is no blank. -/
theorem isJsonBlank_of_peek_skipBlanks (h : c.skipBlanks.peek = some x) :
    isJsonBlank x = false := by
  rw [peek, skipBlanks, rest_dropWhile] at h
  have hnot := List.head?_dropWhile_not isJsonBlank c.rest
  rw [h] at hnot
  exact hnot

theorem skipBlanks_of_peek (h : ∀ x ∈ c.peek, isJsonBlank x = false) : c.skipBlanks = c := by
  obtain ⟨r, line, column⟩ := c
  cases r with
  | nil => rfl
  | cons x r => exact skipBlanks_cons rfl (h x rfl)

@[simp] theorem skipBlanks_skipBlanks (c : Cursor) : c.skipBlanks.skipBlanks = c.skipBlanks :=
  skipBlanks_of_peek fun _ h => isJsonBlank_of_peek_skipBlanks h

theorem peekFail_ne_ok {α : Type} {p : SyntaxProblem} {a : α} : c.peekFail p ≠ .ok a := by
  unfold peekFail
  split <;> exact fun h => nomatch h

/-- A value starts behind the blanks. -/
theorem start_eq (h : c.start = .ok c') : c' = c.skipBlanks := by
  unfold start at h
  dsimp only at h
  split at h
  · exact absurd h peekFail_ne_ok
  · exact (Except.ok.inj h).symm

theorem ident_length : ∀ {word : List Char} {c : Cursor}, c.ident word = .ok c' →
    c'.rest.length + word.length = c.rest.length
  | [], c, h => by cases h; rfl
  | x :: word, c, h => by
    rw [ident] at h
    split at h
    · cases h
    · next hpeek =>
      split at h
      · have hword := ident_length h
        have hx := length_advance hpeek
        rw [List.length_cons]
        omega
      · cases h

/-! ### Strings -/

theorem hexEscape_length {n : Nat} (h : c.hexEscape = .ok (n, c')) :
    c'.rest.length + 4 = c.rest.length := by
  unfold hexEscape at h
  split at h
  · next w x y z htake =>
    split at h
    · cases h
      have hlength := congrArg List.length htake
      rw [List.length_take] at hlength
      simp only [rest_advance_eq, List.length_tail, List.length_cons, List.length_nil] at hlength ⊢
      omega
    · cases h
  · split at h <;> cases h

/-- Inside a string the scanner comes from one place to another one further on, with fuel left. -/
structure SkipsTo (c c' : Cursor) : Prop where
  length_lt : c'.rest.length < c.rest.length
  skips : ∀ fuel, c.rest.length < fuel →
    ∃ fuel', c'.rest.length < fuel' ∧ skipString fuel c = skipString fuel' c'

theorem SkipsTo.of_step (hlength : c'.rest.length < c.rest.length)
    (hstep : ∀ fuel, skipString (fuel + 1) c = skipString fuel c') : SkipsTo c c' := by
  refine ⟨hlength, fun fuel hfuel => ⟨fuel - 1, by omega, ?_⟩⟩
  obtain ⟨fuel, rfl⟩ : ∃ n, fuel = n + 1 := ⟨fuel - 1, by omega⟩
  exact hstep fuel

theorem SkipsTo.trans (h₁ : SkipsTo c c₁) (h₂ : SkipsTo c₁ c₂) : SkipsTo c c₂ := by
  refine ⟨Nat.lt_trans h₂.length_lt h₁.length_lt, fun fuel hfuel => ?_⟩
  obtain ⟨fuel₁, hfuel₁, hskip₁⟩ := h₁.skips fuel hfuel
  obtain ⟨fuel₂, hfuel₂, hskip₂⟩ := h₂.skips fuel₁ hfuel₁
  exact ⟨fuel₂, hfuel₂, hskip₁.trans hskip₂⟩

theorem skipsTo_of_visible (hpeek : c.peek = some x) (hquote : x ≠ '"') (hslash : x ≠ '\\')
    (hvisible : ¬ x.toNat < 32) : SkipsTo c c.advance := by
  have hc := length_advance hpeek
  refine .of_step (by omega) fun fuel => ?_
  rw [skipString]
  simp only [hpeek, if_neg hvisible]

theorem skipsTo_of_unicode {n : Nat} (hslash : c.peek = some '\\')
    (hletter : c.advance.peek = some 'u') (hhex : c.advance.advance.hexEscape = .ok (n, c')) :
    SkipsTo c c' := by
  have hc := length_advance hslash
  have hu := length_advance hletter
  have hc' := hexEscape_length hhex
  refine .of_step (by omega) fun fuel => ?_
  rw [skipString]
  simp only [hslash, hletter, hhex]
  rfl

/-- An escape that is read is passed over, whatever it stands for. A surrogate pair is one character
and two escapes. -/
theorem skipsTo_of_escaped (hslash : c.peek = some '\\') (h : c.advance.escaped = .ok (x, c')) :
    SkipsTo c c' := by
  unfold escaped at h
  split at h
  · cases h
  · next hletter =>
    unfold unicodeEscape at h
    obtain ⟨⟨n, c₂⟩, hhex, h⟩ := bind_eq_ok.mp h
    have hfirst := skipsTo_of_unicode hslash hletter hhex
    dsimp only at h
    split at h
    · cases h
    split at h
    · cases h
      exact hfirst
    split at h
    · cases h
    · next hslash₂ =>
      split at h
      · cases h
      · next hletter₂ =>
        obtain ⟨⟨m, c₃⟩, hhex₂, h⟩ := bind_eq_ok.mp h
        have hsecond := skipsTo_of_unicode hslash₂ hletter₂ hhex₂
        dsimp only at h
        split at h
        · obtain ⟨-, rfl⟩ := Prod.mk.inj (Except.ok.inj h)
          exact hfirst.trans hsecond
        · cases h
      · cases h
    · cases h
  · next y hne hletter =>
    have hc := length_advance hslash
    have hy := length_advance hletter
    split at h
    · next z hshort =>
      cases h
      refine .of_step (by omega) fun fuel => ?_
      rw [skipString]
      simp only [hslash, hletter, hshort, Option.isSome_some, if_true]
    · cases h

/-- A string that is read is passed over. -/
theorem skipString_of_stringTail {s : String} : ∀ {fuel : Nat} {done : List Char} {c : Cursor},
    stringTail fuel done c = .ok (s, c') → c'.rest.length < c.rest.length ∧
      ∀ fuel', c.rest.length < fuel' → skipString fuel' c = .ok c'
  | 0, _, _, h => by cases h
  | fuel + 1, done, c, h => by
    have hgoes {d : Cursor} (hto : SkipsTo c d) {done : List Char}
        (h : stringTail fuel done d = .ok (s, c')) : c'.rest.length < c.rest.length ∧
          ∀ fuel', c.rest.length < fuel' → skipString fuel' c = .ok c' := by
      obtain ⟨hlength, hskip⟩ := skipString_of_stringTail h
      refine ⟨Nat.lt_trans hlength hto.length_lt, fun fuel' hfuel => ?_⟩
      obtain ⟨fuel₂, hfuel₂, heq⟩ := hto.skips fuel' hfuel
      exact heq.trans (hskip fuel₂ hfuel₂)
    rw [stringTail] at h
    split at h
    · cases h
    · next hpeek =>
      have hc := length_advance hpeek
      cases h
      refine ⟨by omega, fun fuel' hfuel => ?_⟩
      obtain ⟨fuel', rfl⟩ : ∃ n, fuel' = n + 1 := ⟨fuel' - 1, by omega⟩
      rw [skipString]
      simp only [hpeek]
    · next hpeek =>
      obtain ⟨⟨x, d⟩, hescaped, h⟩ := bind_eq_ok.mp h
      exact hgoes (skipsTo_of_escaped hpeek hescaped) h
    · next x hquote hslash hpeek =>
      split at h
      · cases h
      · next hvisible => exact hgoes (skipsTo_of_visible hpeek hquote hslash hvisible) h

theorem length_of_skipString : ∀ {fuel : Nat} {c : Cursor}, skipString fuel c = .ok c' →
    c'.rest.length < c.rest.length
  | 0, _, h => by cases h
  | fuel + 1, c, h => by
    rw [skipString] at h
    split at h
    · cases h
    · next hpeek =>
      have hc := length_advance hpeek
      cases h
      omega
    · next hslash =>
      have hc := length_advance hslash
      dsimp only at h
      split at h
      · cases h
      · next hletter =>
        have hu := length_advance hletter
        obtain ⟨⟨n, c₂⟩, hhex, h⟩ := bind_eq_ok.mp h
        have hc₂ := hexEscape_length hhex
        have ih : c'.rest.length < c₂.rest.length := length_of_skipString h
        omega
      · next hletter =>
        have hy := length_advance hletter
        split at h
        · have ih := length_of_skipString h
          omega
        · cases h
    · next hpeek =>
      have hc := length_advance hpeek
      split at h
      · cases h
      · have ih := length_of_skipString h
        omega

/-! ### Numbers -/

theorem length_digits (h : c.atDigit = true) : c.digits.2.rest.length < c.rest.length := by
  show (dropWhile Char.isDigit c.rest c.line c.column).rest.length < _
  rw [rest_dropWhile]
  unfold atDigit peek at h
  cases hrest : c.rest with
  | nil => rw [hrest] at h; cases h
  | cons d r =>
    rw [hrest] at h
    have hd : d.isDigit = true := h
    rw [List.dropWhile_cons, if_pos hd]
    exact Nat.lt_succ_of_le (List.dropWhile_suffix _).length_le

theorem length_of_skipExponent (h : c.skipExponent = .ok c') :
    c'.rest.length < c.rest.length := by
  have hsign : (if c.peek = some '+' ∨ c.peek = some '-' then c.advance else c).rest.length ≤
      c.rest.length := by
    split
    · rw [rest_advance_eq, List.length_tail]
      exact Nat.sub_le _ _
    · exact Nat.le_refl _
  unfold skipExponent at h
  dsimp only at h
  generalize (if c.peek = some '+' ∨ c.peek = some '-' then c.advance else c) = d at h hsign
  split at h
  · next hdigit =>
    cases h
    exact Nat.lt_of_lt_of_le (length_digits hdigit) hsign
  · cases h

/-- Passes over the whole part of a number. -/
def skipWhole (c : Cursor) : Except Located Cursor :=
  match c.peek with
  | some '0' => if c.advance.atDigit then c.advance.peekFail .invalidNumber else .ok c.advance
  | _ => if c.atDigit then .ok (digits c).2 else c.advance.fail .invalidNumber

/-- Passes over what follows the whole part of a number. -/
def skipRest (c : Cursor) : Except Located Cursor :=
  match c.peek with
  | some '.' =>
    let c := c.advance
    if c.atDigit then
      let c := (digits c).2
      if c.peek = some 'e' ∨ c.peek = some 'E' then c.advance.skipExponent else .ok c
    else c.peekFail .invalidNumber
  | some 'e' | some 'E' => c.advance.skipExponent
  | _ => .ok c

theorem skipWhole_of_zero (h : c.peek = some '0') :
    c.skipWhole =
      if c.advance.atDigit then c.advance.peekFail .invalidNumber else .ok c.advance := by
  unfold skipWhole
  split
  · rfl
  · next hne => exact absurd h hne

theorem skipWhole_of_ne (h : c.peek ≠ some '0') :
    c.skipWhole = if c.atDigit then .ok (digits c).2 else c.advance.fail .invalidNumber := by
  unfold skipWhole
  split
  · next hzero => exact absurd hzero h
  · rfl

theorem skipRest_of_ne (hpoint : c.peek ≠ some '.') (he : c.peek ≠ some 'e')
    (hE : c.peek ≠ some 'E') : c.skipRest = .ok c := by
  unfold skipRest
  split
  · next hpeek => exact absurd hpeek hpoint
  · next hpeek => exact absurd hpeek he
  · next hpeek => exact absurd hpeek hE
  · rfl

theorem skipNumber_eq (c : Cursor) : c.skipNumber = c.skipWhole >>= skipRest := by
  by_cases hzero : c.peek = some '0'
  · rw [skipWhole_of_zero hzero]
    unfold skipNumber
    split
    · cases c.advance.atDigit <;> rfl
    · next hpeek => exact absurd hzero hpeek
  · rw [skipWhole_of_ne hzero]
    unfold skipNumber
    split
    · next hpeek => exact absurd hpeek hzero
    · split <;> rfl

theorem length_of_skipNumber (h : c.skipNumber = .ok c') : c'.rest.length < c.rest.length := by
  rw [skipNumber_eq] at h
  obtain ⟨d, hd, h⟩ := bind_eq_ok.mp h
  have hwhole : d.rest.length < c.rest.length := by
    unfold skipWhole at hd
    split at hd
    · next hpeek =>
      have hc := length_advance hpeek
      split at hd
      · exact absurd hd peekFail_ne_ok
      · cases hd
        omega
    · split at hd
      · next hdigit =>
        cases hd
        exact length_digits hdigit
      · cases hd
  unfold skipRest at h
  split at h
  · next hpoint =>
    have hc := length_advance hpoint
    dsimp only at h
    split at h
    · next hdigit =>
      have hfraction := length_digits hdigit
      split at h
      · next hletter =>
        have hexponent := length_of_skipExponent h
        rcases hletter with hletter | hletter
        · have hadvance := length_advance hletter
          omega
        · have hadvance := length_advance hletter
          omega
      · cases h
        omega
    · exact absurd h peekFail_ne_ok
  · next hletter =>
    have hc := length_advance hletter
    have hexponent := length_of_skipExponent h
    omega
  · next hletter =>
    have hc := length_advance hletter
    have hexponent := length_of_skipExponent h
    omega
  · cases h
    exact hwhole

section Integers

variable {negative : Bool} {significand dropped : Nat} {start n : Int}

theorem real_ne_integer : c.real negative significand start ≠ .ok (.integer n, c') := by
  unfold real
  split <;> exact fun h => nomatch h

/-- The exponent part of a number behind its sign. -/
def scaled (c : Cursor) (down negative : Bool) (significand : Nat) (start : Int) :
    Except Located (Number × Cursor) :=
  match c.peek with
  | none => c.fail .endInValue
  | some d =>
    if d.isDigit then
      let (e, fits, c) := exponentDigits 0 (c.rest.length + 1) c
      if fits then real c negative significand (if down then start - e else start + e)
      else if significand ≠ 0 ∧ !down then c.fail .numberOutOfRange
      else real (digits c).2 negative 0 0
    else c.advance.fail .invalidNumber

theorem exponentPart_ne_integer :
    c.exponentPart negative significand start ≠ .ok (.integer n, c') := by
  have hscaled : ∃ (d : Cursor) (down : Bool),
      c.exponentPart negative significand start = d.scaled down negative significand start :=
    ⟨_, _, rfl⟩
  obtain ⟨d, down, hscaled⟩ := hscaled
  rw [hscaled]
  unfold scaled
  intro h
  split at h
  · cases h
  · split at h
    · dsimp only at h
      split at h
      · exact real_ne_integer h
      · split at h
        · cases h
        · exact real_ne_integer h
    · cases h

theorem fractionPart_ne_integer :
    c.fractionPart negative significand start ≠ .ok (.integer n, c') := by
  unfold fractionPart
  intro h
  dsimp only at h
  split at h
  · exact peekFail_ne_ok h
  · split at h
    · exact exponentPart_ne_integer h
    · exact exponentPart_ne_integer h
    · exact real_ne_integer h

/-- A whole number ends where its digits end. -/
theorem skipRest_of_numberTail
    (h : c.numberTail negative significand dropped = .ok (.integer n, c')) :
    c.skipRest = .ok c' := by
  unfold numberTail at h
  split at h
  · exact absurd h fractionPart_ne_integer
  · exact absurd h exponentPart_ne_integer
  · exact absurd h exponentPart_ne_integer
  · next hpoint he hE =>
    split at h
    · exact absurd h real_ne_integer
    · have hend : c = c' := by
        split at h
        · exact (Prod.mk.inj (Except.ok.inj h)).2
        · split at h
          · exact (Prod.mk.inj (Except.ok.inj h)).2
          · exact absurd h real_ne_integer
      exact (skipRest_of_ne hpoint he hE).trans (congrArg Except.ok hend)

/-- A whole number that is read is passed over. -/
theorem skipNumber_of_numeral (h : c.numeral negative = .ok (.integer n, c')) :
    c.skipNumber = .ok c' := by
  have hwhole : ∃ d : Cursor, c.skipWhole = .ok d ∧ ∃ significand dropped,
      d.numberTail negative significand dropped = .ok (.integer n, c') := by
    unfold numeral at h
    split at h
    · cases h
    · next hpeek =>
      dsimp only at h
      split at h
      · exact absurd h peekFail_ne_ok
      · next hdigit =>
        exact ⟨c.advance, (skipWhole_of_zero hpeek).trans (if_neg hdigit), _, _, h⟩
    · next d hzero hpeek =>
      split at h
      · next hd =>
        have hdigit : c.atDigit = true := by
          rw [atDigit, hpeek]
          exact hd
        have hne : c.peek ≠ some '0' := fun hpeek' =>
          hzero (Option.some.inj (hpeek.symm.trans hpeek'))
        exact ⟨c.digits.2, (skipWhole_of_ne hne).trans (if_pos hdigit), _, _, h⟩
      · cases h
  obtain ⟨d, hd, significand, dropped, htail⟩ := hwhole
  rw [skipNumber_eq, hd]
  exact skipRest_of_numberTail htail

end Integers

/-! ### Steps of passing over -/

variable {frame : Frame} {frames : List Frame} {opened : Option Frame} {closed after first : Bool}

/-- The first step over a value: it is passed over as a whole, or it is a list or an object and is
opened. -/
def skipFirst (c : Cursor) : Except Located (Option Frame × Cursor) :=
  let c := c.skipBlanks
  match c.peek with
  | none => c.peekFail .endInValue
  | some 'n' => (c.advance.ident ['u', 'l', 'l']).map (none, ·)
  | some 't' => (c.advance.ident ['r', 'u', 'e']).map (none, ·)
  | some 'f' => (c.advance.ident ['a', 'l', 's', 'e']).map (none, ·)
  | some '"' => (skipString (c.rest.length + 1) c.advance).map (none, ·)
  | some '-' => c.advance.skipNumber.map (none, ·)
  | some '[' => .ok (some .list, c.advance)
  | some '\x7b' => .ok (some .object, c.advance)
  | some x => if x.isDigit then c.skipNumber.map (none, ·) else c.peekFail .expectedValue

/-- What stands in front of a value inside a frame: in an object its name and a colon. -/
def skipLabel : Frame → Cursor → Except Located Cursor
  | .list, c => .ok c
  | .object, c => c.skipKey

/-- The next step inside an open frame: it is closed, or another value comes. -/
def skipNext (frame : Frame) (after : Bool) (c : Cursor) : Except Located (Bool × Cursor) :=
  let c := c.skipBlanks
  match c.peek with
  | none => c.peekFail (match frame with | .list => .endInList | .object => .endInObject)
  | some x =>
    if after ∧ x = ',' then (skipLabel frame c.advance).map (false, ·)
    else if x = frame.close then .ok (true, c.advance)
    else if after then
      c.peekFail (match frame with
        | .list => .expectedListCommaOrEnd
        | .object => .expectedObjectCommaOrEnd)
    else (skipLabel frame c).map (false, ·)

theorem map_bind {α β γ : Type} {x : Except Located α} {f : α → β} {g : β → Except Located γ} :
    x.map f >>= g = x >>= fun a => g (f a) := by
  cases x <;> rfl

theorem peekFail_bind {α β : Type} {p : SyntaxProblem} {g : α → Except Located β} :
    c.peekFail p >>= g = c.peekFail p := by
  unfold peekFail
  split <;> rfl

theorem skipFrom_succ (fuel : Nat) (frames : List Frame) (c : Cursor) :
    skipFrom (fuel + 1) frames c = c.skipFirst >>= fun r =>
      match r.1 with
      | none => skipAfter fuel frames true r.2
      | some frame => skipAfter fuel (frame :: frames) false r.2 := by
  rw [skipFrom, skipFirst]
  split <;> next hpeek => (
    try simp only [hpeek]
    first
      | rw [map_bind]
      | rw [peekFail_bind]
      | rfl
      | split
        · rw [map_bind]
        · rw [peekFail_bind])

theorem skipAfter_cons (fuel : Nat) (frame : Frame) (frames : List Frame) (after : Bool)
    (c : Cursor) :
    skipAfter (fuel + 1) (frame :: frames) after c = c.skipNext frame after >>= fun r =>
      if r.1 then skipAfter fuel frames true r.2 else skipFrom fuel (frame :: frames) r.2 := by
  conv =>
    lhs
    unfold skipAfter
  unfold skipNext
  dsimp only
  split
  · next hpeek =>
    try simp only [hpeek]
    refine Eq.trans ?_ peekFail_bind.symm
    cases frame <;> rfl
  · next x hpeek =>
    try simp only [hpeek]
    split
    · refine Eq.trans ?_ map_bind.symm
      cases frame <;> rfl
    · split
      · rfl
      · split
        · refine Eq.trans ?_ peekFail_bind.symm
          cases frame <;> rfl
        · refine Eq.trans ?_ map_bind.symm
          cases frame <;> rfl

/-! ### Progress -/

theorem length_of_colon (h : c.colon = .ok c') : c'.rest.length < c.rest.length := by
  have hblanks := length_skipBlanks_le c
  unfold colon at h
  dsimp only at h
  split at h
  · exact absurd h peekFail_ne_ok
  · next hpeek =>
    have hc := length_advance hpeek
    cases h
    omega
  · exact absurd h peekFail_ne_ok

theorem length_of_skipKey (h : c.skipKey = .ok c') : c'.rest.length < c.rest.length := by
  have hblanks := length_skipBlanks_le c
  unfold skipKey at h
  dsimp only at h
  split at h
  · exact absurd h peekFail_ne_ok
  · next hpeek =>
    obtain ⟨d, hstring, hcolon⟩ := bind_eq_ok.mp h
    have hc := length_advance hpeek
    have hd := length_of_skipString hstring
    have hc' := length_of_colon hcolon
    omega
  · exact absurd h peekFail_ne_ok

theorem length_of_skipLabel (h : skipLabel frame c = .ok c') : c'.rest.length ≤ c.rest.length := by
  cases frame with
  | list => cases h; exact Nat.le_refl _
  | object => exact Nat.le_of_lt (length_of_skipKey h)

theorem length_of_skipFirst (h : c.skipFirst = .ok (opened, c')) :
    c'.rest.length < c.rest.length := by
  have hblanks := length_skipBlanks_le c
  have hwhole {read : Except Located Cursor}
      (hread : ∀ d, read = .ok d → d.rest.length < c.skipBlanks.rest.length)
      (h : read.map (Option.none (α := Frame), ·) = .ok (opened, c')) :
      c'.rest.length < c.rest.length := by
    obtain ⟨d, hd, heq⟩ := map_eq_ok.mp h
    cases heq
    exact Nat.lt_of_lt_of_le (hread _ hd) hblanks
  have hword {word : List Char} {x : Char} (hpeek : c.skipBlanks.peek = some x) (d : Cursor)
      (hd : c.skipBlanks.advance.ident word = .ok d) :
      d.rest.length < c.skipBlanks.rest.length := by
    have hc := length_advance hpeek
    have hident := ident_length hd
    omega
  unfold skipFirst at h
  dsimp only at h
  split at h
  · exact absurd h peekFail_ne_ok
  · next hpeek => exact hwhole (hword hpeek) h
  · next hpeek => exact hwhole (hword hpeek) h
  · next hpeek => exact hwhole (hword hpeek) h
  · next hpeek =>
    refine hwhole (fun d hd => ?_) h
    have hc := length_advance hpeek
    have hstring := length_of_skipString hd
    omega
  · next hpeek =>
    refine hwhole (fun d hd => ?_) h
    have hc := length_advance hpeek
    have hnumber := length_of_skipNumber hd
    omega
  · next hpeek =>
    have hc := length_advance hpeek
    cases h
    omega
  · next hpeek =>
    have hc := length_advance hpeek
    cases h
    omega
  · split at h
    · exact hwhole (fun d hd => length_of_skipNumber hd) h
    · exact absurd h peekFail_ne_ok

/-- A step inside a frame takes something, unless it comes to a first value. -/
theorem length_of_skipNext (h : c.skipNext frame after = .ok (closed, c')) :
    c'.rest.length ≤ c.rest.length ∧
      (after = true ∨ closed = true → c'.rest.length < c.rest.length) := by
  have hblanks := length_skipBlanks_le c
  unfold skipNext at h
  dsimp only at h
  split at h
  · exact absurd h peekFail_ne_ok
  · next x hpeek =>
    have hc := length_advance hpeek
    split at h
    · obtain ⟨d, hd, heq⟩ := map_eq_ok.mp h
      cases heq
      have hlabel := length_of_skipLabel hd
      exact ⟨by omega, fun _ => by omega⟩
    · split at h
      · cases h
        exact ⟨by omega, fun _ => by omega⟩
      · split at h
        · exact absurd h peekFail_ne_ok
        · next hafter =>
          obtain ⟨d, hd, heq⟩ := map_eq_ok.mp h
          cases heq
          have hlabel := length_of_skipLabel hd
          exact ⟨by omega, fun h => (h.elim hafter (fun h => nomatch h)).elim⟩

/-! ### What is passed over -/

/-- A value stands between two places: to pass over it takes a number of steps that the text bounds,
whatever frames are open around it. -/
def Passes (c c' : Cursor) : Prop :=
  ∃ n, n + 1 + 2 * c'.rest.length < 2 * c.rest.length ∧
    ∀ fuel frames, skipFrom (n + fuel + 1) frames c = skipAfter fuel frames true c'

/-- What is left of an open list or object stands between two places. -/
def Closes (frame : Frame) (first : Bool) (c c' : Cursor) : Prop :=
  ∃ n, n + 1 + 2 * c'.rest.length < 2 * c.rest.length ∧
    ∀ fuel frames, skipAfter (n + fuel + 1) (frame :: frames) (!first) c =
      skipAfter fuel frames true c'

/-- A value that needs no frame. -/
theorem passes_of_whole (h : c.skipFirst = .ok (none, c')) : Passes c c' := by
  have hlength := length_of_skipFirst h
  refine ⟨0, by omega, fun fuel frames => ?_⟩
  rw [Nat.zero_add, skipFrom_succ, h]
  rfl

theorem passes_of_opened (h : c.skipFirst = .ok (some frame, c₁))
    (closes : Closes frame true c₁ c') : Passes c c' := by
  have hlength := length_of_skipFirst h
  obtain ⟨n, hn, hskip⟩ := closes
  refine ⟨n + 1, by omega, fun fuel frames => ?_⟩
  rw [skipFrom_succ, h, Nat.add_right_comm]
  exact hskip fuel frames

theorem skipFirst_skipBlanks (c : Cursor) : c.skipBlanks.skipFirst = c.skipFirst := by
  unfold skipFirst
  rw [skipBlanks_skipBlanks]

/-- Blanks in front of a value are passed over with it. -/
theorem Passes.of_skipBlanks (h : Passes c.skipBlanks c') : Passes c c' := by
  have hblanks := length_skipBlanks_le c
  obtain ⟨n, hn, hskip⟩ := h
  refine ⟨n, by omega, fun fuel frames => ?_⟩
  rw [← hskip fuel frames, skipFrom_succ, skipFrom_succ, skipFirst_skipBlanks]

theorem closes_of_end (h : c.skipNext frame (!first) = .ok (true, c')) :
    Closes frame first c c' := by
  have hlength := (length_of_skipNext h).2 (.inr rfl)
  refine ⟨0, by omega, fun fuel frames => ?_⟩
  rw [Nat.zero_add, skipAfter_cons, h]
  rfl

theorem closes_of_next (h : c.skipNext frame (!first) = .ok (false, c₁)) (passes : Passes c₁ c₂)
    (closes : Closes frame false c₂ c') : Closes frame first c c' := by
  have hlength := (length_of_skipNext h).1
  obtain ⟨n, hn, hfrom⟩ := passes
  obtain ⟨m, hm, hafter⟩ := closes
  refine ⟨n + m + 2, by omega, fun fuel frames => ?_⟩
  have hfuel : n + m + 2 + fuel = n + (m + fuel + 1) + 1 := by omega
  rw [skipAfter_cons, h, hfuel]
  exact (hfrom (m + fuel + 1) (frame :: frames)).trans (hafter fuel frames)

/-- Only the next step inside a frame depends on whether a value has come before. -/
theorem Closes.congr {other : Bool} (closes : Closes frame other c c')
    (h : c.skipNext frame (!first) = c.skipNext frame (!other)) : Closes frame first c c' := by
  obtain ⟨n, hn, hskip⟩ := closes
  refine ⟨n, hn, fun fuel frames => ?_⟩
  rw [← hskip fuel frames, skipAfter_cons, skipAfter_cons, h]

/-- What is passed over inside some frames is passed over in the same way inside more frames. -/
theorem exists_steps : ∀ fuel,
    (∀ (inner : List Frame) (c c' : Cursor), skipFrom fuel inner c = .ok c' →
      ∃ n, n + 1 + 2 * c'.rest.length < 2 * c.rest.length ∧ ∀ fuel outer,
        skipFrom (n + fuel + 1) (inner ++ outer) c = skipAfter fuel outer true c') ∧
    (∀ (inner : List Frame) (after : Bool) (c c' : Cursor), (inner = [] → after = true) →
      skipAfter fuel inner after c = .ok c' →
      ∃ n, n + 2 * c'.rest.length ≤ 2 * c.rest.length ∧ ∀ fuel outer,
        skipAfter (n + fuel) (inner ++ outer) after c = skipAfter fuel outer true c')
  | 0 => ⟨(fun _ _ _ h => nomatch h), (fun _ _ _ _ _ h => nomatch h)⟩
  | fuel + 1 => by
    obtain ⟨ihFrom, ihAfter⟩ := exists_steps fuel
    constructor
    · intro inner c c' h
      rw [skipFrom_succ] at h
      obtain ⟨⟨opened, d⟩, hfirst, h⟩ := bind_eq_ok.mp h
      have hlength := length_of_skipFirst hfirst
      cases opened with
      | none =>
        obtain ⟨n, hn, hskip⟩ := ihAfter inner true d c' (fun _ => rfl) h
        refine ⟨n, by omega, fun fuel outer => ?_⟩
        rw [skipFrom_succ, hfirst]
        exact hskip fuel outer
      | some frame =>
        obtain ⟨n, hn, hskip⟩ := ihAfter (frame :: inner) false d c' (fun h => nomatch h) h
        refine ⟨n, by omega, fun fuel outer => ?_⟩
        rw [skipFrom_succ, hfirst]
        exact hskip fuel outer
    · intro inner after c c' hafter h
      cases inner with
      | nil =>
        cases hafter rfl
        have hsame : c = c' := by
          unfold skipAfter at h
          exact Except.ok.inj h
        subst hsame
        exact ⟨0, by omega, fun fuel outer => by rw [Nat.zero_add, List.nil_append]⟩
      | cons frame inner =>
        rw [skipAfter_cons] at h
        obtain ⟨⟨closed, d⟩, hnext, h⟩ := bind_eq_ok.mp h
        obtain ⟨hle, hlt⟩ := length_of_skipNext hnext
        cases closed with
        | true =>
          have hlt := hlt (.inr rfl)
          obtain ⟨n, hn, hskip⟩ := ihAfter inner true d c' (fun _ => rfl) h
          refine ⟨n + 1, by omega, fun fuel outer => ?_⟩
          rw [Nat.add_right_comm, List.cons_append, skipAfter_cons, hnext]
          exact hskip fuel outer
        | false =>
          obtain ⟨n, hn, hskip⟩ := ihFrom (frame :: inner) d c' h
          refine ⟨n + 1 + 1, by omega, fun fuel outer => ?_⟩
          have hfuel : n + 1 + 1 + fuel = n + fuel + 1 + 1 := by omega
          rw [hfuel, List.cons_append, skipAfter_cons, hnext]
          exact hskip fuel outer

/-- A value is passed over exactly if it stands between the two places. -/
theorem skipValue_eq_ok : c.skipValue = .ok c' ↔ Passes c c' := by
  constructor
  · intro h
    exact (exists_steps _).1 [] c c' h
  · rintro ⟨n, hn, hskip⟩
    have hfuel : 2 * c.rest.length + 2 = n + ((2 * c.rest.length - n) + 1) + 1 := by omega
    rw [skipValue, hfuel, hskip]
    unfold skipAfter
    rfl

end Cursor

end ClusterOperator
