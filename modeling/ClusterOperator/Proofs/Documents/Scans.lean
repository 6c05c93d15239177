import ClusterOperator.Proofs.Documents.Skips
import ClusterOperator.Proofs.Documents.Texts

/-!
# What is read is passed over

The typed readers accept no text that is not well formed: wherever one of them reads a value, a
reader that does not look at the value passes over it and stops at the same place. The readers go
other ways about it; a surrogate pair is one character to read and two escapes to pass over, and the
fields of a record may be listed.

## Main definitions

* `Cursor.Skips`, `Cursor.SkipsMember`: what a reader reads is passed over.

## Main results

* `Cursor.closes_of_items`, `Cursor.closes_of_members`: lists and objects that are read.
* `Shape.scan_skips`: the text of every plain shape.
-/

namespace ClusterOperator

open Cursor

namespace Cursor

variable {c c₁ c₂ c' : Cursor} {first : Bool}

/-- Where a reader reads a value, the value is passed over. -/
def Skips {α : Type} (read : Cursor → Except Located (α × Cursor)) : Prop :=
  ∀ (c : Cursor) (a : α) (c' : Cursor), read c = .ok (a, c') → Passes c c'

/-- Where a member is taken, its colon and its value are passed over. -/
def SkipsMember {σ : Type} (step : String → σ → Cursor → Except Located (σ × Cursor)) : Prop :=
  ∀ (name : String) (s : σ) (c : Cursor) (s' : σ) (c' : Cursor),
    step name s c = .ok (s', c') → ∃ d, c.colon = .ok d ∧ Passes d c'

/-! ### Single values -/

theorem passes_of_start (h : c.start = .ok c₁) (passes : Passes c₁ c') : Passes c c' :=
  .of_skipBlanks (start_eq h ▸ passes)

/-- Where a value starts there are no blanks left. -/
theorem skipBlanks_of_start (h : c.start = .ok c₁) : c₁.skipBlanks = c₁ := by
  rw [start_eq h, skipBlanks_skipBlanks]

theorem passes_of_string {s : String} (hblanks : c.skipBlanks = c) (hpeek : c.peek = some '"')
    (h : c.advance.string = .ok (s, c')) : Passes c c' := by
  have hc := length_advance hpeek
  refine passes_of_whole ?_
  unfold skipFirst
  simp only [hblanks, hpeek]
  rw [(skipString_of_stringTail h).2 _ (by omega)]
  rfl

theorem passes_of_null (hblanks : c.skipBlanks = c) (hpeek : c.peek = some 'n')
    (h : c.advance.ident ['u', 'l', 'l'] = .ok c') : Passes c c' := by
  refine passes_of_whole ?_
  unfold skipFirst
  simp only [hblanks, hpeek, h]
  rfl

theorem passes_of_null? (h : c.null? = .ok (some c')) : Passes c c' := by
  unfold null? at h
  dsimp only at h
  split at h
  · next hpeek =>
    obtain ⟨d, hd, heq⟩ := map_eq_ok.mp h
    cases heq
    exact .of_skipBlanks (passes_of_null (skipBlanks_skipBlanks c) hpeek hd)
  · cases h

/-- A number without a sign begins with its first digit. -/
theorem skipFirst_of_atDigit (hblanks : c.skipBlanks = c) (h : c.atDigit = true) :
    c.skipFirst = c.skipNumber.map (none, ·) := by
  have hother {x : Char} (hpeek : c.peek = some x) (hx : x.isDigit = false) : False := by
    rw [atDigit, hpeek] at h
    exact Bool.false_ne_true (hx.symm.trans h)
  unfold skipFirst
  dsimp only
  rw [hblanks]
  split
  · next hpeek =>
    rw [atDigit, hpeek] at h
    cases h
  · next hpeek => exact (hother hpeek rfl).elim
  · next hpeek => exact (hother hpeek rfl).elim
  · next hpeek => exact (hother hpeek rfl).elim
  · next hpeek => exact (hother hpeek rfl).elim
  · next hpeek => exact (hother hpeek rfl).elim
  · next hpeek => exact (hother hpeek rfl).elim
  · next hpeek => exact (hother hpeek rfl).elim
  · next hpeek =>
    rw [atDigit, hpeek] at h
    exact if_pos h

theorem passes_of_integer {n : Int} (hblanks : c.skipBlanks = c)
    (hpeek : c.peek = some '-' ∨ c.atDigit = true) (h : c.number = .ok (.integer n, c')) :
    Passes c c' := by
  refine passes_of_whole ?_
  rw [number_eq] at h
  split at h
  · next hminus =>
    unfold skipFirst
    simp only [hblanks, hminus]
    rw [skipNumber_of_numeral h]
    rfl
  · next hminus =>
    rw [skipFirst_of_atDigit hblanks (hpeek.resolve_left hminus), skipNumber_of_numeral h]
    rfl

theorem scanText_skips (expected : String) : Skips (scanText expected) := by
  intro c s c' h
  obtain ⟨d, hstart, h⟩ := bind_eq_ok.mp h
  split at h
  · next hpeek =>
    exact passes_of_start hstart (passes_of_string (skipBlanks_of_start hstart) hpeek h)
  · cases h

theorem scanInteger_skips (w : Width) : Skips (scanInteger w) := by
  intro c v c' h
  obtain ⟨d, hstart, h⟩ := bind_eq_ok.mp h
  split at h
  · next hpeek =>
    obtain ⟨⟨n, c₁⟩, hnumber, h⟩ := bind_eq_ok.mp h
    obtain ⟨v, hv, h⟩ := bind_eq_ok.mp h
    cases h
    refine passes_of_start hstart ?_
    cases n with
    | integer n => exact passes_of_integer (skipBlanks_of_start hstart) hpeek hnumber
    | real bits => cases hv
  · cases h

theorem scanBoolean_skips : Skips scanBoolean := by
  intro c b c' h
  obtain ⟨d, hstart, h⟩ := bind_eq_ok.mp h
  refine passes_of_start hstart (passes_of_whole ?_)
  unfold skipFirst
  rw [skipBlanks_of_start hstart]
  split at h
  · next hpeek =>
    obtain ⟨e, he, h⟩ := bind_eq_ok.mp h
    cases h
    simp only [hpeek, he]
    rfl
  · next hpeek =>
    obtain ⟨e, he, h⟩ := bind_eq_ok.mp h
    cases h
    simp only [hpeek, he]
    rfl
  · cases h

theorem scanInstant_skips : Skips scanInstant := by
  intro c t c' h
  obtain ⟨⟨s, d⟩, htext, h⟩ := bind_eq_ok.mp h
  obtain ⟨t, ht, h⟩ := bind_eq_ok.mp h
  cases h
  exact scanText_skips _ c s _ htext

theorem scanBytes_skips : Skips scanBytes := by
  intro c bytes c' h
  obtain ⟨⟨s, d⟩, htext, h⟩ := bind_eq_ok.mp h
  obtain ⟨bytes, hbytes, h⟩ := bind_eq_ok.mp h
  cases h
  exact scanText_skips _ c s _ htext

theorem scanNumberOrName_skips : Skips scanNumberOrName := by
  intro c v c' h
  obtain ⟨d, hstart, h⟩ := bind_eq_ok.mp h
  refine passes_of_start hstart ?_
  split at h
  · next hpeek =>
    obtain ⟨⟨s, e⟩, hstring, h⟩ := bind_eq_ok.mp h
    cases h
    exact passes_of_string (skipBlanks_of_start hstart) hpeek hstring
  · split at h
    · next hpeek =>
      obtain ⟨⟨n, e⟩, hnumber, h⟩ := bind_eq_ok.mp h
      obtain ⟨v, hv, h⟩ := bind_eq_ok.mp h
      cases h
      cases n with
      | integer n => exact passes_of_integer (skipBlanks_of_start hstart) hpeek hnumber
      | real bits => cases hv
    · cases h

/-! ### Lists -/

/-- A list or an object is closed whether or not a value has come before. -/
theorem skipNext_of_close {frame : Frame} (h : c.skipBlanks.peek = some frame.close)
    (after : Bool) : c.skipNext frame after = .ok (true, c.skipBlanks.advance) := by
  have hcomma : ¬ (after = true ∧ frame.close = ',') := by
    cases frame with
    | list => exact fun h => nomatch h.2
    | object => exact fun h => nomatch h.2
  unfold skipNext
  simp only [h, if_neg hcomma, if_true]

/-- Where the next item of a list is found, so it is in passing over the list. -/
theorem skipNext_of_nextItem (h : c.nextItem first = .ok (some c₁)) :
    ∃ d, c.skipNext .list (!first) = .ok (false, d) ∧ d.skipBlanks = c₁ := by
  unfold nextItem at h
  unfold skipNext
  dsimp only at h ⊢
  split at h
  · exact absurd h peekFail_ne_ok
  · cases h
  · next x hclose hpeek =>
    simp only [hpeek]
    have hclose : ¬ x = Frame.list.close := hclose
    cases first with
    | true =>
      refine ⟨c.skipBlanks, ?_, (skipBlanks_skipBlanks c).trans (Option.some.inj (Except.ok.inj h))⟩
      rw [if_neg (fun h => nomatch h.1), if_neg hclose]
      rfl
    | false =>
      split at h
      · cases (by assumption : false = true)
      split at h
      · next hcomma =>
        refine ⟨c.skipBlanks.advance, by rw [if_pos ⟨rfl, hcomma⟩]; rfl, ?_⟩
        split at h
        · exact absurd h peekFail_ne_ok
        · exact absurd h peekFail_ne_ok
        · exact Option.some.inj (Except.ok.inj h)
      · exact absurd h peekFail_ne_ok

theorem skipNext_of_endList (h : c.endList = .ok c') (after : Bool) :
    c.skipNext .list after = .ok (true, c') := by
  unfold endList at h
  dsimp only at h
  split at h
  · exact absurd h peekFail_ne_ok
  · next hpeek =>
    cases h
    exact skipNext_of_close hpeek after
  · exact absurd h peekFail_ne_ok
  · exact absurd h peekFail_ne_ok

variable {α σ : Type}

/-- The items of a list that are read are passed over. -/
theorem closes_of_items {item : Cursor → Except Located (α × Cursor)} (skips : Skips item)
    {vs : List α} (hend : c₁.endList = .ok c') : ∀ {fuel : Nat} {first : Bool} {done : List α}
      {c : Cursor}, items item fuel first done c = .ok (vs, c₁) → Closes .list first c c'
  | 0, _, _, _, h => by cases h
  | fuel + 1, first, done, c, h => by
    obtain ⟨next, hnext, h⟩ := bind_eq_ok.mp h
    cases next with
    | none =>
      cases h
      exact closes_of_end (skipNext_of_endList hend _)
    | some d =>
      obtain ⟨⟨v, e⟩, hitem, hrest⟩ := bind_eq_ok.mp h
      obtain ⟨d₀, hskip, rfl⟩ := skipNext_of_nextItem hnext
      exact closes_of_next hskip (.of_skipBlanks (skips _ _ _ hitem))
        (closes_of_items skips hend hrest)

/-- A list that is read is passed over. -/
theorem passes_of_list (hblanks : c.skipBlanks = c) (hpeek : c.peek = some '[')
    (closes : Closes .list true c.advance c') : Passes c c' := by
  refine passes_of_opened ?_ closes
  unfold skipFirst
  simp only [hblanks, hpeek]

/-! ### Objects -/

theorem skipKey_of_string (name : String) (hpeek : c.skipBlanks.peek = some '"')
    (hname : c.skipBlanks.advance.string = .ok (name, c₁)) (hcolon : c₁.colon = .ok c') :
    c.skipKey = .ok c' := by
  have hc := length_advance hpeek
  unfold skipKey
  simp only [hpeek]
  rw [(skipString_of_stringTail hname).2 _ (by omega)]
  exact hcolon

/-- Where the name of the next member of an object is read, it is passed over with its colon. -/
theorem skipNext_of_nextKey {name : String} (h : c.nextKey first = .ok (some (name, c₁)))
    (hcolon : c₁.colon = .ok c') : c.skipNext .object (!first) = .ok (false, c') := by
  unfold nextKey at h
  unfold skipNext
  dsimp only at h ⊢
  split at h
  · exact absurd h peekFail_ne_ok
  · cases h
  · next x hclose hpeek =>
    simp only [hpeek]
    have hclose : ¬ x = Frame.object.close := hclose
    cases first with
    | true =>
      rw [if_neg (fun h => nomatch h.1), if_neg hclose]
      split at h
      · split at h
        · next hquote =>
          subst hquote
          obtain ⟨⟨s, d⟩, hstring, heq⟩ := map_eq_ok.mp h
          cases heq
          have hkey : c.skipBlanks.skipKey = .ok c' := by
            refine skipKey_of_string name ?_ ?_ hcolon
            · rw [skipBlanks_skipBlanks]; exact hpeek
            · rw [skipBlanks_skipBlanks]; exact hstring
          exact (if_neg fun h => nomatch h).trans (congrArg (Except.map (false, ·)) hkey)
        · exact absurd h peekFail_ne_ok
      · next hfirst => exact absurd rfl hfirst
    | false =>
      split at h
      · cases (by assumption : false = true)
      split at h
      · next hcomma =>
        rw [if_pos ⟨rfl, hcomma⟩]
        split at h
        · exact absurd h peekFail_ne_ok
        · next hquote =>
          obtain ⟨⟨s, d⟩, hstring, heq⟩ := map_eq_ok.mp h
          cases heq
          exact congrArg (Except.map (false, ·)) (skipKey_of_string _ hquote hstring hcolon)
        · exact absurd h peekFail_ne_ok
        · exact absurd h peekFail_ne_ok
      · exact absurd h peekFail_ne_ok

theorem skipNext_of_endObject (h : c.endObject = .ok c') (after : Bool) :
    c.skipNext .object after = .ok (true, c') := by
  unfold endObject at h
  dsimp only at h
  split at h
  · exact absurd h peekFail_ne_ok
  · next hpeek =>
    cases h
    exact skipNext_of_close hpeek after
  · exact absurd h peekFail_ne_ok
  · exact absurd h peekFail_ne_ok

/-- The members of an object that are taken are passed over. -/
theorem closes_of_members {step : String → σ → Cursor → Except Located (σ × Cursor)}
    (skips : SkipsMember step) {s' : σ} (hend : c₁.endObject = .ok c') : ∀ {fuel : Nat}
      {first : Bool} {s : σ} {c : Cursor}, members step fuel first s c = .ok (s', c₁) →
      Closes .object first c c'
  | 0, _, _, _, h => by cases h
  | fuel + 1, first, s, c, h => by
    obtain ⟨next, hnext, h⟩ := bind_eq_ok.mp h
    cases next with
    | none =>
      cases h
      exact closes_of_end (skipNext_of_endObject hend _)
    | some key =>
      obtain ⟨name, d⟩ := key
      obtain ⟨⟨s₁, e⟩, hstep, h⟩ := bind_eq_ok.mp h
      obtain ⟨d₁, hcolon, passes⟩ := skips name s d s₁ e hstep
      exact closes_of_next (skipNext_of_nextKey hnext hcolon) passes
        (closes_of_members skips hend h)

/-- An object that is read is passed over. -/
theorem passes_of_object (hblanks : c.skipBlanks = c) (hpeek : c.peek = some '\x7b')
    (closes : Closes .object true c.advance c') : Passes c c' := by
  refine passes_of_opened ?_ closes
  unfold skipFirst
  simp only [hblanks, hpeek]

/-! ### Fields that are listed -/

/-- At the end of a list it makes no difference whether an item has come before. -/
theorem Closes.of_nextItem (h : c.nextItem first = .ok none) {other : Bool}
    (closes : Closes .list other c c') : Closes .list first c c' := by
  have hpeek : c.skipBlanks.peek = some ']' := by
    unfold nextItem at h
    dsimp only at h
    split at h
    · exact absurd h peekFail_ne_ok
    · assumption
    · split at h
      · cases h
      · split at h
        · split at h
          · exact absurd h peekFail_ne_ok
          · exact absurd h peekFail_ne_ok
          · cases h
        · exact absurd h peekFail_ne_ok
  exact closes.congr ((skipNext_of_close hpeek _).trans (skipNext_of_close hpeek _).symm)

end Cursor

/-- A field that is given in a list of fields is passed over. -/
theorem Presence.scanGiven_skips {α : Type} {scan : Cursor → Except Located (α × Cursor)}
    (skips : Skips scan) (p : Presence) : Skips fun c => p.scanGiven scan c := by
  have hoption : Skips fun c => Presence.optional.scanGiven scan c := by
    intro c v c' h
    obtain ⟨null, hnull, h⟩ := bind_eq_ok.mp h
    cases null with
    | some d =>
      cases h
      exact passes_of_null? hnull
    | none =>
      obtain ⟨⟨a, d⟩, hscan, h⟩ := bind_eq_ok.mp h
      cases h
      exact skips c a _ hscan
  cases p with
  | optional => exact hoption
  | nullable => exact hoption
  | defaulted => exact skips
  | required => exact skips

/-- A member whose value is taken into a slot is passed over. -/
theorem Slot.scan_skips {α : Type} {scan : Cursor → Except Located (α × Cursor)}
    (skips : Skips scan) {allowsNull : Bool} {c c' : Cursor} {slot : Slot α}
    (h : Slot.scan allowsNull scan c = .ok (slot, c')) : ∃ d, c.colon = .ok d ∧ Passes d c' := by
  obtain ⟨d, hcolon, h⟩ := bind_eq_ok.mp h
  obtain ⟨null, hnull, h⟩ := bind_eq_ok.mp h
  refine ⟨d, hcolon, ?_⟩
  cases null with
  | some e =>
    cases h
    split at hnull
    · exact passes_of_null? hnull
    · cases hnull
  | none =>
    obtain ⟨⟨a, e⟩, hscan, h⟩ := bind_eq_ok.mp h
    cases h
    exact skips d a _ hscan

namespace Cursor

/-- A choice that is given as the only member of an object, whose value is null. -/
theorem closes_of_choice {name : String} {c d e : Cursor}
    (hname : scanText "variant identifier" c = .ok (name, d)) (hcolon : d.colon = .ok e)
    {f : Cursor} (hnull : Passes e f) (hclose : f.skipBlanks.peek = some '\x7d') :
    Closes .object true c f.skipBlanks.advance := by
  obtain ⟨c₁, hstart, hname⟩ := bind_eq_ok.mp hname
  cases start_eq hstart
  split at hname
  · next hquote =>
    have hkey : c.nextKey true = .ok (some (name, d)) := by
      unfold nextKey
      simp only [hquote]
      exact congrArg (Except.map some) hname
    have hend : f.endObject = .ok f.skipBlanks.advance := by
      unfold endObject
      simp only [hclose]
    exact closes_of_next (skipNext_of_nextKey hkey hcolon) hnull
      (closes_of_end (skipNext_of_endObject hend _))
  · cases hname

theorem scanChoice_skips (first : String) (others : List String) :
    Skips (scanChoice first others) := by
  intro c i c' h
  obtain ⟨d, hstart, h⟩ := bind_eq_ok.mp h
  refine passes_of_start hstart ?_
  have hblanks := skipBlanks_of_start hstart
  split at h
  · next hpeek =>
    obtain ⟨⟨name, e⟩, hstring, h⟩ := bind_eq_ok.mp h
    obtain ⟨i, hi, h⟩ := bind_eq_ok.mp h
    cases h
    exact passes_of_string hblanks hpeek hstring
  · next hpeek =>
    obtain ⟨⟨name, e⟩, hname, h⟩ := bind_eq_ok.mp h
    obtain ⟨i, hi, h⟩ := bind_eq_ok.mp h
    obtain ⟨e₁, hcolon, h⟩ := bind_eq_ok.mp h
    obtain ⟨e₂, hstart₂, h⟩ := bind_eq_ok.mp h
    split at h
    · next hn =>
      obtain ⟨e₃, hnull, h⟩ := bind_eq_ok.mp h
      have hpasses := passes_of_start hstart₂
        (passes_of_null (skipBlanks_of_start hstart₂) hn hnull)
      dsimp only at h
      split at h
      · next hclose =>
        cases h
        exact passes_of_object hblanks hpeek (closes_of_choice hname hcolon hpasses hclose)
      · cases h
      · cases h
    · cases h
  · exact absurd h peekFail_ne_ok

end Cursor

/-- A record that states no kind is read field by field, from an object or from a list. -/
theorem Shape.scan_record {form : RecordForm} {fields : Fields} (hidentity : form.identity = none)
    (c : Cursor) : (Shape.record form fields).scan c = (do
      let c ← c.start
      if c.peek = some '\x7b' then
        let (slots, c) ← members (fields.step form.lenient) (c.rest.length + 1) true fields.unseen
          c.advance
        let c ← c.endObject
        let v ← c.check (fields.finish slots)
        return (v, c)
      else if c.peek = some '[' ∧ !form.lenient then
        fields.scanListed (form.describeListed fields.size) 0 (fun v c => do
          return (v, ← c.endList)) c.advance
      else .error (c.unexpected form.describe)) := by
  have hstates (name : String) : ¬ (form.lenient ∧ form.identity.isSome ∧
      (name = "apiVersion" ∨ name = "kind")) := by
    rw [hidentity]
    exact fun h => nomatch h.2.1
  rw [Shape.scan]
  refine bind_congr fun c => ite_congr rfl (fun _ => congrArg (· >>= _) ?_) fun _ => rfl
  refine congrArg (members · (c.rest.length + 1) true fields.unseen c.advance) ?_
  exact funext fun name => funext fun slots => funext fun c => if_neg (hstates name)

namespace Fields

/-- What goes on behind the listed fields passes over the end of the list. -/
def EndsList {α β : Type} (next : α → Cursor → Except Located (β × Cursor)) : Prop :=
  ∀ (a : α) (c : Cursor) (b : β) (c' : Cursor), next a c = .ok (b, c') → c.endList = .ok c'

/-- A member that is taken into the slots of fields is passed over, be it read or not. -/
theorem step_skips {lenient : Bool} {fs : Fields}
    (h : ∀ name slots c slots' c', fs.scanMember lenient name slots c = some (.ok (slots', c')) →
      ∃ d, c.colon = .ok d ∧ Passes d c') : SkipsMember (fs.step lenient) := by
  intro name slots c slots' c' hstep
  unfold step at hstep
  split at hstep
  · next hscan => exact h name slots c slots' c' (hscan.trans (congrArg some hstep))
  · obtain ⟨d, hcolon, hstep⟩ := bind_eq_ok.mp hstep
    obtain ⟨e, hskip, hstep⟩ := bind_eq_ok.mp hstep
    cases hstep
    exact ⟨d, hcolon, skipValue_eq_ok.mp hskip⟩

end Fields

mutual

/-- Whatever is read by a plain shape is passed over as well, up to the same place. -/
theorem Shape.scan_skips : ∀ s : Shape, s.plain = true → Skips s.scan
  | .anything, h => nomatch h
  | .boolean, _ => fun c v c' h => scanBoolean_skips c v c' (by rwa [Shape.scan] at h)
  | .text, _ => fun c v c' h => scanText_skips _ c v c' (by rwa [Shape.scan] at h)
  | .bytes, _ => fun c v c' h => scanBytes_skips c v c' (by rwa [Shape.scan] at h)
  | .integer width, _ => fun c v c' h => scanInteger_skips width c v c' (by rwa [Shape.scan] at h)
  | .choice first others, _ => fun c v c' h =>
    scanChoice_skips first others c v c' (by rwa [Shape.scan] at h)
  | .numberOrName, _ => fun c v c' h => scanNumberOrName_skips c v c' (by rwa [Shape.scan] at h)
  | .instant, _ => fun c v c' h => scanInstant_skips c v c' (by rwa [Shape.scan] at h)
  | .sequence item, hplain => by
    intro c v c' h
    rw [Shape.scan] at h
    obtain ⟨d, hstart, h⟩ := bind_eq_ok.mp h
    split at h
    · next hpeek =>
      obtain ⟨⟨vs, e⟩, hitems, h⟩ := bind_eq_ok.mp h
      obtain ⟨e', hend, h⟩ := bind_eq_ok.mp h
      cases h
      exact passes_of_start hstart (passes_of_list (skipBlanks_of_start hstart) hpeek
        (closes_of_items (item.scan_skips hplain) hend hitems))
    · cases h
  | .dictionary item, hplain => by
    intro c v c' h
    rw [Shape.scan] at h
    obtain ⟨d, hstart, h⟩ := bind_eq_ok.mp h
    split at h
    · next hpeek =>
      obtain ⟨⟨m, e⟩, hmembers, h⟩ := bind_eq_ok.mp h
      obtain ⟨e', hend, h⟩ := bind_eq_ok.mp h
      cases h
      refine passes_of_start hstart (passes_of_object (skipBlanks_of_start hstart) hpeek
        (closes_of_members ?_ hend hmembers))
      intro name m c m' c' h
      obtain ⟨d, hcolon, h⟩ := bind_eq_ok.mp h
      obtain ⟨⟨a, e⟩, hscan, h⟩ := bind_eq_ok.mp h
      cases h
      exact ⟨d, hcolon, item.scan_skips hplain d a _ hscan⟩
    · cases h
  | .record form fields, hplain => by
    obtain ⟨hidentity, hfields⟩ := (Bool.and_eq_true _ _).mp hplain
    have hskips : SkipsMember (fields.step form.lenient) :=
      Fields.step_skips fun name slots c slots' c' => fields.scanMember_skips hfields
    intro c v c' h
    rw [Shape.scan_record (Option.isNone_iff_eq_none.mp hidentity)] at h
    obtain ⟨d, hstart, h⟩ := bind_eq_ok.mp h
    refine passes_of_start hstart ?_
    split at h
    · next hpeek =>
      obtain ⟨⟨slots, e⟩, hmembers, h⟩ := bind_eq_ok.mp h
      obtain ⟨e', hend, h⟩ := bind_eq_ok.mp h
      obtain ⟨v, hv, h⟩ := bind_eq_ok.mp h
      cases h
      exact passes_of_object (skipBlanks_of_start hstart) hpeek
        (closes_of_members hskips hend hmembers)
    · split at h
      · next hpeek =>
        refine passes_of_list (skipBlanks_of_start hstart) hpeek.1 ?_
        refine fields.scanListed_closes hfields (i := 0) ?_ h
        intro v c b c' h
        obtain ⟨e, hend, h⟩ := bind_eq_ok.mp h
        cases h
        exact hend
      · cases h

/-- Whatever is read into the slot of a field is passed over as well. -/
theorem Fields.scanMember_skips : ∀ fs : Fields, fs.plain = true → ∀ {lenient : Bool}
    {name : String} {slots slots' : fs.Slots} {c c' : Cursor},
      fs.scanMember lenient name slots c = some (.ok (slots', c')) →
        ∃ d, c.colon = .ok d ∧ Passes d c'
  | .nil, _, _, _, _, _, _, _, h => by
    rw [Fields.scanMember] at h
    cases h
  | .cons field presence shape rest, hplain, lenient, name, (slot, slots), _, c, c', h => by
    obtain ⟨hshape, hrest⟩ := (Bool.and_eq_true _ _).mp hplain
    rw [Fields.scanMember] at h
    split at h
    · split at h
      · cases h
      · obtain ⟨⟨slot', d⟩, hscan, h⟩ := bind_eq_ok.mp (Option.some.inj h)
        cases h
        exact Slot.scan_skips (shape.scan_skips hshape) hscan
    · obtain ⟨r, hr, h⟩ := Option.map_eq_some_iff.mp h
      obtain ⟨⟨slots', d⟩, rfl, h⟩ := bind_eq_ok.mp h
      cases h
      exact rest.scanMember_skips hrest hr

/-- Whatever is read from the items of a list as fields is passed over as well. -/
theorem Fields.scanListed_closes {β : Type} {expected : String} : ∀ (fs : Fields),
    fs.plain = true → ∀ {i : Nat} {next : fs.Val → Cursor → Except Located (β × Cursor)}
      {c : Cursor} {b : β} {c' : Cursor}, Fields.EndsList next →
      fs.scanListed expected i next c = .ok (b, c') → Closes .list (i == 0) c c'
  | .nil, _, i, next, c, b, c', hnext, h => by
    rw [Fields.scanListed] at h
    exact closes_of_end (skipNext_of_endList (hnext () c b c' h) _)
  | .cons _ presence shape rest, hplain, i, next, c, b, c', hnext, h => by
    obtain ⟨hshape, hrest⟩ := (Bool.and_eq_true _ _).mp hplain
    rw [Fields.scanListed] at h
    obtain ⟨item, hitem, h⟩ := bind_eq_ok.mp h
    cases item with
    | some d =>
      obtain ⟨⟨v, e⟩, hgiven, h⟩ := bind_eq_ok.mp h
      have hcloses := rest.scanListed_closes hrest (fun vs c b c' h => hnext (v, vs) c b c' h) h
      obtain ⟨d₀, hskip, heq⟩ := skipNext_of_nextItem hitem
      have hpasses := presence.scanGiven_skips (shape.scan_skips hshape) d v e hgiven
      exact closes_of_next hskip (.of_skipBlanks (heq ▸ hpasses)) hcloses
    | none =>
      dsimp only at h
      split at h
      · next v hleft =>
        have hcloses := rest.scanListed_closes hrest (fun vs c b c' h => hnext (v, vs) c b c' h) h
        exact hcloses.of_nextItem hitem
      · obtain ⟨e, hend, h⟩ := bind_eq_ok.mp h
        cases h

end

end ClusterOperator
