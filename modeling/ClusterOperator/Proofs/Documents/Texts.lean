import ClusterOperator.Document
import ClusterOperator.Proofs.Documents.Cursors
import ClusterOperator.Proofs.Documents.RoundTrip

/-!
# Texts read back what is written

The reader of JSON text decodes by a shape without building a value in between. From the compact
text of a written value it gets what is read from the document of that value: the text reader and
the value reader agree on everything that is written.

## Main definitions

* `Fields.step`: how a member is taken into the slots of the fields of a record.

## Main results

* `Shape.scan_takes`: the text of a value is read as the value reread.
* `Document.readText_render`: the same for types.
-/

namespace ClusterOperator

open Cursor

/-! ### Single values -/

namespace Json

/-- The characters of a rendered value. -/
def chars (j : Json) : List Char := j.render.toList

theorem chars_string (s : String) :
    (string s).chars = '"' :: (s.toList.flatMap escape ++ ['"']) :=
  String.toList_ofList

theorem renderItems_eq : ∀ items : List Json, renderItems items = items.map render
  | [] => rfl
  | j :: items => congrArg (render j :: ·) (renderItems_eq items)

theorem renderMembers_eq : ∀ ms : List (String × Json),
    renderMembers ms = ms.map fun m => renderString m.1 ++ ":" ++ render m.2
  | [] => rfl
  | (_, _) :: ms => congrArg (_ :: ·) (renderMembers_eq ms)

theorem chars_array (items : List Json) :
    (array items).chars = '[' :: (joined true (items.map chars) ++ [']']) := by
  rw [chars, render, renderItems_eq, String.toList_append, String.toList_append,
    String.toList_intercalate, List.map_map, ← intercalate_eq_joined]
  rfl

theorem chars_object (ms : List (String × Json)) :
    (object ms).chars =
      '\x7b' :: (joined true ((ms.map fun m => (m.1, m.2.chars)).map memberText) ++ ['\x7d']) := by
  have hmember (m : String × Json) :
      (renderString m.1 ++ ":" ++ render m.2).toList = memberText (m.1, m.2.chars) := by
    rw [String.toList_append, String.toList_append, List.append_assoc]
    rfl
  rw [chars, render, renderMembers_eq, String.toList_append, String.toList_append,
    String.toList_intercalate, List.map_map, List.map_map, ← intercalate_eq_joined]
  exact congrArg (fun texts => '\x7b' :: ([','].intercalate texts ++ ['\x7d']))
    (List.map_congr_left fun m _ => hmember m)

theorem chars_integer_cons (n : Int) :
    ∃ x r, (integer n).chars = x :: r ∧ (x = '-' ∨ x.isDigit = true) := by
  cases n with
  | ofNat n =>
    have hchars : (integer (.ofNat n)).chars = Nat.toDigits 10 n := Nat.toList_repr
    cases hdigits : Nat.toDigits 10 n with
    | nil => exact absurd hdigits Nat.toDigits_ne_nil
    | cons d ds =>
      have hd : d ∈ Nat.toDigits 10 n := hdigits ▸ List.mem_cons_self
      exact ⟨d, ds, hchars.trans hdigits,
        .inr (Nat.isDigit_of_mem_toDigits (by decide) (by decide) hd)⟩
  | negSucc n => exact ⟨'-', _, String.toList_append, .inl rfl⟩

end Json

/-- Whole numbers of every range fit 64 bits. -/
theorem Width.bounds (w : Width) (v : w.Val) :
    -9223372036854775808 ≤ v.val ∧ v.val ≤ 18446744073709551615 := by
  obtain ⟨n, hl, hr⟩ := v
  cases w <;> simp only [Width.least, Width.greatest] at hl hr <;> constructor <;> simp only <;>
    omega

namespace Cursor

theorem isJsonBlank_of_isDigit {x : Char} (h : x.isDigit = true) : isJsonBlank x = false := by
  simp only [isJsonBlank, Bool.or_eq_false_iff, decide_eq_false_iff_not]
  refine ⟨⟨⟨?_, ?_⟩, ?_⟩, ?_⟩ <;> rintro rfl <;> cases h

theorem begins_integer (n : Int) : Begins (Json.integer n).chars := by
  obtain ⟨x, r, hchars, hx⟩ := Json.chars_integer_cons n
  refine ⟨x, r, hchars, ?_⟩
  rcases hx with rfl | hx
  · decide
  · refine ⟨isJsonBlank_of_isDigit hx, ?_, ?_⟩ <;> rintro rfl <;> cases hx

theorem begins_string (s : String) : Begins (Json.string s).chars :=
  ⟨'"', _, Json.chars_string s, rfl, by decide, by decide⟩

/-- Where a whole number is expected, its text is read. -/
theorem number_of_integer {c : Cursor} {rest : List Char} {n : Int}
    (h : c.rest = (Json.integer n).chars ++ rest) (hrest : Ends rest)
    (hl : -9223372036854775808 ≤ n) (hr : n ≤ 18446744073709551615) :
    c.start = .ok c ∧ (c.peek = some '-' ∨ c.atDigit = true) ∧
      ∃ c', c.number = .ok (.integer n, c') ∧ c'.rest = rest := by
  have hnumber := number_takes n hl hr c rest h hrest
  obtain ⟨x, r, hchars, hx⟩ := Json.chars_integer_cons n
  obtain ⟨y, r', hchars', hblank, -⟩ := begins_integer n
  rw [hchars] at h hchars'
  cases hchars'
  refine ⟨start_cons h hblank, ?_, hnumber⟩
  rcases hx with rfl | hx
  · exact .inl (peek_cons h)
  · refine .inr ?_
    rw [atDigit, peek_cons h]
    exact hx

/-- Where a text is expected, it is read. -/
theorem string_of_string {c : Cursor} {rest : List Char} {s : String}
    (h : c.rest = (Json.string s).chars ++ rest) :
    c.start = .ok c ∧ c.peek = some '"' ∧
      ∃ c', c.advance.string = .ok (s, c') ∧ c'.rest = rest := by
  rw [Json.chars_string] at h
  have hquoted : c.advance.rest = s.toList.flatMap Json.escape ++ '"' :: rest := by
    rw [rest_advance h]
    simp
  exact ⟨start_cons h rfl, peek_cons h, string_append hquoted⟩

theorem scanText_takes (expected : String) (s : String) :
    Takes (scanText expected) (Json.string s).chars s := by
  intro c rest h hrest
  obtain ⟨hstart, hpeek, c', hread, hend⟩ := string_of_string h
  refine ⟨c', ?_, hend⟩
  rw [scanText, hstart]
  simp only [bind, Except.bind, if_pos hpeek, hread]

theorem scanInteger_takes (w : Width) (v : w.Val) :
    Takes (scanInteger w) (Json.integer v.val).chars v := by
  intro c rest h hrest
  obtain ⟨hl, hr⟩ := w.bounds v
  obtain ⟨hstart, hdigit, c', hread, hend⟩ := number_of_integer h hrest hl hr
  refine ⟨c', ?_, hend⟩
  rw [scanInteger, hstart]
  simp only [bind, Except.bind, if_pos hdigit, hread, Number.toJson, readInteger_val, check]
  rfl

theorem scanBoolean_takes (b : Bool) : Takes scanBoolean (Json.bool b).chars b := by
  intro c rest h hrest
  cases b with
  | true =>
    have h : c.rest = 't' :: (['r', 'u', 'e'] ++ rest) := h
    obtain ⟨c', hident, hend⟩ := ident_append (rest_advance h)
    refine ⟨c', ?_, hend⟩
    rw [scanBoolean, start_cons h rfl]
    simp only [bind, Except.bind, peek_cons h, hident]
    rfl
  | false =>
    have h : c.rest = 'f' :: (['a', 'l', 's', 'e'] ++ rest) := h
    obtain ⟨c', hident, hend⟩ := ident_append (rest_advance h)
    refine ⟨c', ?_, hend⟩
    rw [scanBoolean, start_cons h rfl]
    simp only [bind, Except.bind, peek_cons h, hident]
    rfl

theorem scanChoice_takes {first : String} {others : List String} (h : (first :: others).Nodup)
    (i : Fin (others.length + 1)) :
    Takes (scanChoice first others) (Json.string (choiceName first others i)).chars i := by
  intro c rest htext hrest
  obtain ⟨hstart, hpeek, c', hread, hend⟩ := string_of_string htext
  have hchoice : readChoice first others (.string (choiceName first others i)) = .ok i :=
    (Shape.choice first others).read_write (decide_eq_true h) i
  refine ⟨c', ?_, hend⟩
  rw [scanChoice, hstart]
  simp only [bind, Except.bind, hpeek, hread, hchoice, check]
  rfl

theorem scanNumberOrName_takes (v : Signed32 ⊕ String) :
    Takes scanNumberOrName (Shape.numberOrName.write v).chars v := by
  intro c rest h hrest
  cases v with
  | inl n =>
    obtain ⟨hl, hr⟩ := Width.signed32.bounds n
    obtain ⟨hstart, hdigit, c', hread, hend⟩ := number_of_integer h hrest hl hr
    have hquote : c.peek ≠ some '"' := by
      rintro hpeek
      rcases hdigit with hminus | hdigit
      · cases hpeek.symm.trans hminus
      · rw [atDigit, hpeek] at hdigit
        cases hdigit
    refine ⟨c', ?_, hend⟩
    rw [scanNumberOrName, hstart]
    simp only [bind, Except.bind, if_neg hquote, if_pos hdigit, hread, Number.toJson,
      readNumberOrName_val, check]
    rfl
  | inr s =>
    obtain ⟨hstart, hpeek, c', hread, hend⟩ := string_of_string h
    refine ⟨c', ?_, hend⟩
    rw [scanNumberOrName, hstart]
    simp only [bind, Except.bind, if_pos hpeek, hread]
    rfl

theorem scanInstant_takes (t : Instant) :
    Takes scanInstant (Json.string t.render).chars t.wholeSeconds := by
  intro c rest h hrest
  obtain ⟨c', hread, hend⟩ := scanText_takes _ t.render c rest h hrest
  have hinstant : readInstant (.string t.render) = .ok t.wholeSeconds :=
    Shape.instant.read_write rfl t
  refine ⟨c', ?_, hend⟩
  rw [scanInstant, hread]
  simp only [bind, Except.bind, hinstant, check]
  rfl

theorem scanBytes_takes (bytes : List UInt8) :
    Takes scanBytes (Json.string (Base64.encode bytes)).chars bytes := by
  intro c rest h hrest
  obtain ⟨c', hread, hend⟩ := scanText_takes _ (Base64.encode bytes) c rest h hrest
  have hbytes : readBytes (.string (Base64.encode bytes)) = .ok bytes :=
    Shape.bytes.read_write rfl bytes
  refine ⟨c', ?_, hend⟩
  rw [scanBytes, hread]
  simp only [bind, Except.bind, hbytes, check]
  rfl

end Cursor

/-! ### Fields -/

namespace Fields

/-- Takes a member into the slots of the fields; members that no field has are passed over. -/
def step (lenient : Bool) (fs : Fields) (name : String) (slots : fs.Slots) (c : Cursor) :
    Except Located (fs.Slots × Cursor) :=
  match fs.scanMember lenient name slots c with
  | some r => r
  | none => do
    let c ← c.colon
    return (slots, ← c.skipValue)

/-- The slots of the fields after all members that are written for their values. -/
def written : (fs : Fields) → fs.Val → fs.Slots
  | .nil, _ => ()
  | .cons _ presence shape rest, v =>
    (match presence, v.1 with
      | .optional, none => .unseen
      | .optional, some x => .filled (shape.reread x)
      | .nullable, none => .blank
      | .nullable, some x => .filled (shape.reread x)
      | .defaulted, x => .filled (shape.reread x)
      | .required, x => .filled (shape.reread x),
    rest.written v.2)

/-- A member of another name passes by the first field. -/
theorem takesMember_cons {lenient : Bool} {name : String} {p : Presence} {s : Shape} {rest : Fields}
    {m : String × List Char} {slots slots' : rest.Slots} (slot : Slot s.Val) (hne : name ≠ m.1)
    (h : TakesMember (rest.step lenient) m slots slots') :
    TakesMember ((Fields.cons name p s rest).step lenient) m (slot, slots) (slot, slots') := by
  intro c tail htext htail
  obtain ⟨c', hstep, hend⟩ := h c tail htext htail
  refine ⟨c', ?_, hend⟩
  unfold step at hstep ⊢
  rw [scanMember, if_neg hne]
  -- The member belongs to a later field, or to none and its value is passed over.
  cases hscan : rest.scanMember lenient m.1 slots c with
  | some r =>
    rw [hscan] at hstep
    have hstep : r = .ok (slots', c') := hstep
    rw [hstep]
    rfl
  | none =>
    rw [hscan] at hstep
    obtain ⟨c₁, hcolon, hstep⟩ := bind_eq_ok.mp hstep
    obtain ⟨c₂, hskip, hstep⟩ := bind_eq_ok.mp hstep
    cases hstep
    show (c.colon >>= fun c => c.skipValue >>= fun c => pure ((slot, slots), c)) = _
    rw [hcolon]
    show (c₁.skipValue >>= fun c => pure ((slot, slots), c)) = _
    rw [hskip]
    rfl

/-- The members of the other fields pass by the first one. -/
theorem takesMembers_cons {lenient : Bool} {name : String} {p : Presence} {s : Shape}
    {rest : Fields} (slot : Slot s.Val) {ms : List (String × List Char)} {slots slots' : rest.Slots}
    (hne : name ∉ ms.map Prod.fst) (h : TakesMembers (rest.step lenient) ms slots slots') :
    TakesMembers ((Fields.cons name p s rest).step lenient) ms (slot, slots) (slot, slots') := by
  induction h with
  | nil slots => exact .nil _
  | cons first _ ih =>
    obtain ⟨hne, hrest⟩ := not_or.mp (mt List.mem_cons.mpr hne)
    exact .cons (takesMember_cons slot hne first) (ih hrest)

end Fields

/-- The value of a member that is not null is read into its slot. -/
theorem Slot.scan_takes {α : Type} {scan : Cursor → Except Located (α × Cursor)} {text : List Char}
    {a : α} (allowsNull : Bool) (begins : Begins text) (takes : Takes scan text a) {c : Cursor}
    {rest : List Char} (h : c.rest = ':' :: (text ++ rest)) (hrest : Ends rest) :
    ∃ c', Slot.scan allowsNull scan c = .ok (.filled a, c') ∧ c'.rest = rest := by
  have htext := rest_advance h
  obtain ⟨c', hread, hend⟩ := takes c.advance rest htext hrest
  obtain ⟨x, r, rfl, hblank, -, hn⟩ := begins
  have hnull : c.advance.null? = .ok none := by
    unfold null?
    simp only [skipBlanks_cons htext hblank, peek_cons htext]
    exact if_neg fun heq => hn (Option.some.inj heq)
  refine ⟨c', ?_, hend⟩
  rw [Slot.scan, colon_cons h]
  cases allowsNull with
  | true => simp only [bind, Except.bind, if_true, hnull, hread]; rfl
  | false => simp only [bind, Except.bind, hread]; rfl

theorem Slot.scan_null {α : Type} (scan : Cursor → Except Located (α × Cursor)) {c : Cursor}
    {rest : List Char} (h : c.rest = ':' :: (Json.null.chars ++ rest)) :
    ∃ c', Slot.scan true scan c = .ok (.blank, c') ∧ c'.rest = rest := by
  have htext : c.advance.rest = 'n' :: (['u', 'l', 'l'] ++ rest) := rest_advance h
  obtain ⟨c', hident, hend⟩ := ident_append (rest_advance htext)
  have hnull : c.advance.null? = .ok (some c') := by
    unfold null?
    simp only [skipBlanks_cons htext rfl, peek_cons htext, if_true, hident]
    rfl
  refine ⟨c', ?_, hend⟩
  rw [Slot.scan, colon_cons h]
  simp only [bind, Except.bind, if_true, hnull]
  rfl

namespace Fields

/-- The member of the first field is taken into its slot. -/
theorem takesMember_first {lenient : Bool} {name : String} {p : Presence} {s : Shape}
    {rest : Fields} {text : List Char} {slot : Slot s.Val} (slots : rest.Slots)
    (h : ∀ (c : Cursor) (tail : List Char), c.rest = ':' :: (text ++ tail) → Ends tail →
      ∃ c', Slot.scan (p.allowsNull lenient) s.scan c = .ok (slot, c') ∧ c'.rest = tail) :
    TakesMember ((Fields.cons name p s rest).step lenient) (name, text) (.unseen, slots)
      (slot, slots) := by
  intro c tail htext htail
  obtain ⟨c', hread, hend⟩ := h c tail htext htail
  refine ⟨c', ?_, hend⟩
  have hseen : ¬ ((Slot.unseen : Slot s.Val).seen = true ∧ (!lenient) = true) := fun h => by
    cases h.1
  unfold step
  simp only [scanMember, if_true, if_neg hseen, bind, Except.bind, hread]
  rfl

/-- Once all members that are written are read, the values are those reread. -/
theorem finish_written : ∀ (fs : Fields), fs.plain = true → ∀ v : fs.Val,
    fs.finish (fs.written v) = .ok (fs.reread v)
  | .nil, _, _ => rfl
  | .cons name p s rest, h, v => by
    obtain ⟨x, vs⟩ := v
    obtain ⟨hs, hrest⟩ := (Bool.and_eq_true _ _).mp h
    have hsome (x : s.Val) := Shape.reread_some (Shape.neverNull_of_plain hs) x
    have hfinish {slot : Slot s.Val} {y : p.Val s.Val}
        (hslot : p.settle s.default (.missingField name) slot.value? = .ok y) :
        (Fields.cons name p s rest).finish (slot, rest.written vs) = .ok (y, rest.reread vs) := by
      rw [finish, hslot, rest.finish_written hrest vs]
      rfl
    cases p with
    | optional =>
      cases x with
      | none => exact hfinish rfl
      | some x => exact hfinish (congrArg Except.ok (hsome x).symm)
    | nullable =>
      cases x with
      | none => exact hfinish rfl
      | some x => exact hfinish (congrArg Except.ok (hsome x).symm)
    | defaulted => exact hfinish rfl
    | required => exact hfinish rfl

end Fields

theorem Shape.begins_write (s : Shape) (h : s.plain = true) (v : s.Val) :
    Begins (s.write v).chars := by
  cases s with
  | anything => cases h
  | boolean =>
    cases v with
    | true => exact ⟨'t', _, rfl, rfl, by decide, by decide⟩
    | false => exact ⟨'f', _, rfl, rfl, by decide, by decide⟩
  | text => exact begins_string v
  | bytes => exact begins_string _
  | integer _ => exact begins_integer v.val
  | choice _ _ => exact begins_string _
  | numberOrName =>
    cases v with
    | inl n => exact begins_integer n.val
    | inr name => exact begins_string name
  | instant => exact begins_string _
  | sequence _ => exact ⟨'[', _, Json.chars_array _, rfl, by decide, by decide⟩
  | dictionary _ => exact ⟨'\x7b', _, Json.chars_object _, rfl, by decide, by decide⟩
  | record _ _ => exact ⟨'\x7b', _, Json.chars_object _, rfl, by decide, by decide⟩

/-! ### Shapes -/

namespace Cursor

theorem sequence_takes {item : Shape} {v : List item.Val}
    (h : ∀ a ∈ v,
      Begins (item.write a).chars ∧ Takes item.scan (item.write a).chars (item.reread a)) :
    Takes (Shape.sequence item).scan (Json.array (v.map item.write)).chars (v.map item.reread) := by
  intro c rest htext hrest
  rw [Json.chars_array, List.map_map] at htext
  have htext : c.rest =
      '[' :: (joined true (v.map fun a => (item.write a).chars) ++ ']' :: rest) := by
    rw [htext, List.cons_append, List.append_assoc]
    rfl
  have hinner := rest_advance htext
  have hfuel : v.length < c.rest.length + 1 := by
    have hjoined := length_le_joined true (v.map fun a => (item.write a).chars)
    rw [htext, List.length_cons, List.length_append, List.length_cons]
    rw [List.length_map] at hjoined
    omega
  obtain ⟨c₁, hitems, hclose⟩ := items_joined v h _ true [] c.advance hinner hfuel
  refine ⟨c₁.advance, ?_, rest_advance hclose⟩
  rw [Shape.scan, start_cons htext rfl]
  simp only [bind, Except.bind, peek_cons htext, if_true, hitems, endList_cons hclose]
  rfl

/-- The text of an object is read member by member. -/
theorem members_takes {σ : Type} {step : String → σ → Cursor → Except Located (σ × Cursor)}
    {ms : List (String × Json)} {s s' : σ}
    (h : TakesMembers step (ms.map fun m => (m.1, m.2.chars)) s s') {c : Cursor} {rest : List Char}
    (htext : c.rest = (Json.object ms).chars ++ rest) :
    c.start = .ok c ∧ c.peek = some '\x7b' ∧
      ∃ c₁, members step (c.rest.length + 1) true s c.advance = .ok (s', c₁) ∧
        c₁.endObject = .ok c₁.advance ∧ c₁.advance.rest = rest := by
  rw [Json.chars_object] at htext
  have htext : c.rest = '\x7b' ::
      (joined true ((ms.map fun m => (m.1, m.2.chars)).map memberText) ++ '\x7d' :: rest) := by
    rw [htext, List.cons_append, List.append_assoc]
    rfl
  have hfuel : (ms.map fun m => (m.1, m.2.chars)).length < c.rest.length + 1 := by
    have hjoined := length_le_joined true ((ms.map fun m => (m.1, m.2.chars)).map memberText)
    rw [htext, List.length_cons, List.length_append, List.length_cons]
    rw [List.length_map] at hjoined
    omega
  obtain ⟨c₁, hmembers, hclose⟩ := members_joined h _ true c.advance (rest_advance htext) hfuel
  exact ⟨start_cons htext rfl, peek_cons htext, c₁, hmembers, endObject_cons hclose,
    rest_advance hclose⟩

/-- How an entry of a map is taken. -/
def entryStep (item : Shape) (name : String) (m : Dict item.Val) (c : Cursor) :
    Except Located (Dict item.Val × Cursor) := do
  let c ← c.colon
  let (v, c) ← item.scan c
  return (m.insert name v, c)

theorem takesMembers_entries {item : Shape} : ∀ (es : List (String × item.Val)),
    (∀ e ∈ es, Takes item.scan (item.write e.2).chars (item.reread e.2)) → ∀ m : Dict item.Val,
      TakesMembers (entryStep item) (es.map fun e => (e.1, (item.write e.2).chars)) m
        ((es.map fun e => (e.1, item.reread e.2)).foldl (fun m e => m.insert e.1 e.2) m)
  | [], _, m => .nil m
  | e :: es, h, m => by
    obtain ⟨hfirst, hes⟩ := List.forall_mem_cons.mp h
    refine .cons ?_ (takesMembers_entries es hes (m.insert e.1 (item.reread e.2)))
    intro c tail htext htail
    obtain ⟨c', hread, hend⟩ := hfirst c.advance tail (rest_advance htext) htail
    refine ⟨c', ?_, hend⟩
    rw [entryStep, colon_cons htext]
    simp only [bind, Except.bind, hread]
    rfl

theorem dictionary_takes {item : Shape} {v : Dict item.Val}
    (h : ∀ e ∈ v.entries, Takes item.scan (item.write e.2).chars (item.reread e.2)) :
    Takes (Shape.dictionary item).scan ((Shape.dictionary item).write v).chars
      ((Shape.dictionary item).reread v) := by
  intro c rest htext hrest
  -- The entries come in order, so what they are inserted into is the map of the values reread.
  have hinserted : (v.entries.map fun e => (e.1, item.reread e.2)).foldl
      (fun m e => m.insert e.1 e.2) (SortedMap.empty : Dict item.Val) =
        SortedMap.mapValues (fun _ => item.reread) v :=
    SortedMap.ofList_entries (SortedMap.mapValues (fun _ => item.reread) v)
  have htexts : ((SortedMap.mapValues (fun _ => item.write) v).entries.map
      fun m => (m.1, m.2.chars)) = v.entries.map fun e => (e.1, (item.write e.2).chars) :=
    List.map_map ..
  have hms := takesMembers_entries v.entries h SortedMap.empty
  rw [hinserted, ← htexts] at hms
  obtain ⟨hstart, hpeek, c₁, hmembers, hclose, hend⟩ := members_takes hms htext
  refine ⟨c₁.advance, ?_, hend⟩
  unfold entryStep at hmembers
  rw [Shape.scan, hstart]
  simp only [bind, Except.bind, hpeek, if_true] at hmembers ⊢
  rw [hmembers]
  simp only [hclose]
  rfl

theorem record_takes {form : RecordForm} {fields : Fields} (hidentity : form.identity = none)
    {v : fields.Val}
    (h : TakesMembers (fields.step form.lenient)
      ((fields.write v).map fun m => (m.1, m.2.chars)) fields.unseen (fields.written v))
    (hfinish : fields.finish (fields.written v) = .ok (fields.reread v)) :
    Takes (Shape.record form fields).scan (Json.object (fields.write v)).chars
      (fields.reread v) := by
  intro c rest htext hrest
  obtain ⟨hstart, hpeek, c₁, hmembers, hclose, hend⟩ := members_takes h htext
  refine ⟨c₁.advance, ?_, hend⟩
  unfold Fields.step at hmembers
  rw [Shape.scan, hstart]
  simp only [bind, Except.bind, hpeek, if_true, hidentity, Option.isSome_none, Bool.false_eq_true,
    false_and, and_false, if_false]
  refine (congrArg (Except.bind · fun r => r.2.endObject >>= fun c =>
    c.check (fields.finish r.1) >>= fun v => pure (v, c)) hmembers).trans ?_
  show (c₁.endObject >>= fun c => c.check (fields.finish (fields.written v)) >>= fun v =>
    pure (v, c)) = _
  rw [hclose]
  show (c₁.advance.check (fields.finish (fields.written v)) >>= fun v => pure (v, c₁.advance)) = _
  rw [hfinish]
  rfl

end Cursor

mutual

/-- The compact text of a value is read as the value reread. -/
theorem Shape.scan_takes : ∀ (s : Shape), s.wellFormed = true → s.plain = true → ∀ v : s.Val,
    Takes s.scan (s.write v).chars (s.reread v)
  | .anything, _, h, _ => nomatch h
  | .boolean, _, _, v => (scanBoolean_takes v).congr fun _ => by rw [Shape.scan]
  | .text, _, _, v => (scanText_takes "a string" v).congr fun _ => by rw [Shape.scan]
  | .bytes, _, _, v => (scanBytes_takes v).congr fun _ => by rw [Shape.scan]
  | .integer width, _, _, v => (scanInteger_takes width v).congr fun _ => by rw [Shape.scan]
  | .choice _ _, h, _, v =>
    (scanChoice_takes (of_decide_eq_true h) v).congr fun _ => by rw [Shape.scan]
  | .numberOrName, _, _, v => (scanNumberOrName_takes v).congr fun _ => by rw [Shape.scan]
  | .instant, _, _, t => (scanInstant_takes t).congr fun _ => by rw [Shape.scan]
  | .sequence item, h, hplain, v => sequence_takes fun a _ =>
    ⟨item.begins_write hplain a, item.scan_takes h hplain a⟩
  | .dictionary item, h, hplain, v => dictionary_takes fun e _ => item.scan_takes h hplain e.2
  | .record form fields, h, hplain, v => by
    obtain ⟨nodup, -, hfields⟩ := Shape.wellFormed_record h
    obtain ⟨hidentity, hplain⟩ := (Bool.and_eq_true _ _).mp hplain
    have hidentity : form.identity = none := Option.isNone_iff_eq_none.mp hidentity
    have hwrite : (Shape.record form fields).write v = .object (fields.write v) := by
      rw [Shape.write, RecordForm.stamps, hidentity]
      rfl
    rw [hwrite]
    exact record_takes hidentity (fields.takes_write form.lenient hfields hplain nodup v)
      (fields.finish_written hplain v)

/-- The members that are written for the fields of a record are taken into their slots. -/
theorem Fields.takes_write (lenient : Bool) : ∀ (fs : Fields), fs.wellFormed lenient = true →
    fs.plain = true → fs.names.Nodup → ∀ v : fs.Val,
      TakesMembers (fs.step lenient) ((fs.write v).map fun m => (m.1, m.2.chars)) fs.unseen
        (fs.written v)
  | .nil, _, _, _, _ => .nil _
  | .cons name p s rest, h, hplain, nodup, (x, vs) => by
    obtain ⟨hhead, hrest⟩ := (Bool.and_eq_true _ _).mp h
    have hs := ((Bool.and_eq_true _ _).mp hhead).2
    obtain ⟨hplain, hplainRest⟩ := (Bool.and_eq_true _ _).mp hplain
    obtain ⟨hname, nodup⟩ := List.nodup_cons.mp nodup
    have hothers : name ∉ ((rest.write vs).map fun m => (m.1, m.2.chars)).map Prod.fst := by
      rw [List.map_map]
      exact fun hmem => hname ((rest.names_write vs).subset hmem)
    -- Whatever is in the first slot, the members of the other fields leave it there.
    have hrest (slot : Slot s.Val) : TakesMembers ((Fields.cons name p s rest).step lenient)
        ((rest.write vs).map fun m => (m.1, m.2.chars)) (slot, rest.unseen)
        (slot, rest.written vs) :=
      Fields.takesMembers_cons slot hothers (rest.takes_write lenient hrest hplainRest nodup vs)
    have hfilled (x : s.Val) : TakesMember ((Fields.cons name p s rest).step lenient)
        (name, (s.write x).chars) (.unseen, rest.unseen) (.filled (s.reread x), rest.unseen) :=
      Fields.takesMember_first rest.unseen fun c tail htext htail =>
        Slot.scan_takes _ (s.begins_write hplain x) (s.scan_takes hs hplain x) htext htail
    cases p with
    | optional =>
      cases x with
      | none => exact hrest .unseen
      | some x => exact .cons (hfilled x) (hrest _)
    | nullable =>
      cases x with
      | none =>
        exact .cons (Fields.takesMember_first rest.unseen fun c tail htext _ =>
          Slot.scan_null s.scan htext) (hrest .blank)
      | some x => exact .cons (hfilled x) (hrest _)
    | defaulted => exact .cons (hfilled x) (hrest _)
    | required => exact .cons (hfilled x) (hrest _)

end

/-! ### Types that are written as documents -/

/-- The text of a value of a well-formed plain shape is read as the value reread. -/
theorem Shape.readText_render {s : Shape} (h : s.wellFormed = true) (plain : s.plain = true)
    (v : s.Val) : s.readText (s.write v).render = .ok (s.reread v) := by
  have hends : Ends [] := fun _ hx => nomatch hx
  obtain ⟨c, hread, hend⟩ := s.scan_takes h plain v (Cursor.ofString (s.write v).render) []
    (List.append_nil _).symm hends
  have hfinish : c.finish = .ok () := by
    rw [finish, skipBlanks, hend]
    rfl
  rw [readText, hread]
  show (c.finish >>= fun _ => pure (s.reread v)) = _
  rw [hfinish]
  rfl

/-- The text of a value of a well-formed plain type is read as the value reread. -/
theorem Document.readText_render {α : Type} [Document α] (h : (shape α).wellFormed = true)
    (plain : (shape α).plain = true) (a : α) : readText α (write a).render = .ok (reread a) := by
  rw [readText, write, Shape.readText_render h plain]
  rfl

end ClusterOperator
