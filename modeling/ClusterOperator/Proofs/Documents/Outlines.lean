import ClusterOperator.Proofs.Documents.Scans

/-!
# The outline of an object

The outline of the text of an object says which members it has and where they stand, without looking
at their values. A record is read from the outline: each of its fields is read where the member of
its name stands, and everything else in the text makes no difference.

## Main definitions

* `Outline`, `Outline.ofText`: the members of the text of an object.
* `Outline.named`: where the members of a name stand.
* `Fields.fill`, `Fields.Filled`: the slots of fields from an outline.

## Main results

* `Shape.readText_record`: a record is read from the outline of its text.
* `Fields.fill_eq_ok`: a strict record reads each field from at most one member.
-/

namespace ClusterOperator

open Cursor

/-- The members of an object: their names, and the places of the colons behind them. -/
abbrev Outline : Type := List (String × Cursor)

namespace Outline

/-- Takes down a member and passes over its value. -/
def step (name : String) (ms : Outline) (c : Cursor) : Except Located (Outline × Cursor) := do
  let behind ← (← c.colon).skipValue
  return (ms ++ [(name, c)], behind)

/-- The outline of a text that is an object. -/
def ofText (text : String) : Except Located Outline := do
  let c ← (Cursor.ofString text).start
  if c.peek = some '\x7b' then
    let (ms, c) ← members step (c.rest.length + 1) true [] c.advance
    let c ← c.endObject
    c.finish
    return ms
  else .error (c.unexpected "a map")

/-- Where the members of a name stand. -/
def named (ms : Outline) (name : String) : List Cursor :=
  (ms.filter fun m => name = m.1).map Prod.snd

variable {ms : Outline} {name : String}

theorem named_cons_self (c : Cursor) (ms : Outline) (name : String) :
    named ((name, c) :: ms) name = c :: ms.named name := by
  simp [named]

theorem named_cons_of_ne {m : String × Cursor} (h : name ≠ m.1) :
    named (m :: ms) name = ms.named name := by
  simp [named, h]

end Outline

/-! ### Reading from an outline -/

namespace Fields

/-- Reads a member of an outline into the slot of its field, if there is one. -/
def put? (lenient : Bool) (fs : Fields) (slots : fs.Slots) (m : String × Cursor) :
    Except Located fs.Slots :=
  match fs.scanMember lenient m.1 slots m.2 with
  | some r => r.map Prod.fst
  | none => .ok slots

/-- The slots of fields after the members of an outline. -/
def fill (lenient : Bool) (fs : Fields) (ms : Outline) (slots : fs.Slots) :
    Except Located fs.Slots :=
  ms.foldlM (fs.put? lenient) slots

variable {fs : Fields} {lenient : Bool}

theorem fill_cons (m : String × Cursor) (ms : Outline) (slots : fs.Slots) :
    fs.fill lenient (m :: ms) slots =
      fs.put? lenient slots m >>= fun slots => fs.fill lenient ms slots :=
  List.foldlM_cons

/-- A member that is in an outline is taken as the outline is: either it is refused, or the reader
stops behind it. -/
theorem step_of_outline (skips : SkipsMember (fs.step lenient)) {name : String}
    {done all : Outline} {c c' : Cursor} (h : Outline.step name done c = .ok (all, c'))
    (slots : fs.Slots) :
    all = done ++ [(name, c)] ∧
      fs.step lenient name slots c = (fs.put? lenient slots (name, c)).map (·, c') := by
  obtain ⟨d, hcolon, h⟩ := bind_eq_ok.mp h
  obtain ⟨e, hskip, h⟩ := bind_eq_ok.mp h
  cases h
  refine ⟨rfl, ?_⟩
  cases hscan : fs.scanMember lenient name slots c with
  | none =>
    unfold step put?
    simp only [hscan, hcolon, bind, Except.bind, hskip]
    rfl
  | some r =>
    have hstep : fs.step lenient name slots c = r := by
      unfold step
      simp only [hscan]
    have hput : fs.put? lenient slots (name, c) = r.map Prod.fst := by
      unfold put?
      simp only [hscan]
    rw [hstep, hput]
    cases r with
    | error e => rfl
    | ok r =>
      obtain ⟨slots', c''⟩ := r
      obtain ⟨d', hcolon', passes⟩ := skips name slots c slots' c'' hstep
      cases hcolon.symm.trans hcolon'
      cases hskip.symm.trans (skipValue_eq_ok.mpr passes)
      rfl

/-- The members of an object are taken as they are in its outline. -/
theorem members_of_outline (skips : SkipsMember (fs.step lenient)) : ∀ {fuel : Nat} {first : Bool}
    {done all : Outline} {c c' : Cursor},
      members Outline.step fuel first done c = .ok (all, c') → ∃ ms, all = done ++ ms ∧
        ∀ slots, members (fs.step lenient) fuel first slots c =
          (fs.fill lenient ms slots).map (·, c')
  | 0, _, _, _, _, _, h => by cases h
  | fuel + 1, first, done, all, c, c', h => by
    obtain ⟨next, hnext, h⟩ := bind_eq_ok.mp h
    cases next with
    | none =>
      cases h
      refine ⟨[], (List.append_nil _).symm, fun slots => ?_⟩
      rw [members, hnext]
      rfl
    | some key =>
      obtain ⟨name, d⟩ := key
      obtain ⟨⟨done', e⟩, hstep, h⟩ := bind_eq_ok.mp h
      obtain ⟨ms, rfl, hms⟩ := members_of_outline skips h
      refine ⟨(name, d) :: ms, ?_, fun slots => ?_⟩
      · rw [(step_of_outline skips hstep fs.unseen).1, List.append_assoc]
        rfl
      · rw [members, hnext]
        show (fs.step lenient name slots d >>= fun r =>
          members (fs.step lenient) fuel false r.1 r.2) = _
        rw [(step_of_outline skips hstep slots).2, fill_cons]
        cases fs.put? lenient slots (name, d) with
        | error problem => rfl
        | ok slots => exact hms slots

end Fields

/-- A record is read from the outline of its text, wherever in the text its members stand. -/
theorem Shape.readText_record {form : RecordForm} {fields : Fields}
    (hidentity : form.identity = none) (hplain : fields.plain = true) {text : String} {ms : Outline}
    (h : Outline.ofText text = .ok ms) (v : fields.Val) :
    (Shape.record form fields).readText text = .ok v ↔
      ∃ slots, fields.fill form.lenient ms fields.unseen = .ok slots ∧
        fields.finish slots = .ok v := by
  have hskips : SkipsMember (fields.step form.lenient) :=
    Fields.step_skips fun name slots c slots' c' => fields.scanMember_skips hplain
  obtain ⟨c, hstart, h⟩ := bind_eq_ok.mp h
  split at h
  · next hpeek =>
    obtain ⟨⟨all, d⟩, hmembers, h⟩ := bind_eq_ok.mp h
    obtain ⟨e, hend, h⟩ := bind_eq_ok.mp h
    obtain ⟨u, hfinish, h⟩ := bind_eq_ok.mp h
    cases h
    obtain ⟨ms, rfl, hms⟩ := Fields.members_of_outline hskips hmembers
    have hread : (Shape.record form fields).readText text =
        (do
          let slots ← fields.fill form.lenient ms fields.unseen
          e.check (fields.finish slots)) := by
      rw [readText, scan_record hidentity, hstart]
      simp only [bind, Except.bind, if_pos hpeek, hms]
      cases fields.fill form.lenient ms fields.unseen with
      | error problem => rfl
      | ok slots =>
        simp only [Except.map, hend]
        cases fields.finish slots with
        | error problem => rfl
        | ok v => exact congrArg (fun finished => finished >>= fun _ => Except.ok v) hfinish
    refine (Eq.congr_left hread).trans (bind_eq_ok.trans ?_)
    exact exists_congr fun slots => and_congr_right fun _ => mapError_eq_ok
  · cases h

/-! ### Strict records -/

/-- The slot of a field that is read where the members of its name stand: there is none, or there is
one and it is read. -/
def Slot.OfPlaces {α : Type} (scan : Cursor → Except Located (Slot α × Cursor)) :
    List Cursor → Slot α → Prop
  | [], slot => slot = .unseen
  | [c], slot => ∃ c', scan c = .ok (slot, c')
  | _ :: _ :: _, _ => False

theorem Slot.seen_of_scan {α : Type} {scan : Cursor → Except Located (α × Cursor)}
    {allowsNull : Bool} {c c' : Cursor} {slot : Slot α}
    (h : Slot.scan allowsNull scan c = .ok (slot, c')) : slot.seen = true := by
  obtain ⟨d, -, h⟩ := bind_eq_ok.mp h
  obtain ⟨null, -, h⟩ := bind_eq_ok.mp h
  cases null with
  | some e =>
    cases h
    rfl
  | none =>
    obtain ⟨⟨a, e⟩, -, h⟩ := bind_eq_ok.mp h
    cases h
    rfl

namespace Fields

variable {fs : Fields} {lenient : Bool}

/-- The slots of the fields of a strict record, each read where the members of its name stand. -/
def Filled (ms : Outline) : (fs : Fields) → fs.Slots → Prop
  | .nil, _ => True
  | .cons field presence shape rest, (slot, slots) =>
    Slot.OfPlaces (Slot.scan (presence.allowsNull false) shape.scan) (ms.named field) slot ∧
      rest.Filled ms slots

/-- Reads a member of an outline into the slot of a field if it has its name. -/
def putFirst? (field : String) (presence : Presence) (shape : Shape) (slot : Slot shape.Val)
    (m : String × Cursor) : Except Located (Slot shape.Val) :=
  if field = m.1 then
    if slot.seen then .error (m.2.skipBlanks.failWith (.duplicateField m.1))
    else (Slot.scan (presence.allowsNull false) shape.scan m.2).map Prod.fst
  else .ok slot

theorem scanMember_of_not_mem (lenient : Bool) {name : String} {c : Cursor} : ∀ {fs : Fields}
    (slots : fs.Slots), name ∉ fs.names → fs.scanMember lenient name slots c = none
  | .nil, _, _ => by rw [scanMember]
  | .cons field presence shape rest, (slot, slots), h => by
    obtain ⟨hne, hrest⟩ := not_or.mp (mt List.mem_cons.mpr h)
    rw [scanMember, if_neg (Ne.symm hne), scanMember_of_not_mem lenient slots hrest]
    rfl

theorem put?_of_not_mem {slots : fs.Slots} {m : String × Cursor} (h : m.1 ∉ fs.names) :
    fs.put? lenient slots m = .ok slots := by
  unfold put?
  rw [scanMember_of_not_mem lenient slots h]

variable {field : String} {presence : Presence} {shape : Shape} {rest : Fields}

theorem ok_prod_iff {ε α β : Type} {a a' : α} {b b' : β} :
    (Except.ok (a, b) : Except ε (α × β)) = .ok (a', b') ↔
      (Except.ok a : Except ε α) = .ok a' ∧ (Except.ok b : Except ε β) = .ok b' := by
  simp only [Except.ok.injEq, Prod.mk.injEq]

/-- The slots of a first field and of the others are filled independently. -/
theorem put?_cons_eq_ok (hfield : field ∉ rest.names) {m : String × Cursor}
    {slot slot' : Slot shape.Val} {slots slots' : rest.Slots} :
    (Fields.cons field presence shape rest).put? false (slot, slots) m = .ok (slot', slots') ↔
      putFirst? field presence shape slot m = .ok slot' ∧ rest.put? false slots m = .ok slots' := by
  obtain ⟨name, c⟩ := m
  rw [putFirst?]
  by_cases h : field = name
  · subst h
    rw [put?_of_not_mem hfield]
    unfold put?
    dsimp only
    rw [scanMember, if_pos rfl, if_pos rfl]
    by_cases hseen : slot.seen = true
    · rw [if_pos ⟨hseen, rfl⟩, if_pos hseen]
      exact iff_of_false (fun h => nomatch h) fun h => nomatch h.1
    · rw [if_neg (fun h => hseen h.1), if_neg hseen]
      cases Slot.scan (presence.allowsNull false) shape.scan c with
      | error problem => exact iff_of_false (fun h => nomatch h) fun h => nomatch h.1
      | ok r => exact ok_prod_iff
  · unfold put?
    dsimp only
    rw [scanMember, if_neg h, if_neg h]
    cases rest.scanMember false name slots c with
    | none => exact ok_prod_iff
    | some r =>
      cases r with
      | error problem => exact iff_of_false (fun h => nomatch h) fun h => nomatch h.2
      | ok r =>
        exact ok_prod_iff

theorem fill_cons_eq_ok (hfield : field ∉ rest.names) {slot' : Slot shape.Val}
    {slots' : rest.Slots} : ∀ (ms : Outline) (slot : Slot shape.Val) (slots : rest.Slots),
      (Fields.cons field presence shape rest).fill false ms (slot, slots) = .ok (slot', slots') ↔
        ms.foldlM (putFirst? field presence shape) slot = .ok slot' ∧
          rest.fill false ms slots = .ok slots'
  | [], _, _ => ok_prod_iff
  | m :: ms, slot, slots => by
    rw [fill_cons, List.foldlM_cons, bind_eq_ok, bind_eq_ok]
    refine (Eq.congr_left (fill_cons m ms _)).trans (bind_eq_ok.trans ?_)
    constructor
    · rintro ⟨⟨slot₁, slots₁⟩, hm, hms⟩
      obtain ⟨hh, hr⟩ := (put?_cons_eq_ok hfield).mp hm
      obtain ⟨hh', hr'⟩ := (fill_cons_eq_ok hfield ms slot₁ slots₁).mp hms
      exact ⟨⟨slot₁, hh, hh'⟩, slots₁, hr, hr'⟩
    · rintro ⟨⟨slot₁, hh, hh'⟩, slots₁, hr, hr'⟩
      exact ⟨(slot₁, slots₁), (put?_cons_eq_ok hfield).mpr ⟨hh, hr⟩,
        (fill_cons_eq_ok hfield ms slot₁ slots₁).mpr ⟨hh', hr'⟩⟩

/-- Once the slot of a field is filled, no other member may have its name. -/
theorem foldlM_putFirst?_seen {slot slot' : Slot shape.Val} (seen : slot.seen = true) :
    ∀ ms : Outline, ms.foldlM (putFirst? field presence shape) slot = .ok slot' ↔
      ms.named field = [] ∧ slot = slot'
  | [] => ⟨fun h => ⟨rfl, Except.ok.inj h⟩, fun h => congrArg Except.ok h.2⟩
  | m :: ms => by
    rw [List.foldlM_cons, putFirst?]
    by_cases h : field = m.1
    · obtain ⟨name, c⟩ := m
      cases h
      rw [if_pos rfl, if_pos seen, Outline.named_cons_self]
      exact iff_of_false (fun h => nomatch h) fun h => nomatch h.1
    · rw [if_neg h, Outline.named_cons_of_ne h]
      exact foldlM_putFirst?_seen seen ms

/-- The slot of a field is filled from at most one member. -/
theorem foldlM_putFirst? {slot' : Slot shape.Val} : ∀ ms : Outline,
    ms.foldlM (putFirst? field presence shape) .unseen = .ok slot' ↔
      Slot.OfPlaces (Slot.scan (presence.allowsNull false) shape.scan) (ms.named field) slot'
  | [] => ⟨fun h => (Except.ok.inj h).symm, fun h => congrArg Except.ok (Eq.symm h)⟩
  | m :: ms => by
    rw [List.foldlM_cons, putFirst?]
    by_cases h : field = m.1
    · obtain ⟨name, c⟩ := m
      cases h
      rw [if_pos rfl, if_neg (fun h => nomatch h), Outline.named_cons_self, bind_eq_ok]
      constructor
      · rintro ⟨slot, hslot, hrest⟩
        obtain ⟨⟨slot, c'⟩, hscan, rfl⟩ := map_eq_ok.mp hslot
        obtain ⟨hnone, rfl⟩ := (foldlM_putFirst?_seen (Slot.seen_of_scan hscan) ms).mp hrest
        rw [hnone]
        exact ⟨c', hscan⟩
      · intro h
        cases hmore : Outline.named ms name with
        | nil =>
          rw [hmore] at h
          obtain ⟨c', hscan⟩ := h
          exact ⟨slot', map_eq_ok.mpr ⟨_, hscan, rfl⟩,
            (foldlM_putFirst?_seen (Slot.seen_of_scan hscan) ms).mpr ⟨hmore, rfl⟩⟩
        | cons d more =>
          rw [hmore] at h
          exact h.elim
    · rw [if_neg h, Outline.named_cons_of_ne h]
      exact foldlM_putFirst? ms

/-- The fields of a strict record are read from an outline each from at most one member. -/
theorem fill_eq_ok {ms : Outline} : ∀ {fs : Fields} {slots : fs.Slots}, fs.names.Nodup →
    (fs.fill false ms fs.unseen = .ok slots ↔ fs.Filled ms slots)
  | .nil, _, _ => by
    have hfill : ∀ ms : Outline, Fields.nil.fill false ms () = .ok () := by
      intro ms
      induction ms with
      | nil => rfl
      | cons m ms ih =>
        have hput : Fields.nil.put? false () m = .ok () := put?_of_not_mem List.not_mem_nil
        refine (fill_cons m ms _).trans ?_
        rw [hput]
        exact ih
    exact iff_of_true (hfill ms) trivial
  | .cons field presence shape rest, (slot, slots), nodup => by
    obtain ⟨hfield, nodup⟩ := List.nodup_cons.mp nodup
    rw [Filled, ← fill_eq_ok nodup, ← foldlM_putFirst?]
    exact fill_cons_eq_ok hfield ms .unseen rest.unseen

end Fields

end ClusterOperator
