import ClusterOperator.Document

/-!
# Records read field by field

A record is read member by member, into slots. Where no name occurs twice among the members, the
order in which they are listed makes no difference: each field has the value that is read from the
member of its name, and members that no field has are only asked whether they state the kind of the
object.

## Main definitions

* `Json.NamesOnce`: no name occurs twice among members.
* `Presence.accept`, `Fields.accept`: the value of a field, and of a record, from what is found
  under the names.

## Main results

* `Shape.read_record_iff`: a record is read by looking up its fields.
* `Fields.accept_congr`: only what is found under the names of the fields matters.
-/

namespace ClusterOperator

section Results

variable {ε α β : Type}

theorem bind_eq_ok {x : Except ε α} {f : α → Except ε β} {b : β} :
    (x >>= f) = .ok b ↔ ∃ a, x = .ok a ∧ f a = .ok b := by
  cases x with
  | error e => exact ⟨nofun, fun ⟨_, h, _⟩ => nomatch h⟩
  | ok a => exact ⟨fun h => ⟨a, rfl, h⟩, fun ⟨_, ha, h⟩ => Except.ok.inj ha ▸ h⟩

theorem map_eq_ok {x : Except ε α} {f : α → β} {b : β} :
    x.map f = .ok b ↔ ∃ a, x = .ok a ∧ f a = b := by
  cases x with
  | error e => exact ⟨nofun, fun ⟨_, h, _⟩ => nomatch h⟩
  | ok a => exact ⟨fun h => ⟨a, rfl, Except.ok.inj h⟩,
      fun ⟨_, ha, h⟩ => congrArg _ ((congrArg f (Except.ok.inj ha)).trans h)⟩

theorem toOption_eq_some {x : Except ε α} {a : α} : x.toOption = some a ↔ x = .ok a := by
  cases x with
  | error e => exact iff_of_false nofun nofun
  | ok a' => exact ⟨fun h => congrArg _ (Option.some.inj h), fun h => congrArg _ (Except.ok.inj h)⟩

theorem mapError_eq_ok {δ : Type} {x : Except ε α} {f : ε → δ} {a : α} :
    x.mapError f = .ok a ↔ x = .ok a := by
  cases x with
  | error e => exact ⟨nofun, nofun⟩
  | ok a' => exact ⟨fun h => congrArg _ (Except.ok.inj h), fun h => congrArg _ (Except.ok.inj h)⟩

theorem mapError_eq_error {δ : Type} {x : Except ε α} {f : ε → δ} {e : δ} :
    x.mapError f = .error e ↔ ∃ e', x = .error e' ∧ f e' = e := by
  cases x with
  | error e' => exact ⟨fun h => ⟨e', rfl, Except.error.inj h⟩,
      fun ⟨_, he, h⟩ => congrArg _ ((congrArg f (Except.error.inj he)).trans h)⟩
  | ok a => exact ⟨nofun, fun ⟨_, h, _⟩ => nomatch h⟩

/-- A pair of results is there if both are. -/
theorem pair_eq_ok {x : Except ε α} {y : Except ε β} {r : α × β} :
    (do let a ← x; let b ← y; return (a, b)) = Except.ok r ↔ x = .ok r.1 ∧ y = .ok r.2 := by
  rw [bind_eq_ok]
  constructor
  · rintro ⟨a, ha, h⟩
    obtain ⟨b, hb, h⟩ := bind_eq_ok.mp h
    cases h
    exact ⟨ha, hb⟩
  · rintro ⟨ha, hb⟩
    exact ⟨r.1, ha, bind_eq_ok.mpr ⟨r.2, hb, rfl⟩⟩

/-- A fold that asks something of every item succeeds if all answers are given and the fold
succeeds without asking. -/
theorem foldlM_ask_eq_ok {σ γ : Type} (ask : α → Except ε γ) (f : σ → α → Except ε σ) (r : σ) :
    ∀ (l : List α) (s : σ),
      l.foldlM (fun s a => do let _ ← ask a; f s a) s = .ok r ↔
        (∀ a ∈ l, ∃ c, ask a = .ok c) ∧ l.foldlM f s = .ok r
  | [], s => by simp
  | a :: l, s => by
    rw [List.foldlM_cons, List.foldlM_cons, bind_eq_ok, bind_eq_ok]
    constructor
    · rintro ⟨s', hs, hl⟩
      obtain ⟨c, hc, hs⟩ := bind_eq_ok.mp hs
      obtain ⟨hall, hl⟩ := (foldlM_ask_eq_ok ask f r l s').mp hl
      exact ⟨List.forall_mem_cons.mpr ⟨⟨c, hc⟩, hall⟩, s', hs, hl⟩
    · rintro ⟨hall, s', hs, hl⟩
      obtain ⟨⟨c, hc⟩, hall⟩ := List.forall_mem_cons.mp hall
      exact ⟨s', bind_eq_ok.mpr ⟨c, hc, hs⟩, (foldlM_ask_eq_ok ask f r l s').mpr ⟨hall, hl⟩⟩

end Results

/-- No name occurs twice among members. -/
def Json.NamesOnce (ms : List (String × Json)) : Prop := (ms.map Prod.fst).Nodup

open SortedMap.Entries (lookup)

theorem lookup_eq_none_iff {κ α : Type} [KeyOrder κ] {k : κ} :
    ∀ {es : List (κ × α)}, lookup k es = none ↔ k ∉ es.map Prod.fst
  | [] => by simp [lookup]
  | (k', v) :: es => by
    by_cases h : k = k'
    · simp [lookup, h]
    · simpa [lookup, h] using lookup_eq_none_iff

/-! ### One field -/

namespace Presence

/-- What a slot holds when a field is found or not found. -/
def slot (p : Presence) (lenient : Bool) (s : Shape) :
    Option Json → Except ReadProblem (Slot s.Val)
  | none => .ok .unseen
  | some j => if p.allowsNull lenient && j.isNull then .ok .blank else (s.read j).map .filled

/-- The value of a field from what is found under its name. -/
def accept (p : Presence) (lenient : Bool) (s : Shape) (missing : ReadProblem)
    (found : Option Json) : Except ReadProblem (p.Val s.Val) := do
  let found ← p.slot lenient s found
  p.settle s.default missing found.value?

end Presence

/-- The values of the fields of a record from what is found under their names. -/
def Fields.accept (lenient : Bool) :
    (fs : Fields) → (String → Option Json) → Except ReadProblem fs.Val
  | .nil, _ => .ok ()
  | .cons name p s rest, look => do
    let v ← p.accept lenient s (.missingField name) (look name)
    let vs ← rest.accept lenient look
    return (v, vs)

theorem Fields.accept_congr (lenient : Bool) {look look' : String → Option Json} :
    ∀ (fs : Fields), (∀ name ∈ fs.names, look name = look' name) →
      fs.accept lenient look = fs.accept lenient look'
  | .nil, _ => rfl
  | .cons name p s rest, h => by
    obtain ⟨hname, hrest⟩ := List.forall_mem_cons.mp h
    unfold Fields.accept
    rw [hname, Fields.accept_congr lenient rest hrest]

/-- The values of a first field and of the others, each from what is found. -/
theorem Fields.accept_cons {lenient : Bool} {name : String} {p : Presence} {s : Shape}
    {rest : Fields} {look : String → Option Json} {v : p.Val s.Val} {vs : rest.Val} :
    (Fields.cons name p s rest).accept lenient look = .ok (v, vs) ↔
      p.accept lenient s (.missingField name) (look name) = .ok v ∧
        rest.accept lenient look = .ok vs :=
  pair_eq_ok (r := (v, vs))

/-! ### The fold over the members -/

namespace Fields

/-- A member of the name of the first field fills its slot. -/
theorem put_same (lenient : Bool) (field : String) (p : Presence) (s : Shape) (rest : Fields)
    (j : Json) (slot : Slot s.Val) (slots : rest.Slots) :
    (Fields.cons field p s rest).put lenient field j (slot, slots) =
      (p.slot lenient s (some j)).map fun slot => (slot, slots) := by
  refine (if_pos rfl).trans ?_
  by_cases hnull : (p.allowsNull lenient && j.isNull) = true
  · refine (if_pos hnull).trans ?_
    rw [Presence.slot, if_pos hnull]
    rfl
  · refine (if_neg hnull).trans ?_
    rw [Presence.slot, if_neg hnull]
    cases s.read j <;> rfl

/-- A member of another name is left to the other fields. -/
theorem put_other (lenient : Bool) {field name : String} (h : field ≠ name) (p : Presence)
    (s : Shape) (rest : Fields) (j : Json) (slot : Slot s.Val) (slots : rest.Slots) :
    (Fields.cons field p s rest).put lenient name j (slot, slots) =
      (rest.put lenient name j slots).map fun slots => (slot, slots) :=
  (if_neg h).trans (by cases rest.put lenient name j slots <;> rfl)

/-- A member that no field has is skipped. -/
theorem put_of_not_mem (lenient : Bool) {name : String} (j : Json) :
    ∀ (fs : Fields) (slots : fs.Slots), name ∉ fs.names → fs.put lenient name j slots = .ok slots
  | .nil, _, _ => rfl
  | .cons field p s rest, (slot, slots), h => by
    obtain ⟨hne, hrest⟩ := not_or.mp (mt List.mem_cons.mpr h)
    rw [put_other lenient (Ne.symm hne), put_of_not_mem lenient j rest slots hrest]
    rfl

/-- A member changes the slot of the first field if it has its name. -/
def putHead (lenient : Bool) (field : String) (p : Presence) (s : Shape) (slot : Slot s.Val)
    (m : String × Json) : Except ReadProblem (Slot s.Val) :=
  if field = m.1 then p.slot lenient s (some m.2) else .ok slot

/-- The slots of a first field and of the others are filled independently. -/
theorem put_cons_eq_ok {lenient : Bool} {field : String} {p : Presence} {s : Shape}
    {rest : Fields} (hfield : field ∉ rest.names) (m : String × Json)
    {slot slot' : Slot s.Val} {slots slots' : rest.Slots} :
    (Fields.cons field p s rest).put lenient m.1 m.2 (slot, slots) = .ok (slot', slots') ↔
      putHead lenient field p s slot m = .ok slot' ∧
        rest.put lenient m.1 m.2 slots = .ok slots' := by
  obtain ⟨name, j⟩ := m
  by_cases h : field = name
  · subst h
    rw [put_same, putHead, if_pos rfl, put_of_not_mem lenient j rest slots hfield]
    refine map_eq_ok.trans ?_
    constructor
    · rintro ⟨slot'', hs, heq⟩
      cases heq
      exact ⟨hs, rfl⟩
    · rintro ⟨hs, heq⟩
      cases heq
      exact ⟨slot', hs, rfl⟩
  · rw [put_other lenient h, putHead, if_neg h]
    refine map_eq_ok.trans ?_
    constructor
    · rintro ⟨slots'', hs, heq⟩
      cases heq
      exact ⟨rfl, hs⟩
    · rintro ⟨heq, hs⟩
      cases heq
      exact ⟨slots', hs, rfl⟩

theorem foldlM_put_cons_eq_ok {lenient : Bool} {field : String} {p : Presence} {s : Shape}
    {rest : Fields} (hfield : field ∉ rest.names) {slot' : Slot s.Val} {slots' : rest.Slots} :
    ∀ (ms : List (String × Json)) (slot : Slot s.Val) (slots : rest.Slots),
      ms.foldlM (fun (t : (Fields.cons field p s rest).Slots) m =>
          (Fields.cons field p s rest).put lenient m.1 m.2 t) (slot, slots) =
        .ok (slot', slots') ↔
      ms.foldlM (putHead lenient field p s) slot = .ok slot' ∧
        ms.foldlM (fun t m => rest.put lenient m.1 m.2 t) slots = .ok slots'
  | [], slot, slots =>
    ⟨fun h => by cases h; exact ⟨rfl, rfl⟩, fun ⟨h, h'⟩ => by cases h; cases h'; rfl⟩
  | m :: ms, slot, slots => by
    rw [List.foldlM_cons, List.foldlM_cons, bind_eq_ok, bind_eq_ok]
    refine bind_eq_ok.trans ?_
    constructor
    · rintro ⟨⟨slot₁, slots₁⟩, hm, hms⟩
      obtain ⟨hh, hr⟩ := (put_cons_eq_ok hfield m).mp hm
      obtain ⟨hh', hr'⟩ := (foldlM_put_cons_eq_ok hfield ms slot₁ slots₁).mp hms
      exact ⟨⟨slot₁, hh, hh'⟩, slots₁, hr, hr'⟩
    · rintro ⟨⟨slot₁, hh, hh'⟩, slots₁, hr, hr'⟩
      exact ⟨(slot₁, slots₁), (put_cons_eq_ok hfield m).mpr ⟨hh, hr⟩,
        (foldlM_put_cons_eq_ok hfield ms slot₁ slots₁).mpr ⟨hh', hr'⟩⟩

/-- Members without the name of a field leave its slot as it is. -/
theorem foldlM_putHead_of_not_mem {lenient : Bool} {field : String} {p : Presence} {s : Shape}
    (slot : Slot s.Val) :
    ∀ (ms : List (String × Json)), field ∉ ms.map Prod.fst →
      ms.foldlM (putHead lenient field p s) slot = .ok slot
  | [], _ => rfl
  | m :: ms, h => by
    obtain ⟨hne, hms⟩ := not_or.mp (mt List.mem_cons.mpr h)
    rw [List.foldlM_cons, putHead, if_neg hne]
    exact foldlM_putHead_of_not_mem slot ms hms

/-- Among members whose names occur once, the slot of a field is filled by the one of its name. -/
theorem foldlM_putHead {lenient : Bool} {field : String} {p : Presence} {s : Shape} :
    ∀ (ms : List (String × Json)), Json.NamesOnce ms →
      ms.foldlM (putHead lenient field p s) .unseen = p.slot lenient s (lookup field ms)
  | [], _ => rfl
  | (name, j) :: ms, once => by
    obtain ⟨hname, once⟩ := List.nodup_cons.mp once
    rw [List.foldlM_cons, lookup, putHead]
    split
    · next heq =>
      subst heq
      cases hs : p.slot lenient s (some j) with
      | error e => rfl
      | ok slot => exact foldlM_putHead_of_not_mem slot ms hname
    · exact foldlM_putHead ms once

/-- The fields of a record, filled member by member and then finished, have the values that are
found under their names. -/
theorem fill_finish_eq_ok (lenient : Bool) {ms : List (String × Json)} (once : Json.NamesOnce ms) :
    ∀ (fs : Fields) (v : fs.Val), fs.names.Nodup →
      ((∃ slots, ms.foldlM (fun t m => fs.put lenient m.1 m.2 t) fs.unseen = .ok slots ∧
          fs.finish slots = .ok v) ↔
        fs.accept lenient (fun name => lookup name ms) = .ok v)
  | .nil, v, _ => by
    have hfold : ∀ (l : List (String × Json)),
        l.foldlM (fun t m => Fields.nil.put lenient m.1 m.2 t) Fields.nil.unseen = .ok () := by
      intro l
      induction l with
      | nil => rfl
      | cons m l ih => exact ih
    exact ⟨fun _ => rfl, fun _ => ⟨(), hfold ms, rfl⟩⟩
  | .cons field p s rest, (v, vs), nodup => by
    obtain ⟨hfield, nodup⟩ := List.nodup_cons.mp nodup
    have hrest := fill_finish_eq_ok lenient once rest vs nodup
    rw [Fields.accept_cons, ← hrest, Presence.accept, bind_eq_ok]
    constructor
    · rintro ⟨⟨slot, slots⟩, hfold, hfin⟩
      obtain ⟨hhead, htail⟩ := (foldlM_put_cons_eq_ok hfield ms .unseen rest.unseen).mp hfold
      rw [foldlM_putHead ms once] at hhead
      obtain ⟨v', hv, hfin⟩ := bind_eq_ok.mp hfin
      obtain ⟨vs', hvs, hfin⟩ := bind_eq_ok.mp hfin
      cases hfin
      exact ⟨⟨slot, hhead, hv⟩, slots, htail, hvs⟩
    · rintro ⟨⟨slot, hhead, hv⟩, slots, htail, hvs⟩
      rw [← foldlM_putHead ms once] at hhead
      exact ⟨(slot, slots), (foldlM_put_cons_eq_ok hfield ms .unseen rest.unseen).mpr
        ⟨hhead, htail⟩, bind_eq_ok.mpr ⟨v, hv, bind_eq_ok.mpr ⟨vs, hvs, rfl⟩⟩⟩

end Fields

/-! ### Records -/

/-- What states the kind of an object is no field of it. -/
def RecordForm.StampsApart (form : RecordForm) (fields : Fields) : Prop :=
  ∀ stamp ∈ form.stamps, stamp.1 ∉ fields.names

instance (form : RecordForm) (fields : Fields) : Decidable (form.StampsApart fields) :=
  inferInstanceAs (Decidable (∀ stamp ∈ form.stamps, stamp.1 ∉ fields.names))

/-- A member that is taken for a statement of the kind is no field. -/
theorem RecordForm.not_mem_of_checkStamp {form : RecordForm} {fields : Fields}
    (apart : form.StampsApart fields) {name : String} {j : Json}
    (h : form.checkStamp name j = .ok true) : name ∉ fields.names := by
  unfold RecordForm.StampsApart RecordForm.stamps at apart
  unfold RecordForm.checkStamp at h
  split at h
  · next apiVersion kind hid =>
    rw [hid] at apart
    split at h
    · next hname =>
      rcases hname.2 with rfl | rfl
      · exact apart ("apiVersion", .string apiVersion) (by simp)
      · exact apart ("kind", .string kind) (by simp)
    · cases h
  · cases h

/-- A record is read from members whose names occur once by looking up its fields, provided that
the statements of the kind are right. -/
theorem Shape.read_record_iff {form : RecordForm} {fields : Fields} (nodup : fields.names.Nodup)
    (apart : form.StampsApart fields) {ms : List (String × Json)} (once : Json.NamesOnce ms)
    (v : fields.Val) :
    (Shape.record form fields).read (.object ms) = .ok v ↔
      (∀ m ∈ ms, ∃ stated, form.checkStamp m.1 m.2 = .ok stated) ∧
        fields.accept form.lenient (fun name => lookup name ms) = .ok v := by
  have hstep : (fun (slots : fields.Slots) (m : String × Json) => (do
        if ← form.checkStamp m.1 m.2 then return slots
        fields.put form.lenient m.1 m.2 slots : Except ReadProblem fields.Slots)) =
      fun slots m => (do
        let _ ← form.checkStamp m.1 m.2
        fields.put form.lenient m.1 m.2 slots : Except ReadProblem fields.Slots) := by
    funext slots m
    cases hm : form.checkStamp m.1 m.2 with
    | error e => rfl
    | ok stated =>
      cases stated with
      | false => rfl
      | true =>
        exact (Fields.put_of_not_mem _ m.2 fields slots
          (RecordForm.not_mem_of_checkStamp apart hm)).symm
  have hread : (Shape.record form fields).read (.object ms) =
      (ms.foldlM (fun slots m => do
        let _ ← form.checkStamp m.1 m.2
        fields.put form.lenient m.1 m.2 slots) fields.unseen >>= fields.finish) :=
    congrArg (fun f => ms.foldlM f fields.unseen >>= fields.finish) hstep
  rw [hread, ← Fields.fill_finish_eq_ok form.lenient once fields v nodup]
  refine bind_eq_ok.trans ?_
  constructor
  · rintro ⟨slots, hfold, hfin⟩
    obtain ⟨hstamps, hfold⟩ := (foldlM_ask_eq_ok _ _ slots ms fields.unseen).mp hfold
    exact ⟨hstamps, slots, hfold, hfin⟩
  · rintro ⟨hstamps, slots, hfold, hfin⟩
    exact ⟨slots, (foldlM_ask_eq_ok _ _ slots ms fields.unseen).mpr ⟨hstamps, hfold⟩, hfin⟩

/-- A record that states no kind is read from what is found under the names of its fields alone. -/
theorem Shape.read_record_congr {form : RecordForm} {fields : Fields} (nodup : fields.names.Nodup)
    (unstamped : ∀ name j, form.checkStamp name j = .ok false) {ms ms' : List (String × Json)}
    (apart : form.StampsApart fields) (once : Json.NamesOnce ms) (once' : Json.NamesOnce ms')
    (same : ∀ name ∈ fields.names, lookup name ms = lookup name ms') {v : fields.Val}
    (h : (Shape.record form fields).read (.object ms) = .ok v) :
    (Shape.record form fields).read (.object ms') = .ok v := by
  obtain ⟨-, hfields⟩ := (read_record_iff nodup apart once v).mp h
  refine (read_record_iff nodup apart once' v).mpr ⟨fun m _ => ⟨false, unstamped _ _⟩, ?_⟩
  exact (Fields.accept_congr form.lenient fields same).symm.trans hfields

/-- The first field of a record that is read has the value that is found under its name. -/
theorem Shape.first_of_read {form : RecordForm} {name : String} {p : Presence} {s : Shape}
    {rest : Fields} (nodup : (Fields.cons name p s rest).names.Nodup)
    (apart : form.StampsApart (.cons name p s rest)) {ms : List (String × Json)}
    (once : Json.NamesOnce ms) {v : p.Val s.Val} {vs : rest.Val}
    (h : (Shape.record form (.cons name p s rest)).read (.object ms) = .ok (v, vs)) :
    p.accept form.lenient s (.missingField name) (lookup name ms) = .ok v :=
  (Fields.accept_cons.mp ((Shape.read_record_iff nodup apart once _).mp h).2).1

end ClusterOperator
