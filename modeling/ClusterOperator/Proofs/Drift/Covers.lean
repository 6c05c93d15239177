import ClusterOperator.Drift
import ClusterOperator.Proofs.Documents.RoundTrip
import ClusterOperator.Proofs.SortedMaps

/-!
# Documents that cover each other

A document states values and may leave others out. One document covers another if every value it
states stands there too. A document whose objects name each member once covers itself, and the
document of a value covers the document of what is read from it: what a document does not say it
does not state either.

## Main definitions

* `Json.Proper`: every object in a value names each member once.
* `Shape.Proper`, `Fields.Proper`: every free value in a value of a shape is proper.

## Main results

* `Drift.covers_self`: a proper document covers itself.
* `Shape.proper_write`: the document of a proper value is proper.
* `Shape.covers_reread`: the document of a proper value covers that of the value reread.
-/

namespace ClusterOperator

open SortedMap.Entries (lookup)

/-! ### Proper values -/

namespace Json

mutual

/-- Every object in a value names each member once. -/
def Proper : Json → Prop
  | array items => ProperItems items
  | object ms => NamesOnce ms ∧ ProperMembers ms
  | _ => True

/-- Every item of a list is proper. -/
def ProperItems : List Json → Prop
  | [] => True
  | j :: rest => j.Proper ∧ ProperItems rest

/-- Every member of an object is proper. -/
def ProperMembers : List (String × Json) → Prop
  | [] => True
  | (_, j) :: rest => j.Proper ∧ ProperMembers rest

end

theorem properItems_iff : ∀ {items : List Json}, ProperItems items ↔ ∀ j ∈ items, j.Proper
  | [] => by simp [ProperItems]
  | j :: rest => by simp [ProperItems, properItems_iff]

theorem properMembers_iff :
    ∀ {ms : List (String × Json)}, ProperMembers ms ↔ ∀ m ∈ ms, m.2.Proper
  | [] => by simp [ProperMembers]
  | (_, j) :: rest => by simp [ProperMembers, properMembers_iff]

end Json

mutual

/-- Every free value in a value of a shape is proper. -/
def Shape.Proper : (s : Shape) → s.Val → Prop
  | .anything, v => Json.Proper v
  | .boolean, _ => True
  | .text, _ => True
  | .bytes, _ => True
  | .integer _, _ => True
  | .choice _ _, _ => True
  | .numberOrName, _ => True
  | .instant, _ => True
  | .sequence item, v => ∀ a : item.Val, List.Mem a v → item.Proper a
  | .dictionary item, v => ∀ e : String × item.Val, e ∈ SortedMap.entries v → item.Proper e.2
  | .record _ fields, v => fields.Proper v

/-- Every free value in the fields of a record is proper. -/
def Fields.Proper : (fs : Fields) → fs.Val → Prop
  | .nil, _ => True
  | .cons _ presence shape rest, v =>
    (match presence, v.1 with
      | .optional, none => True
      | .optional, some x => shape.Proper x
      | .nullable, none => True
      | .nullable, some x => shape.Proper x
      | .defaulted, x => shape.Proper x
      | .required, x => shape.Proper x) ∧
    rest.Proper v.2

end

/-- A field whose values are all proper, in front of proper ones. -/
theorem Fields.proper_cons {name : String} {p : Presence} {s : Shape} {rest : Fields}
    (hs : ∀ x, s.Proper x) (x : p.Val s.Val) {vs : rest.Val} (h : rest.Proper vs) :
    (Fields.cons name p s rest).Proper (x, vs) := by
  refine ⟨?_, h⟩
  cases p with
  | optional =>
    cases x with
    | none => trivial
    | some x => exact hs x
  | nullable =>
    cases x with
    | none => trivial
    | some x => exact hs x
  | defaulted => exact hs x
  | required => exact hs x

mutual

/-- Where everything is written there are no free values. -/
theorem Shape.proper_of_exact : ∀ (s : Shape), s.exact = true → ∀ v : s.Val, s.Proper v
  | .anything, h, _ => nomatch h
  | .boolean, _, _ => trivial
  | .text, _, _ => trivial
  | .bytes, _, _ => trivial
  | .integer _, _, _ => trivial
  | .choice _ _, _, _ => trivial
  | .numberOrName, _, _ => trivial
  | .instant, h, _ => nomatch h
  | .sequence item, h, _ => fun a _ => item.proper_of_exact h a
  | .dictionary item, h, _ => fun e _ => item.proper_of_exact h e.2
  | .record _ fields, h, v => fields.proper_of_exact h v

/-- Where everything about the fields is written there are no free values. -/
theorem Fields.proper_of_exact : ∀ (fs : Fields), fs.exact = true → ∀ v : fs.Val, fs.Proper v
  | .nil, _, _ => trivial
  | .cons _ _ s rest, h, (x, vs) =>
    have h := (Bool.and_eq_true _ _).mp h
    Fields.proper_cons (s.proper_of_exact h.1) x (rest.proper_of_exact h.2 vs)

end

mutual

/-- An absent value is proper. -/
theorem Shape.proper_default : ∀ s : Shape, s.Proper s.default
  | .anything => trivial
  | .boolean => trivial
  | .text => trivial
  | .bytes => trivial
  | .integer _ => trivial
  | .choice _ _ => trivial
  | .numberOrName => trivial
  | .instant => trivial
  | .sequence _ => fun _ h => nomatch h
  | .dictionary _ => fun _ h => nomatch h
  | .record _ fields => fields.proper_default

/-- Fields that are all missing are proper. -/
theorem Fields.proper_default : ∀ fs : Fields, fs.Proper fs.default
  | .nil => trivial
  | .cons _ p s rest => by
    refine ⟨?_, rest.proper_default⟩
    cases p with
    | optional => trivial
    | nullable => trivial
    | defaulted => exact s.proper_default
    | required => exact s.proper_default

end

/-! ### Covering -/

namespace Drift

theorem coversMembers_iff {others : List (String × Json)} :
    ∀ {ms : List (String × Json)}, coversMembers ms others = true ↔
      ∀ m ∈ ms, covers m.2 ((lookup m.1 others).getD .null) = true
  | [] => by simp [coversMembers]
  | (name, want) :: rest => by
    rw [coversMembers, Bool.and_eq_true, coversMembers_iff, List.forall_mem_cons]

/-- Null states nothing. -/
theorem covers_of_isNull {j : Json} (h : j.isNull = true) (other : Json) :
    covers j other = true := by
  cases j with
  | null => simp [covers]
  | _ => cases h

mutual

/-- A proper document covers itself. -/
theorem covers_self : ∀ (j : Json), j.Proper → covers j j = true
  | .null, _ => by simp [covers]
  | .bool _, _ => by simp [covers, sameScalar]
  | .integer _, _ => by simp [covers, sameScalar]
  | .real _, _ => by simp [covers, sameScalar, Binary64.same]
  | .string _, _ => by simp [covers, sameScalar]
  | .array items, h => coversItems_self items h
  | .object ms, ⟨once, h⟩ => coversMembers_iff.mpr fun m hm => by
    rw [SortedMap.lookup_eq_some_of_mem once hm]
    exact covers_members ms h m hm

/-- Every member of an object covers itself. -/
theorem covers_members : ∀ (ms : List (String × Json)), Json.ProperMembers ms →
    ∀ m ∈ ms, covers m.2 m.2 = true
  | [], _, _, hm => by cases hm
  | (name, j) :: rest, ⟨hj, hrest⟩, m, hm => by
    rcases List.mem_cons.mp hm with rfl | hm
    · exact covers_self j hj
    · exact covers_members rest hrest m hm

theorem coversItems_self : ∀ (items : List Json), Json.ProperItems items →
    coversItems items items = true
  | [], _ => rfl
  | j :: rest, ⟨hj, hrest⟩ => by
    rw [coversItems, covers_self j hj, coversItems_self rest hrest]
    rfl

end

end Drift

/-! ### Proper values are written properly -/

theorem Json.properMembers_append {ms others : List (String × Json)} :
    ProperMembers (ms ++ others) ↔ ProperMembers ms ∧ ProperMembers others := by
  simp only [properMembers_iff, List.forall_mem_append]

/-- The members that state the kind of an object are texts. -/
theorem RecordForm.proper_stamps (form : RecordForm) : Json.ProperMembers form.stamps := by
  unfold RecordForm.stamps
  split
  · trivial
  · exact ⟨trivial, trivial, trivial⟩

mutual

/-- The document of a proper value is proper. -/
theorem Shape.proper_write : ∀ (s : Shape), s.wellFormed = true → ∀ v : s.Val, s.Proper v →
    (s.write v).Proper
  | .anything, _, _, hv => hv
  | .boolean, _, _, _ => trivial
  | .text, _, _, _ => trivial
  | .bytes, _, _, _ => trivial
  | .integer _, _, _, _ => trivial
  | .choice _ _, _, _, _ => trivial
  | .numberOrName, _, .inl _, _ => trivial
  | .numberOrName, _, .inr _, _ => trivial
  | .instant, _, _, _ => trivial
  | .sequence item, h, v, hv => Json.properItems_iff.mpr fun j hj => by
    obtain ⟨a, ha, rfl⟩ := List.mem_map.mp hj
    exact item.proper_write h a (hv a ha)
  | .dictionary item, h, v, hv => by
    refine ⟨SortedMap.nodup_keys (SortedMap.mapValues (fun _ => item.write) v), ?_⟩
    refine Json.properMembers_iff.mpr fun m hm => ?_
    obtain ⟨e, he, rfl⟩ := List.mem_map.mp hm
    exact item.proper_write h e.2 (hv e he)
  | .record form fields, h, v, hv => by
    obtain ⟨nodup, apart, hfields⟩ := Shape.wellFormed_record h
    exact ⟨form.namesOnce_write nodup apart v, Json.properMembers_append.mpr
      ⟨form.proper_stamps, fields.proper_write form.lenient hfields v hv⟩⟩

/-- The members that are written for proper values are proper. -/
theorem Fields.proper_write (lenient : Bool) : ∀ (fs : Fields), fs.wellFormed lenient = true →
    ∀ v : fs.Val, fs.Proper v → Json.ProperMembers (fs.write v)
  | .nil, _, _, _ => trivial
  | .cons name p s rest, h, (x, vs), ⟨hx, hvs⟩ => by
    obtain ⟨hhead, hrest⟩ := (Bool.and_eq_true _ _).mp h
    have hs := ((Bool.and_eq_true _ _).mp hhead).2
    have htail := rest.proper_write lenient hrest vs hvs
    cases p with
    | optional =>
      cases x with
      | none => exact htail
      | some x => exact ⟨s.proper_write hs x hx, htail⟩
    | nullable =>
      cases x with
      | none => exact ⟨trivial, htail⟩
      | some x => exact ⟨s.proper_write hs x hx, htail⟩
    | defaulted => exact ⟨s.proper_write hs x hx, htail⟩
    | required => exact ⟨s.proper_write hs x hx, htail⟩

end

/-! ### Covering items -/

namespace Drift

theorem coversItems_map {α : Type} {f g : α → Json} :
    ∀ {l : List α}, (∀ a ∈ l, covers (f a) (g a) = true) →
      coversItems (l.map f) (l.map g) = true
  | [], _ => rfl
  | a :: l, h => by
    obtain ⟨ha, hl⟩ := List.forall_mem_cons.mp h
    rw [List.map_cons, List.map_cons, coversItems, ha, coversItems_map hl]
    rfl

end Drift

/-! ### Covering members behind others -/

namespace Fields

variable {name : String} {rest : Fields} {vs ws : rest.Val}

/-- Members are covered in front of other fields if those in front are, and the fields behind them
have other names. -/
theorem covers_append (hname : name ∉ rest.names)
    (htail : ∀ m ∈ rest.write vs,
      Drift.covers m.2 ((lookup m.1 (rest.write ws)).getD .null) = true)
    (first again : List (String × Json)) (hagain : ∀ w ∈ again, w.1 = name)
    (hfirst : ∀ m ∈ first,
      Drift.covers m.2 ((lookup m.1 (again ++ rest.write ws)).getD .null) = true) :
    ∀ m ∈ first ++ rest.write vs,
      Drift.covers m.2 ((lookup m.1 (again ++ rest.write ws)).getD .null) = true := by
  intro m hm
  rcases List.mem_append.mp hm with hm | hm
  · exact hfirst m hm
  · rw [lookup_append_of_not_mem again _ fun hmem => ?_]
    · exact htail m hm
    · obtain ⟨w, hw, heq⟩ := List.mem_map.mp hmem
      have hmem := (rest.names_write vs).subset (List.mem_map_of_mem hm)
      exact hname (((hagain w hw).symm.trans heq) ▸ hmem)

theorem covers_cons (hname : name ∉ rest.names)
    (htail : ∀ m ∈ rest.write vs,
      Drift.covers m.2 ((lookup m.1 (rest.write ws)).getD .null) = true)
    {j j' : Json} (hj : Drift.covers j j' = true) :
    ∀ m ∈ (name, j) :: rest.write vs,
      Drift.covers m.2 ((lookup m.1 ((name, j') :: rest.write ws)).getD .null) = true := by
  refine covers_append hname htail [(name, j)] [(name, j')]
    (fun w hw => by rw [List.mem_singleton.mp hw]) fun w hw => ?_
  rw [List.mem_singleton.mp hw]
  simpa [lookup] using hj

/-- A null needs no member that covers it. -/
theorem covers_cons_of_isNull (hname : name ∉ rest.names)
    (htail : ∀ m ∈ rest.write vs,
      Drift.covers m.2 ((lookup m.1 (rest.write ws)).getD .null) = true)
    {j : Json} (hj : j.isNull = true) :
    ∀ m ∈ (name, j) :: rest.write vs,
      Drift.covers m.2 ((lookup m.1 (rest.write ws)).getD .null) = true := by
  refine covers_append hname htail [(name, j)] [] (fun w hw => nomatch hw) fun w hw => ?_
  rw [List.mem_singleton.mp hw]
  exact Drift.covers_of_isNull hj _

end Fields

/-! ### Covering what is read back -/

mutual

/-- The document of a proper value covers that of the value reread. -/
theorem Shape.covers_reread : ∀ (s : Shape), s.wellFormed = true → ∀ v : s.Val, s.Proper v →
    Drift.covers (s.write v) (s.write (s.reread v)) = true
  | .anything, _, v, hv => Drift.covers_self v hv
  | .boolean, _, v, _ => Drift.covers_self (.bool v) trivial
  | .text, _, v, _ => Drift.covers_self (.string v) trivial
  | .bytes, _, v, _ => Drift.covers_self (.string (Base64.encode v)) trivial
  | .integer _, _, v, _ => Drift.covers_self (.integer v.val) trivial
  | .choice first others, _, v, _ =>
    Drift.covers_self (.string (choiceName first others v)) trivial
  | .numberOrName, _, .inl n, _ => Drift.covers_self (.integer n.val) trivial
  | .numberOrName, _, .inr name, _ => Drift.covers_self (.string name) trivial
  | .instant, _, t, _ => Drift.covers_self (.string (Instant.render t)) trivial
  | .sequence item, h, v, hv => by
    have hitems := Drift.coversItems_map (f := item.write)
      (g := fun a => item.write (item.reread a)) (l := v)
      fun a ha => item.covers_reread h a (hv a ha)
    exact (congrArg (Drift.coversItems (List.map item.write v)) (List.map_map ..)).trans hitems
  | .dictionary item, h, v, hv => Drift.coversMembers_iff.mpr fun m hm => by
    obtain ⟨e, he, rfl⟩ := List.mem_map.mp hm
    have hmem : (e.1, item.write (item.reread e.2)) ∈ (SortedMap.mapValues (fun _ => item.write)
        (SortedMap.mapValues (fun _ => item.reread) v)).entries :=
      List.mem_map.mpr ⟨(e.1, item.reread e.2), List.mem_map.mpr ⟨e, he, rfl⟩, rfl⟩
    have hfound := SortedMap.lookup_eq_some_of_mem (SortedMap.nodup_keys _) hmem
    exact (congrArg (fun found => Drift.covers (item.write e.2) (Option.getD found .null))
      hfound).trans (item.covers_reread h e.2 (hv e he))
  | .record form fields, h, v, hv => Drift.coversMembers_iff.mpr fun m hm => by
    obtain ⟨nodup, apart, hfields⟩ := Shape.wellFormed_record h
    rcases List.mem_append.mp hm with hm | hm
    · have hmem : m ∈ form.stamps ++ fields.write (fields.reread v) := List.mem_append_left _ hm
      have hfound := SortedMap.lookup_eq_some_of_mem
        (form.namesOnce_write nodup apart (fields.reread v)) hmem
      have hself := Drift.covers_members form.stamps form.proper_stamps m hm
      exact (congrArg (fun found => Drift.covers m.2 (Option.getD found .null)) hfound).trans hself
    · have hskip : lookup m.1 (form.stamps ++ fields.write (fields.reread v)) =
          lookup m.1 (fields.write (fields.reread v)) :=
        lookup_append_of_not_mem _ _ fun hstamp => by
          obtain ⟨stamp, hstamp, heq⟩ := List.mem_map.mp hstamp
          have hname := (fields.names_write v).subset (List.mem_map_of_mem hm)
          exact apart stamp hstamp (heq ▸ hname)
      exact (congrArg (fun found => Drift.covers m.2 (Option.getD found .null)) hskip).trans
        (fields.covers_reread form.lenient hfields nodup v hv m hm)

/-- The members that are written for proper values are covered by those of the values reread. -/
theorem Fields.covers_reread (lenient : Bool) : ∀ (fs : Fields), fs.wellFormed lenient = true →
    fs.names.Nodup → ∀ v : fs.Val, fs.Proper v → ∀ m ∈ fs.write v,
      Drift.covers m.2 ((lookup m.1 (fs.write (fs.reread v))).getD .null) = true
  | .nil, _, _, _, _, _, hm => by cases hm
  | .cons name p s rest, h, nodup, (x, vs), ⟨hx, hvs⟩, m, hm => by
    obtain ⟨hhead, hrest⟩ := (Bool.and_eq_true _ _).mp h
    have hs := ((Bool.and_eq_true _ _).mp hhead).2
    obtain ⟨hname, nodup⟩ := List.nodup_cons.mp nodup
    have hcovers := s.covers_reread hs
    have htail := rest.covers_reread lenient hrest nodup vs hvs
    cases p with
    | optional =>
      cases x with
      | none => exact htail m hm
      | some x =>
        by_cases hnull : (s.write x).isNull = true
        · have hread : (Fields.cons name .optional s rest).reread (some x, vs) =
              (none, rest.reread vs) := congrArg (Prod.mk · (rest.reread vs)) (if_pos hnull)
          rw [hread]
          exact Fields.covers_cons_of_isNull hname htail hnull m hm
        · have hread : (Fields.cons name .optional s rest).reread (some x, vs) =
              (some (s.reread x), rest.reread vs) :=
            congrArg (Prod.mk · (rest.reread vs)) (if_neg hnull)
          rw [hread]
          exact Fields.covers_cons hname htail (hcovers x hx) m hm
    | nullable =>
      cases x with
      | none => exact Fields.covers_cons hname htail (Drift.covers_of_isNull rfl _) m hm
      | some x =>
        by_cases hnull : (s.write x).isNull = true
        · have hread : (Fields.cons name .nullable s rest).reread (some x, vs) =
              (none, rest.reread vs) := congrArg (Prod.mk · (rest.reread vs)) (if_pos hnull)
          rw [hread]
          exact Fields.covers_cons hname htail (Drift.covers_of_isNull hnull .null) m hm
        · have hread : (Fields.cons name .nullable s rest).reread (some x, vs) =
              (some (s.reread x), rest.reread vs) :=
            congrArg (Prod.mk · (rest.reread vs)) (if_neg hnull)
          rw [hread]
          exact Fields.covers_cons hname htail (hcovers x hx) m hm
    | defaulted => exact Fields.covers_cons hname htail (hcovers x hx) m hm
    | required => exact Fields.covers_cons hname htail (hcovers x hx) m hm

end

/-! ### Values as documents -/

namespace Document

variable {α : Type} [Document α]

/-- Every free value in a value is proper. -/
def Proper (a : α) : Prop := (shape α).Proper (toVal a)

theorem proper_of_exact (h : (shape α).exact = true) (a : α) : Proper a :=
  (shape α).proper_of_exact h (toVal a)

end Document

namespace Drift

variable {α : Type} [Document α]

/-- The document of a proper value covers itself. -/
theorem sameFields_self (h : (Document.shape α).wellFormed = true) {a : α}
    (proper : Document.Proper a) : sameFields a a = true :=
  covers_self _ ((Document.shape α).proper_write h _ proper)

/-- The document of a proper value covers that of the value reread. -/
theorem sameFields_reread (h : (Document.shape α).wellFormed = true) {a : α}
    (proper : Document.Proper a) : sameFields a (Document.reread a) = true := by
  rw [sameFields, Document.write, Document.write, Document.reread, Document.toVal_ofVal]
  exact (Document.shape α).covers_reread h _ proper

end Drift

end ClusterOperator
