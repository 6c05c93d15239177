import ClusterOperator.Proofs.Documents.Bytes
import ClusterOperator.Proofs.Documents.Instants
import ClusterOperator.Proofs.Documents.Records

/-!
# Documents read back what is written

The document of a value is read as the value again, but for two things that no document says: the
fraction of a second of an instant, and an option that is filled with null. What comes back is the
value *reread*; a shape without instants and without free values gives back exactly what was
written.

## Main definitions

* `Shape.reread`, `Fields.reread`: what is read from the document of a value.
* `Shape.wellFormed`, `Fields.wellFormed`: the names of a shape are told apart.
* `Shape.plain`, `Fields.plain`: the shapes without free values and stated kinds.
* `Shape.exact`, `Fields.exact`: the shapes of which everything is written.
* `Document.reread`: what is read from the document of a value of a type.

## Main results

* `Shape.read_write`: the document of a value of a well-formed shape is read as the value reread.
* `Shape.write_reread`: what is read back of a plain value is written as the value was.
* `Shape.reread_of_exact`: nothing is lost where everything is written.
* `Document.read_write`, `Document.write_reread`, `Document.reread_of_exact`: the same for types.
-/

namespace ClusterOperator

open SortedMap.Entries (lookup)

mutual

/-- What is read from the document of a value. -/
def Shape.reread : (s : Shape) → s.Val → s.Val
  | .anything, v => v
  | .boolean, v => v
  | .text, v => v
  | .bytes, v => v
  | .integer _, v => v
  | .choice _ _, v => v
  | .numberOrName, v => v
  | .instant, v => Instant.wholeSeconds v
  | .sequence item, v => List.map item.reread v
  | .dictionary item, v => SortedMap.mapValues (fun _ => item.reread) v
  | .record _ fields, v => fields.reread v

/-- What is read from the members that are written for the fields of a record. -/
def Fields.reread : (fs : Fields) → fs.Val → fs.Val
  | .nil, v => v
  | .cons _ presence shape rest, v =>
    (match presence, v.1 with
      | .optional, none => none
      | .optional, some x => if (shape.write x).isNull then none else some (shape.reread x)
      | .nullable, none => none
      | .nullable, some x => if (shape.write x).isNull then none else some (shape.reread x)
      | .defaulted, x => shape.reread x
      | .required, x => shape.reread x,
    rest.reread v.2)

end

/-- Whether no value of a shape is written as null. -/
def Shape.neverNull : Shape → Bool
  | .anything => false
  | _ => true

mutual

/-- Whether the names of a shape are told apart: those of its choices, those of the fields of a
record, and those that state its kind. A field that must be given has to be written as something
that counts as given. -/
def Shape.wellFormed : Shape → Bool
  | .choice first others => decide (first :: others).Nodup
  | .sequence item => item.wellFormed
  | .dictionary item => item.wellFormed
  | .record form fields =>
    decide fields.names.Nodup && (form.stamps.all fun stamp => decide (stamp.1 ∉ fields.names)) &&
      fields.wellFormed form.lenient
  | .anything => true
  | .boolean => true
  | .text => true
  | .bytes => true
  | .integer _ => true
  | .numberOrName => true
  | .instant => true

/-- Whether the shapes of all fields are well-formed. -/
def Fields.wellFormed (lenient : Bool) : Fields → Bool
  | .nil => true
  | .cons _ presence shape rest =>
    (decide (presence ≠ .required) || !lenient || shape.neverNull) && shape.wellFormed &&
      rest.wellFormed lenient

end

/-! ### What is written -/

/-- What is asked of a well-formed record. -/
theorem Shape.wellFormed_record {form : RecordForm} {fields : Fields}
    (h : (Shape.record form fields).wellFormed = true) :
    fields.names.Nodup ∧ form.StampsApart fields ∧ fields.wellFormed form.lenient = true := by
  obtain ⟨hrecord, hfields⟩ := (Bool.and_eq_true _ _).mp h
  obtain ⟨hnodup, hstamps⟩ := (Bool.and_eq_true _ _).mp hrecord
  exact ⟨of_decide_eq_true hnodup,
    fun stamp hstamp => of_decide_eq_true (List.all_eq_true.mp hstamps stamp hstamp), hfields⟩

/-- Null is written only for a free value that is null, which is also the default. -/
theorem Shape.eq_default_of_write_isNull :
    ∀ {s : Shape} {v : s.Val}, (s.write v).isNull = true →
      s.neverNull = false ∧ s.reread v = s.default
  | .anything, v, h => by
    cases v with
    | null => exact ⟨rfl, rfl⟩
    | _ => cases h
  | .boolean, _, h => nomatch h
  | .text, _, h => nomatch h
  | .bytes, _, h => nomatch h
  | .integer _, _, h => nomatch h
  | .choice _ _, _, h => nomatch h
  | .numberOrName, .inl _, h => nomatch h
  | .numberOrName, .inr _, h => nomatch h
  | .instant, _, h => nomatch h
  | .sequence _, _, h => nomatch h
  | .dictionary _, _, h => nomatch h
  | .record _ _, _, h => nomatch h

/-- An option that is filled with what is never null is filled when it is read back. -/
theorem Shape.reread_some {s : Shape} (h : s.neverNull = true) (v : s.Val) :
    (if (s.write v).isNull then none else some (s.reread v)) = some (s.reread v) :=
  if_neg fun hnull => by
    have hfree := (Shape.eq_default_of_write_isNull hnull).1
    rw [h] at hfree
    cases hfree

theorem Fields.names_write : ∀ (fs : Fields) (v : fs.Val),
    ((fs.write v).map Prod.fst).Sublist fs.names
  | .nil, _ => .slnil
  | .cons _ .optional _ rest, (none, vs) => (rest.names_write vs).cons _
  | .cons _ .optional _ rest, (some _, vs) => (rest.names_write vs).cons_cons _
  | .cons _ .nullable _ rest, (none, vs) => (rest.names_write vs).cons_cons _
  | .cons _ .nullable _ rest, (some _, vs) => (rest.names_write vs).cons_cons _
  | .cons _ .defaulted _ rest, (_, vs) => (rest.names_write vs).cons_cons _
  | .cons _ .required _ rest, (_, vs) => (rest.names_write vs).cons_cons _

theorem Fields.lookup_write_of_not_mem {name : String} (fs : Fields) (v : fs.Val)
    (h : name ∉ fs.names) : lookup name (fs.write v) = none :=
  lookup_eq_none_iff.mpr fun hmem => h ((fs.names_write v).subset hmem)

theorem lookup_append_of_not_mem {κ α : Type} [KeyOrder κ] {k : κ} :
    ∀ (es : List (κ × α)) (fs : List (κ × α)), k ∉ es.map Prod.fst →
      lookup k (es ++ fs) = lookup k fs
  | [], _, _ => rfl
  | (k', v) :: es, fs, h => by
    obtain ⟨hne, hes⟩ := not_or.mp (mt List.mem_cons.mpr h)
    rw [List.cons_append, lookup, if_neg hne, lookup_append_of_not_mem es fs hes]

/-- The members of a record that is written have distinct names. -/
theorem RecordForm.namesOnce_write {form : RecordForm} {fields : Fields}
    (nodup : fields.names.Nodup) (apart : form.StampsApart fields) (v : fields.Val) :
    Json.NamesOnce (form.stamps ++ fields.write v) := by
  have hstamps : (form.stamps.map Prod.fst).Nodup := by
    unfold RecordForm.stamps
    split
    · exact List.nodup_nil
    · simp
  unfold Json.NamesOnce
  rw [List.map_append, List.nodup_append]
  refine ⟨hstamps, nodup.sublist (fields.names_write v), ?_⟩
  rintro name hname other hother rfl
  obtain ⟨stamp, hstamp, rfl⟩ := List.mem_map.mp hname
  exact apart stamp hstamp ((fields.names_write v).subset hother)

/-- Every member of a record that is written passes for a statement of the kind, or is none. -/
theorem RecordForm.checkStamp_write {form : RecordForm} {fields : Fields}
    (apart : form.StampsApart fields) (v : fields.Val) :
    ∀ m ∈ form.stamps ++ fields.write v, ∃ stated, form.checkStamp m.1 m.2 = .ok stated := by
  unfold RecordForm.StampsApart RecordForm.stamps at apart
  unfold RecordForm.stamps RecordForm.checkStamp
  intro m hm
  split
  · next apiVersion kind hid =>
    rw [hid] at apart hm
    split
    · next hname =>
      rcases List.mem_append.mp hm with hm | hm
      · simp only [List.mem_cons, List.not_mem_nil, or_false] at hm
        rcases hm with rfl | rfl
        · exact ⟨true, by simp [readText, bind, Except.bind, pure, Except.pure]⟩
        · exact ⟨true, by simp [readText, bind, Except.bind, pure, Except.pure]⟩
      · have hmem : m.1 ∈ fields.names :=
          (fields.names_write v).subset (List.mem_map_of_mem hm)
        rcases hname.2 with h | h
        · exact absurd (h ▸ hmem) (apart ("apiVersion", .string apiVersion) (by simp))
        · exact absurd (h ▸ hmem) (apart ("kind", .string kind) (by simp))
    · exact ⟨false, rfl⟩
  · exact ⟨false, rfl⟩

/-! ### Lists and maps -/

theorem mapM_map_eq_ok {ε α β γ : Type} {f : β → Except ε γ} {g : α → β} {h : α → γ}
    (hfg : ∀ a, f (g a) = .ok (h a)) : ∀ l : List α, (l.map g).mapM f = .ok (l.map h)
  | [] => rfl
  | a :: l => by
    rw [List.map_cons, List.mapM_cons, hfg, mapM_map_eq_ok hfg l]
    rfl

/-- An entry whose key is greater than all others comes last. -/
theorem insert_of_forall_lt {κ α : Type} [KeyOrder κ] {k : κ} {v : α} :
    ∀ {es : List (κ × α)}, (∀ e ∈ es, e.1 < k) → SortedMap.Entries.insert k v es = es ++ [(k, v)]
  | [], _ => rfl
  | (k', v') :: es, h => by
    obtain ⟨hlt, hes⟩ := List.forall_mem_cons.mp h
    have hnlt : ¬ k < k' := fun hgt => KeyOrder.irrefl k (KeyOrder.trans hgt hlt)
    have hne : k ≠ k' := fun heq => KeyOrder.irrefl k' (by rw [heq] at hlt; exact hlt)
    rw [SortedMap.Entries.insert, if_neg hnlt, if_neg hne, insert_of_forall_lt hes]
    rfl

theorem entries_foldl_insert {κ α : Type} [KeyOrder κ] :
    ∀ (es : List (κ × α)) (m : SortedMap κ α), SortedMap.Entries.Sorted (m.entries ++ es) →
      (es.foldl (fun m e => m.insert e.1 e.2) m).entries = m.entries ++ es
  | [], m, _ => (List.append_nil _).symm
  | (k, v) :: es, m, h => by
    have hlt : ∀ e ∈ m.entries, e.1 < k := fun e he =>
      (List.pairwise_append.mp h).2.2 e he (k, v) List.mem_cons_self
    have hinsert : (m.insert k v).entries = m.entries ++ [(k, v)] := insert_of_forall_lt hlt
    have hsorted : SortedMap.Entries.Sorted ((m.insert k v).entries ++ es) := by
      rw [hinsert, List.append_assoc]
      exact h
    rw [List.foldl_cons, entries_foldl_insert es _ hsorted, hinsert, List.append_assoc]
    rfl

/-- Inserting the entries of a map one by one gives the map. -/
theorem SortedMap.ofList_entries {κ α : Type} [KeyOrder κ] (m : SortedMap κ α) :
    SortedMap.ofList m.entries = m :=
  SortedMap.ext (entries_foldl_insert m.entries SortedMap.empty m.sorted)

/-! ### Choices -/

/-- A choice is found under its name. -/
theorem choiceIndex?_choiceName {first : String} {others : List String}
    (h : (first :: others).Nodup) (i : Fin (others.length + 1)) :
    choiceIndex? first others (choiceName first others i) = some i := by
  unfold choiceIndex?
  cases hfind : (List.finRange (others.length + 1)).find? fun j =>
      choiceName first others j == choiceName first others i with
  | none =>
    have := List.find?_eq_none.mp hfind i (List.mem_finRange i)
    exact absurd (beq_self_eq_true _) this
  | some j =>
    have heq : choiceName first others j = choiceName first others i := by
      simpa using List.find?_some hfind
    have hget : (first :: others)[j.val] = (first :: others)[i.val] := heq
    exact congrArg some (Fin.ext ((List.getElem_inj h).mp hget))

/-! ### Reading what is written -/

theorem readInteger_val (w : Width) (v : w.Val) : readInteger w (.integer v.val) = .ok v := by
  rw [readInteger, Width.ofInt?_val]

theorem readNumberOrName_val (v : Signed32) : readNumberOrName (.integer v.val) = .ok (.inl v) := by
  rw [readNumberOrName, Width.ofInt?_val]

/-- What is found under the name of a field is read, unless it is null and null is allowed. -/
theorem Presence.accept_some {p : Presence} {lenient : Bool} {s : Shape} {missing : ReadProblem}
    {j : Json} {v : s.Val} (hnull : ¬ (p.allowsNull lenient && j.isNull) = true)
    (hread : s.read j = .ok v) :
    p.accept lenient s missing (some j) = p.settle s.default missing (some v) := by
  rw [Presence.accept, Presence.slot, if_neg hnull, hread]
  rfl

theorem Presence.accept_null {p : Presence} {lenient : Bool} {s : Shape} {missing : ReadProblem}
    {j : Json} (hnull : (p.allowsNull lenient && j.isNull) = true) :
    p.accept lenient s missing (some j) = p.settle s.default missing none := by
  rw [Presence.accept, Presence.slot, if_pos hnull]
  rfl

/-- An option that is written is read back, null as no value. -/
private theorem accept_write_some {p : Presence} {s : Shape} {v : s.Val} {lenient : Bool}
    {missing : ReadProblem} (hp : p.allowsNull lenient = true)
    (hread : s.read (s.write v) = .ok (s.reread v)) :
    p.accept lenient s missing (some (s.write v)) =
      p.settle s.default missing
        (if (s.write v).isNull then none else some (s.reread v)) := by
  split
  · next hnull => exact Presence.accept_null (by rw [hp, hnull]; rfl)
  · next hnull => exact Presence.accept_some (by rw [hp, Bool.true_and]; exact hnull) hread

mutual

/-- The document of a value of a well-formed shape is read as the value reread. -/
theorem Shape.read_write : ∀ (s : Shape), s.wellFormed = true → ∀ v : s.Val,
    s.read (s.write v) = .ok (s.reread v)
  | .anything, _, _ => rfl
  | .boolean, _, _ => rfl
  | .text, _, _ => rfl
  | .bytes, _, v => congrArg (Except.mapError ReadProblem.badBase64) (Base64.decode_encode v)
  | .integer width, _, v => readInteger_val width v
  | .choice first others, h, v => by
    show readChoice first others (.string (choiceName first others v)) = _
    rw [readChoice]
    simp only [choiceIndex?_choiceName (of_decide_eq_true h) v]
    rfl
  | .numberOrName, _, .inl n => readNumberOrName_val n
  | .numberOrName, _, .inr _ => rfl
  | .instant, _, t => congrArg (Except.mapError ReadProblem.badTime) (Instant.read_render t)
  | .sequence item, h, v => mapM_map_eq_ok (fun a => item.read_write h a) v
  | .dictionary item, h, v => by
    have hentries := mapM_map_eq_ok (f := fun m : String × Json =>
        (item.read m.2).map fun v => (m.1, v)) (g := fun e : String × item.Val =>
        (e.1, item.write e.2)) (h := fun e => (e.1, item.reread e.2))
      (fun e => by rw [item.read_write h e.2]; rfl) (SortedMap.entries v)
    refine (congrArg (fun x : Except ReadProblem (List (String × item.Val)) => x >>= fun es =>
      pure (SortedMap.ofList es : Dict item.Val)) hentries).trans ?_
    exact congrArg Except.ok (SortedMap.ofList_entries
      (SortedMap.mapValues (fun _ => item.reread) v))
  | .record form fields, h, v => by
    obtain ⟨nodup, apart, hfields⟩ := Shape.wellFormed_record h
    refine (Shape.read_record_iff nodup apart (form.namesOnce_write nodup apart v) _).mpr
      ⟨form.checkStamp_write apart v, ?_⟩
    rw [Fields.accept_congr form.lenient fields fun name hname =>
      lookup_append_of_not_mem form.stamps (fields.write v) fun hmem => by
        obtain ⟨stamp, hstamp, rfl⟩ := List.mem_map.mp hmem
        exact apart stamp hstamp hname]
    exact fields.accept_write form.lenient hfields nodup v

/-- The members that are written for the fields of a record are read as the values reread. -/
theorem Fields.accept_write (lenient : Bool) : ∀ (fs : Fields), fs.wellFormed lenient = true →
    fs.names.Nodup → ∀ v : fs.Val,
      fs.accept lenient (fun name => lookup name (fs.write v)) = .ok (fs.reread v)
  | .nil, _, _, _ => rfl
  | .cons name p s rest, h, nodup, (x, vs) => by
    obtain ⟨hhead, hrest⟩ := (Bool.and_eq_true _ _).mp h
    obtain ⟨hneeded, hs⟩ := (Bool.and_eq_true _ _).mp hhead
    obtain ⟨hname, nodup⟩ := List.nodup_cons.mp nodup
    have htail := rest.accept_write lenient hrest nodup vs
    -- The other fields do not see the member that is written for the first one.
    have hskip : ∀ j : Json, rest.accept lenient (fun n => lookup n ((name, j) :: rest.write vs)) =
        .ok (rest.reread vs) := fun j => by
      rw [← htail]
      exact rest.accept_congr lenient fun n hn => if_neg fun heq => hname (by rw [← heq]; exact hn)
    have hfound : ∀ j : Json, lookup name ((name, j) :: rest.write vs) = some j :=
      fun j => if_pos rfl
    have hmissing : lookup name (rest.write vs) = none := rest.lookup_write_of_not_mem vs hname
    have hread := s.read_write hs
    cases p with
    | optional =>
      cases x with
      | none => exact Fields.accept_cons.mpr ⟨congrArg _ hmissing, htail⟩
      | some x =>
        refine Fields.accept_cons.mpr ⟨(congrArg _ (hfound _)).trans ?_, hskip _⟩
        exact accept_write_some rfl (hread x)
    | nullable =>
      cases x with
      | none => exact Fields.accept_cons.mpr ⟨congrArg _ (hfound .null), hskip .null⟩
      | some x =>
        refine Fields.accept_cons.mpr ⟨(congrArg _ (hfound _)).trans ?_, hskip _⟩
        exact accept_write_some rfl (hread x)
    | defaulted =>
      refine Fields.accept_cons.mpr ⟨(congrArg _ (hfound _)).trans ?_, hskip _⟩
      by_cases hnull : (Presence.defaulted.allowsNull lenient && (s.write x).isNull) = true
      · refine (Presence.accept_null hnull).trans ?_
        have hdefault := Shape.eq_default_of_write_isNull ((Bool.and_eq_true _ _).mp hnull).2
        exact congrArg Except.ok hdefault.2.symm
      · exact Presence.accept_some hnull (hread x)
    | required =>
      refine Fields.accept_cons.mpr ⟨(congrArg _ (hfound _)).trans ?_, hskip _⟩
      have hnull : ¬ (Presence.required.allowsNull lenient && (s.write x).isNull) = true := by
        intro hnull
        obtain ⟨hlenient, hwritten⟩ := (Bool.and_eq_true _ _).mp hnull
        have hfree := (Shape.eq_default_of_write_isNull hwritten).1
        have hlenient : lenient = true := hlenient
        rw [hfree, hlenient] at hneeded
        exact absurd hneeded (by decide)
      exact Presence.accept_some hnull (hread x)

end

/-! ### Shapes of which everything is written -/

mutual

/-- Whether everything about the values of a shape is written: there are no instants and no free
values in it. -/
def Shape.exact : Shape → Bool
  | .sequence item => item.exact
  | .dictionary item => item.exact
  | .record _ fields => fields.exact
  | .anything => false
  | .boolean => true
  | .text => true
  | .bytes => true
  | .integer _ => true
  | .choice _ _ => true
  | .numberOrName => true
  | .instant => false

/-- Whether everything about the values of all fields is written. -/
def Fields.exact : Fields → Bool
  | .nil => true
  | .cons _ _ shape rest => shape.exact && rest.exact

end

theorem Shape.neverNull_of_exact {s : Shape} (h : s.exact = true) : s.neverNull = true := by
  cases s with
  | anything => cases h
  | _ => rfl

/-- A field whose values come back as they are written, and are never null, comes back itself. -/
theorem Fields.reread_cons {name : String} {p : Presence} {s : Shape} {rest : Fields}
    (hnull : s.neverNull = true) (hread : ∀ v : s.Val, s.reread v = v) (x : p.Val s.Val)
    {vs ws : rest.Val} (htail : rest.reread vs = ws) :
    (Fields.cons name p s rest).reread (x, vs) = (x, ws) := by
  have hsome (x : s.Val) : (if (s.write x).isNull then none else some (s.reread x)) = some x :=
    (Shape.reread_some hnull x).trans (congrArg some (hread x))
  cases p with
  | optional =>
    cases x with
    | none => exact congrArg (Prod.mk none) htail
    | some x => exact congr (congrArg Prod.mk (hsome x)) htail
  | nullable =>
    cases x with
    | none => exact congrArg (Prod.mk none) htail
    | some x => exact congr (congrArg Prod.mk (hsome x)) htail
  | defaulted => exact congr (congrArg Prod.mk (hread x)) htail
  | required => exact congr (congrArg Prod.mk (hread x)) htail

mutual

/-- Where everything is written, what is read is what was written. -/
theorem Shape.reread_of_exact : ∀ (s : Shape), s.exact = true → ∀ v : s.Val, s.reread v = v
  | .anything, h, _ => nomatch h
  | .boolean, _, _ => rfl
  | .text, _, _ => rfl
  | .bytes, _, _ => rfl
  | .integer _, _, _ => rfl
  | .choice _ _, _, _ => rfl
  | .numberOrName, _, _ => rfl
  | .instant, h, _ => nomatch h
  | .sequence item, h, v =>
    (congrArg (List.map · v) (funext (item.reread_of_exact h))).trans (List.map_id v)
  | .dictionary item, h, v =>
    (congrArg (SortedMap.mapValues · v) (funext fun _ => funext (item.reread_of_exact h))).trans
      (SortedMap.mapValues_id v)
  | .record _ fields, h, v => fields.reread_of_exact h v

/-- Where everything about the fields is written, what is read is what was written. -/
theorem Fields.reread_of_exact : ∀ (fs : Fields), fs.exact = true → ∀ v : fs.Val, fs.reread v = v
  | .nil, _, _ => rfl
  | .cons _ _ s rest, h, (x, vs) => by
    obtain ⟨hs, hrest⟩ := (Bool.and_eq_true _ _).mp h
    exact Fields.reread_cons (Shape.neverNull_of_exact hs) (s.reread_of_exact hs) x
      (rest.reread_of_exact hrest vs)

end

/-- A field of which everything is written comes back as it was written. -/
theorem Fields.reread_cons_of_exact {name : String} {p : Presence} {s : Shape} {rest : Fields}
    (h : s.exact = true) (x : p.Val s.Val) {vs ws : rest.Val} (htail : rest.reread vs = ws) :
    (Fields.cons name p s rest).reread (x, vs) = (x, ws) :=
  reread_cons (Shape.neverNull_of_exact h) (s.reread_of_exact h) x htail

/-! ### Plain shapes -/

mutual

/-- Whether there are no free values in a shape, and no records that state their kind. -/
def Shape.plain : Shape → Bool
  | .anything => false
  | .sequence item => item.plain
  | .dictionary item => item.plain
  | .record form fields => form.identity.isNone && fields.plain
  | .boolean => true
  | .text => true
  | .bytes => true
  | .integer _ => true
  | .choice _ _ => true
  | .numberOrName => true
  | .instant => true

/-- Whether the shapes of all fields are plain. -/
def Fields.plain : Fields → Bool
  | .nil => true
  | .cons _ _ shape rest => shape.plain && rest.plain

end

theorem Shape.neverNull_of_plain {s : Shape} (h : s.plain = true) : s.neverNull = true := by
  cases s with
  | anything => cases h
  | _ => rfl

mutual

/-- What is read back of a plain value is written as the value was. -/
theorem Shape.write_reread : ∀ (s : Shape), s.plain = true → ∀ v : s.Val,
    s.write (s.reread v) = s.write v
  | .anything, h, _ => nomatch h
  | .boolean, _, _ => rfl
  | .text, _, _ => rfl
  | .bytes, _, _ => rfl
  | .integer _, _, _ => rfl
  | .choice _ _, _, _ => rfl
  | .numberOrName, _, _ => rfl
  | .instant, _, _ => rfl
  | .sequence item, h, v =>
    congrArg Json.array ((List.map_map ..).trans
      (congrArg (List.map · v) (funext (item.write_reread h))))
  | .dictionary item, h, v =>
    congrArg (fun m => Json.object (SortedMap.entries m)) ((SortedMap.mapValues_mapValues ..).trans
      (congrArg (SortedMap.mapValues · v) (funext fun _ => funext (item.write_reread h))))
  | .record form fields, h, v =>
    congrArg (fun ms => Json.object (form.stamps ++ ms))
      (fields.write_reread ((Bool.and_eq_true _ _).mp h).2 v)

/-- What is read back of plain fields is written as their values were. -/
theorem Fields.write_reread : ∀ (fs : Fields), fs.plain = true → ∀ v : fs.Val,
    fs.write (fs.reread v) = fs.write v
  | .nil, _, _ => rfl
  | .cons name p s rest, h, (x, vs) => by
    obtain ⟨hs, hrest⟩ := (Bool.and_eq_true _ _).mp h
    have htail := rest.write_reread hrest vs
    have hmember (x : s.Val) : (name, s.write (s.reread x)) :: rest.write (rest.reread vs) =
        (name, s.write x) :: rest.write vs := by
      rw [s.write_reread hs, htail]
    have hfilled (x : s.Val) := congrArg (Prod.mk · (rest.reread vs))
      (Shape.reread_some (Shape.neverNull_of_plain hs) x)
    cases p with
    | optional =>
      cases x with
      | none => exact htail
      | some x =>
        exact (congrArg (Fields.cons name .optional s rest).write (hfilled x)).trans (hmember x)
    | nullable =>
      cases x with
      | none => exact congrArg (List.cons (name, .null)) htail
      | some x =>
        exact (congrArg (Fields.cons name .nullable s rest).write (hfilled x)).trans (hmember x)
    | defaulted => exact hmember x
    | required => exact hmember x

end

/-! ### Types that are written as documents -/

namespace Document

variable {α : Type} [Document α]

/-- What is read from the document of a value. -/
def reread (a : α) : α := ofVal ((shape α).reread (toVal a))

/-- The document of a value of a well-formed type is read as the value reread. -/
theorem read_write (h : (shape α).wellFormed = true) (a : α) :
    read α (write a) = .ok (reread a) := by
  rw [read, write, (shape α).read_write h]
  rfl

/-- What is read back of a plain type is written as the value was. -/
theorem write_reread (h : (shape α).plain = true) (a : α) : write (reread a) = write a := by
  rw [write, reread, toVal_ofVal, (shape α).write_reread h]
  rfl

/-- Nothing is lost of a type of which everything is written. -/
theorem reread_of_exact (h : (shape α).exact = true) (a : α) : reread a = a := by
  rw [reread, (shape α).reread_of_exact h, ofVal_toVal]

end Document

end ClusterOperator
