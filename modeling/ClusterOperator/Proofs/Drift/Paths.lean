import ClusterOperator.Proofs.Drift.Covers

/-!
# Covering seen path by path

A path leads from a value to one of its parts, by the names of members and the places of items.
Whether a document covers another is decided path by path: each part that the first one states is
held against what the other has at the same path, without looking further inside. What the other
has at paths that the first one does not reach makes no difference.

## Main definitions

* `Json.at?`: the part of a value at a path.
* `Json.IsScalar`, `Json.SameScalar`: values without parts, and when they are the same.
* `Drift.Answers`: what is asked of the value that is found at the path of a stated one.
* `Json.sharedWith`: a value without the members that another one does not have.

## Main results

* `Drift.covers_iff_answers`: covering is answering at every path.
* `Json.at?_sharedWith`: what is shared is found at the paths of the other value.
* `Drift.covers_by_paths`: what counts as drift inside a document, and what does not.
-/

namespace ClusterOperator

open SortedMap.Entries (lookup)

/-! ### Paths -/

namespace Json

/-- A step from a value into one of its parts: the member of a name, or the item at a place. -/
inductive Step where
  | member (name : String)
  | item (index : Nat)
  deriving DecidableEq

/-- The part to which a step leads. -/
def step? : Json → Step → Option Json
  | object ms, .member name => lookup name ms
  | array items, .item index => items[index]?
  | _, _ => none

/-- The part of a value at a path. -/
def at? (j : Json) : List Step → Option Json
  | [] => some j
  | step :: path => (j.step? step).bind fun part => part.at? path

/-- An absent value has the parts of null: none. -/
theorem getD_at?_getD (found : Option Json) (path : List Step) :
    ((found.getD null).at? path).getD null = (found.bind fun j => j.at? path).getD null := by
  cases found with
  | some j => rfl
  | none =>
    cases path with
    | nil => rfl
    | cons step path => rfl

/-- A value without parts that states something: a truth value, a number or a text. -/
def IsScalar : Json → Prop
  | bool _ => True
  | integer _ => True
  | real _ => True
  | string _ => True
  | _ => False

/-- Two scalars are the same: equal, where the two forms of zero count as one number. -/
def SameScalar : Json → Json → Prop
  | real a, real b => Binary64.same a.toNat b.toNat = true
  | a, b => a = b

end Json

/-! ### Answers -/

namespace Drift

/-- What is asked of the value that is found at the path of a stated one, null if there is none: a
scalar has to be the same, a list as long, an object any object; an empty list or object may be
missing, and null asks for nothing. -/
def Answers : (want live : Json) → Prop
  | .null, _ => True
  | .array items, live =>
    (∃ others, live = .array others ∧ others.length = items.length) ∨ (items = [] ∧ live = .null)
  | .object ms, live => (∃ others, live = .object others) ∨ (ms = [] ∧ live = .null)
  | want, live => want.SameScalar live

/-- Whatever a value states is answered at its path. -/
def AnswersThroughout (want live : Json) : Prop :=
  ∀ path part, want.at? path = some part → Answers part ((live.at? path).getD .null)

theorem answers_scalar {want : Json} (h : want.IsScalar) (live : Json) :
    Answers want live ↔ want.SameScalar live := by
  cases want with
  | bool _ | integer _ | real _ | string _ => exact Iff.rfl
  | null | array _ | object _ => cases h

theorem covers_scalar {want : Json} (h : want.IsScalar) (live : Json) :
    covers want live = true ↔ want.SameScalar live := by
  cases want with
  | bool _ | integer _ | real _ | string _ =>
    cases live <;> simp [covers, sameScalar, Json.SameScalar]
  | null | array _ | object _ => cases h

/-- What is stated by a value without parts. -/
theorem answersThroughout_of_no_parts {want live : Json} (h : ∀ step, want.step? step = none) :
    AnswersThroughout want live ↔ Answers want live := by
  constructor
  · intro hall
    exact hall [] want rfl
  · intro hwant path part hpart
    cases path with
    | nil => exact Option.some.inj hpart ▸ hwant
    | cons step path =>
      rw [Json.at?, h step] at hpart
      cases hpart

theorem step?_scalar {want : Json} (h : want.IsScalar) (step : Json.Step) :
    want.step? step = none := by
  cases want with
  | bool _ | integer _ | real _ | string _ => rfl
  | null | array _ | object _ => cases h

/-- What is stated is answered throughout if the value itself is and its parts are. -/
theorem answersThroughout_iff {want live : Json} :
    AnswersThroughout want live ↔ Answers want live ∧
      ∀ step part, want.step? step = some part →
        AnswersThroughout part ((live.step? step).getD .null) := by
  constructor
  · intro hall
    refine ⟨hall [] want rfl, fun step part hpart path inner hinner => ?_⟩
    have hfound := hall (step :: path) inner (by rw [Json.at?, hpart]; exact hinner)
    rwa [Json.getD_at?_getD]
  · rintro ⟨hwant, hparts⟩ path part hpart
    cases path with
    | nil => exact Option.some.inj hpart ▸ hwant
    | cons step path =>
      obtain ⟨first, hfirst, hinner⟩ := Option.bind_eq_some_iff.mp hpart
      have hfound := hparts step first hfirst path part hinner
      rwa [Json.getD_at?_getD] at hfound

theorem coversItems_iff {items others : List Json} :
    coversItems items others = true ↔ others.length = items.length ∧
      ∀ (index : Nat) (item : Json), items[index]? = some item →
        covers item ((others[index]?).getD .null) = true := by
  induction items generalizing others with
  | nil => cases others <;> simp [coversItems]
  | cons item items ih =>
    cases others with
    | nil => simp [coversItems]
    | cons other others =>
      rw [coversItems, Bool.and_eq_true, ih]
      constructor
      · rintro ⟨hitem, hlength, hrest⟩
        refine ⟨congrArg (· + 1) hlength, fun index found hfound => ?_⟩
        cases index with
        | zero => exact Option.some.inj hfound ▸ hitem
        | succ index => exact hrest index found hfound
      · rintro ⟨hlength, hall⟩
        exact ⟨hall 0 item rfl, Nat.succ.inj hlength,
          fun index found hfound => hall (index + 1) found hfound⟩

/-- Members that are named once are covered if what is found under every name is. -/
theorem coversMembers_iff_lookup {ms others : List (String × Json)} (once : Json.NamesOnce ms) :
    coversMembers ms others = true ↔ ∀ name value, lookup name ms = some value →
      covers value ((lookup name others).getD .null) = true := by
  rw [coversMembers_iff]
  constructor
  · intro hall name value hvalue
    exact hall (name, value) (SortedMap.mem_of_lookup hvalue)
  · intro hall m hm
    exact hall m.1 m.2 (SortedMap.lookup_eq_some_of_mem once hm)

theorem covers_array_iff {items : List Json} {live : Json} :
    covers (.array items) live = true ↔ Answers (.array items) live ∧
      ∀ (index : Nat) (item : Json), items[index]? = some item →
        covers item ((live.step? (.item index)).getD .null) = true := by
  cases live with
  | array others =>
    rw [covers, coversItems_iff]
    refine and_congr ?_ Iff.rfl
    simp [Answers]
  | null => cases items <;> simp [covers, Answers]
  | bool _ | integer _ | real _ | string _ | object _ => simp [covers, sameScalar, Answers]

theorem covers_object_iff {ms : List (String × Json)} (once : Json.NamesOnce ms) {live : Json} :
    covers (.object ms) live = true ↔ Answers (.object ms) live ∧
      ∀ name value, lookup name ms = some value →
        covers value ((live.step? (.member name)).getD .null) = true := by
  cases live with
  | object others =>
    rw [covers, coversMembers_iff_lookup once]
    exact (and_iff_right (.inl ⟨others, rfl⟩)).symm
  | null => cases ms <;> simp [covers, Answers, lookup]
  | bool _ | integer _ | real _ | string _ | array _ => simp [covers, sameScalar, Answers]

/-! ### Covering is answering -/

theorem covers_scalar_iff (want : Json) (h : want.IsScalar) (live : Json) :
    covers want live = true ↔ AnswersThroughout want live := by
  rw [covers_scalar h, answersThroughout_of_no_parts (step?_scalar h), answers_scalar h]

mutual

/-- A proper document is covered if whatever it states is answered at its path. -/
theorem covers_iff_answers : ∀ (want : Json), want.Proper → ∀ live : Json,
    covers want live = true ↔ AnswersThroughout want live
  | .null, _, live => by
    rw [answersThroughout_of_no_parts fun _ => rfl]
    exact iff_of_true (covers_of_isNull rfl live) trivial
  | .bool a, _, live => covers_scalar_iff (.bool a) trivial live
  | .integer a, _, live => covers_scalar_iff (.integer a) trivial live
  | .real a, _, live => covers_scalar_iff (.real a) trivial live
  | .string a, _, live => covers_scalar_iff (.string a) trivial live
  | .array items, proper, live => by
    rw [answersThroughout_iff, covers_array_iff]
    refine and_congr_right fun _ => ?_
    -- Only places lead into a list, as only names lead into an object below.
    constructor
    · rintro hall (name | index) part hpart
      · cases hpart
      · have hmem := List.mem_of_getElem? hpart
        exact (items_iff_answers items proper part hmem _).mp (hall index part hpart)
    · intro hall index part hpart
      have hmem := List.mem_of_getElem? hpart
      exact (items_iff_answers items proper part hmem _).mpr (hall (.item index) part hpart)
  | .object ms, ⟨once, proper⟩, live => by
    rw [answersThroughout_iff, covers_object_iff once]
    refine and_congr_right fun _ => ?_
    constructor
    · rintro hall (name | index) part hpart
      · have hmem := SortedMap.mem_of_lookup hpart
        exact (members_iff_answers ms proper _ hmem _).mp (hall name part hpart)
      · cases hpart
    · intro hall name part hpart
      have hmem := SortedMap.mem_of_lookup hpart
      exact (members_iff_answers ms proper _ hmem _).mpr (hall (.member name) part hpart)

/-- The same for every item of a list. -/
theorem items_iff_answers : ∀ (items : List Json), Json.ProperItems items → ∀ item ∈ items,
    ∀ live : Json, covers item live = true ↔ AnswersThroughout item live
  | [], _, _, hitem, _ => by cases hitem
  | first :: rest, ⟨hfirst, hrest⟩, item, hitem, live => by
    rcases List.mem_cons.mp hitem with heq | hitem
    · exact heq ▸ covers_iff_answers first hfirst live
    · exact items_iff_answers rest hrest item hitem live

/-- The same for every member of an object. -/
theorem members_iff_answers : ∀ (ms : List (String × Json)), Json.ProperMembers ms → ∀ m ∈ ms,
    ∀ live : Json, covers m.2 live = true ↔ AnswersThroughout m.2 live
  | [], _, _, hm, _ => by cases hm
  | (name, value) :: rest, ⟨hvalue, hrest⟩, m, hm, live => by
    rcases List.mem_cons.mp hm with rfl | hm
    · exact covers_iff_answers value hvalue live
    · exact members_iff_answers rest hrest m hm live

end

end Drift

/-! ### Members that only one value has -/

namespace Json

mutual

/-- A value without the members that another one does not have, at any depth. -/
def sharedWith : (live want : Json) → Json
  | array items, want => array (sharedItems items want 0)
  | object ms, want => object (sharedMembers ms want)
  | live, _ => live

/-- The items of a list, from a place on, without the members that the other value does not have. -/
def sharedItems : List Json → Json → Nat → List Json
  | [], _, _ => []
  | j :: rest, want, index =>
    (match want.step? (.item index) with
      | some w => j.sharedWith w
      | none => j) :: sharedItems rest want (index + 1)

/-- The members of an object that the other value has too. -/
def sharedMembers : List (String × Json) → Json → List (String × Json)
  | [], _ => []
  | (name, j) :: rest, want =>
    match want.step? (.member name) with
    | some w => (name, j.sharedWith w) :: sharedMembers rest want
    | none => sharedMembers rest want

end

theorem length_sharedItems (items : List Json) (want : Json) (index : Nat) :
    (sharedItems items want index).length = items.length := by
  induction items generalizing index with
  | nil => rfl
  | cons j rest ih => exact congrArg (· + 1) (ih (index + 1))

theorem getElem?_sharedItems {want w : Json} (items : List Json) (start index : Nat)
    (h : want.step? (.item (start + index)) = some w) :
    (sharedItems items want start)[index]? = (items[index]?).map (·.sharedWith w) := by
  induction items generalizing start index with
  | nil => rfl
  | cons j rest ih =>
    rw [sharedItems]
    cases index with
    | zero =>
      rw [Nat.add_zero] at h
      rw [h]
      rfl
    | succ index =>
      rw [List.getElem?_cons_succ, List.getElem?_cons_succ]
      exact ih (start + 1) index (by rw [← h]; congr 2; omega)

theorem lookup_sharedMembers {want w : Json} {name : String}
    (h : want.step? (.member name) = some w) (ms : List (String × Json)) :
    lookup name (sharedMembers ms want) = (lookup name ms).map (·.sharedWith w) := by
  induction ms with
  | nil => rfl
  | cons m rest ih =>
    obtain ⟨other, j⟩ := m
    by_cases heq : name = other
    · subst heq
      rw [sharedMembers, h, lookup, if_pos rfl, lookup, if_pos rfl]
      rfl
    · rw [sharedMembers]
      split
      · rw [lookup, if_neg heq, ih, lookup, if_neg heq]
      · rw [ih, lookup, if_neg heq]

theorem step?_sharedWith {want w : Json} {step : Step} (h : want.step? step = some w)
    (live : Json) : (live.sharedWith want).step? step = (live.step? step).map (·.sharedWith w) := by
  cases step with
  | member name =>
    cases live with
    | object ms => exact lookup_sharedMembers h ms
    | _ => rfl
  | item index =>
    cases live with
    | array items => exact getElem?_sharedItems items 0 index (by rwa [Nat.zero_add])
    | _ => rfl

/-- At the paths of the other value, what is shared is found. -/
theorem at?_sharedWith {path : List Step} {want part : Json} (h : want.at? path = some part)
    (live : Json) : (live.sharedWith want).at? path = (live.at? path).map (·.sharedWith part) := by
  induction path generalizing want live with
  | nil =>
    cases h
    rfl
  | cons step path ih =>
    obtain ⟨w, hw, hpart⟩ := Option.bind_eq_some_iff.mp h
    rw [at?, step?_sharedWith hw, at?]
    cases live.step? step with
    | none => rfl
    | some l => exact ih hpart l

end Json

namespace Drift

theorem answers_sharedWith (part live : Json) :
    Answers part (live.sharedWith part) ↔ Answers part live := by
  cases live with
  | array others =>
    cases part <;>
      simp [Json.sharedWith, Answers, Json.SameScalar, Json.length_sharedItems]
  | object others => cases part <;> simp [Json.sharedWith, Answers, Json.SameScalar]
  | _ => exact Iff.rfl

/-- What only the other document has makes no difference. -/
theorem covers_sharedWith {want : Json} (proper : want.Proper) (live : Json) :
    covers want (live.sharedWith want) = covers want live := by
  rw [Bool.eq_iff_iff, covers_iff_answers want proper, covers_iff_answers want proper]
  refine forall₂_congr fun path part => forall_congr' fun hpart => ?_
  rw [Json.at?_sharedWith hpart]
  cases live.at? path with
  | none => exact Iff.rfl
  | some l => exact answers_sharedWith part l

/-- What counts as drift inside a document: every part that is stated is held against what stands
at its path, null if nothing does. Members that only the live value has are never drift, at any
depth; a scalar that is changed or missing, at any depth, is. -/
theorem covers_by_paths {want : Json} (proper : want.Proper) (live : Json) :
    (covers want live = true ↔
      ∀ path part, want.at? path = some part → Answers part ((live.at? path).getD .null)) ∧
    covers want (live.sharedWith want) = covers want live ∧
    ∀ path part, want.at? path = some part → part.IsScalar →
      ¬ part.SameScalar ((live.at? path).getD .null) → covers want live = false := by
  refine ⟨covers_iff_answers want proper live, covers_sharedWith proper live, ?_⟩
  intro path part hpart hscalar hchanged
  rw [← Bool.not_eq_true, covers_iff_answers want proper]
  intro hall
  exact hchanged ((answers_scalar hscalar _).mp (hall path part hpart))

/-- The variables of a server that finds its address in a field of its pod, given the members that
name the field. -/
def addressVariables (field : List (String × Json)) : Json :=
  .array [.object [("name", .string "POD_IP"),
    ("valueFrom", .object [("fieldRef", .object field)])]]

/-- The version that the API server adds to the name of a field is no drift, another field is. -/
theorem addressVariables_by_paths :
    (addressVariables [("fieldPath", .string "status.podIP")]).Proper ∧
    covers (addressVariables [("fieldPath", .string "status.podIP")])
      (addressVariables [("apiVersion", .string "v1"), ("fieldPath", .string "status.podIP")]) =
        true ∧
    covers (addressVariables [("fieldPath", .string "status.podIP")])
      (addressVariables [("fieldPath", .string "status.hostIP")]) = false := by
  have proper : (addressVariables [("fieldPath", .string "status.podIP")]).Proper := by
    simp [addressVariables, Json.Proper, Json.ProperItems, Json.ProperMembers, Json.NamesOnce]
  refine ⟨proper, ?_, ?_⟩
  · exact (covers_by_paths proper _).2.1.symm.trans (covers_self _ proper)
  · refine (covers_by_paths proper _).2.2
      [.item 0, .member "valueFrom", .member "fieldRef", .member "fieldPath"]
      (.string "status.podIP") rfl trivial ?_
    rw [show (addressVariables [("fieldPath", .string "status.hostIP")]).at?
      [.item 0, .member "valueFrom", .member "fieldRef", .member "fieldPath"] =
        some (.string "status.hostIP") from rfl]
    simp [Json.SameScalar]

end Drift

end ClusterOperator
