import ClusterOperator.Proofs.Documents.Records
import ClusterOperator.Proofs.SortedMaps
import ClusterOperator.Store
import Mathlib.Data.List.Forall2

/-!
# Written selectors

A map of labels is written as a selector, and the selector is read again where pods are looked up.
If no separator stands where it would be taken for one, what is read asks for exactly the labels
that were written. So the pods of a deployment are those that carry its name and the two labels that
all deployments share, and no pod of another deployment is ever among them.

## Main definitions

* `Labels.Separable`: a map of labels can be written as a selector.
* `Json.Carries`: labels, as they are stored, have given values.
* `Json.LabelledFor`, `Store.PodsOf`: the labels and the stored pods of a deployment.

## Main results

* `Selector.terms_selector`: a written selector is read back.
* `Selector.holds_selector`: what labels a written selector picks out.
* `Store.written_selector_picks_out`: the pods that are listed for a deployment.
-/

namespace ClusterOperator

/-! ### Reading a written selector -/

/-- A map of labels can be written as a selector: commas stand in no text of it, and equality signs
in no key. -/
def Labels.Separable (labels : Dict String) : Prop :=
  ∀ key value, labels.get? key = some value →
    '=' ∉ key.toList ∧ ',' ∉ key.toList ∧ ',' ∉ value.toList

/-- Labels, as they are stored, have the values of a map. -/
def Json.Carries (j : Json) (labels : Dict String) : Prop :=
  ∀ key value, labels.get? key = some value → j.get? key = some (.string value)

namespace Selector

/-- The pieces between commas are those that core's splitting gives. -/
theorem splitCommas_eq (cs : List Char) : splitCommas cs = cs.splitOn ',' := by
  induction cs with
  | nil => rfl
  | cons c cs ih =>
    rw [List.splitOn_cons_eq_if_modifyHead, ← ih]
    by_cases hc : c = ','
    · subst hc
      rfl
    · rw [if_neg (by simpa using hc)]
      cases hpieces : splitCommas cs with
      | nil => exact absurd (ih.symm.trans hpieces) (List.splitOn_ne_nil _ _)
      | cons piece pieces =>
        unfold splitCommas
        split
        · next heq => cases heq
        · next heq => exact absurd (List.cons.inj heq).1 hc
        · next heq =>
          cases heq
          rw [hpieces]
          rfl

/-- The term of a key and a value, divided at the first equality sign. -/
theorem ofPiece_equals {key value : String} (h : '=' ∉ key.toList) :
    Term.ofPiece (key ++ "=" ++ value).toList = .equals key value := by
  have hkey : ∀ c ∈ key.toList, decide (c ≠ '=') = true := fun c hc =>
    decide_eq_true fun heq => h (heq ▸ hc)
  have htext : (key ++ "=" ++ value).toList = key.toList ++ '=' :: value.toList := by
    rw [String.toList_append, String.toList_append, List.append_assoc]
    rfl
  rw [htext, Term.ofPiece, List.dropWhile_append_of_pos hkey, List.takeWhile_append_of_pos hkey]
  simp

/-- A written selector is read back. -/
theorem terms_selector {labels : Dict String} (h : Labels.Separable labels) :
    terms (Labels.selector labels) = labels.entries.map fun l => .equals l.1 l.2 := by
  have hentries : ∀ l ∈ labels.entries, '=' ∉ l.1.toList ∧ ',' ∉ l.1.toList ∧ ',' ∉ l.2.toList :=
    fun l hl => h l.1 l.2 ((labels.mem_entries_iff l).mp hl)
  unfold terms Labels.selector
  rw [splitCommas_eq, String.toList_intercalate, List.map_map]
  generalize labels.entries = entries at hentries
  cases entries with
  | nil => rfl
  | cons e es =>
    have hcommas : ∀ piece ∈ (e :: es).map (String.toList ∘ fun l => l.1 ++ "=" ++ l.2),
        ',' ∉ piece := by
      intro piece hpiece
      obtain ⟨l, hl, rfl⟩ := List.mem_map.mp hpiece
      obtain ⟨-, hkey, hvalue⟩ := hentries l hl
      simpa using ⟨hkey, hvalue⟩
    have hsplit : (List.intercalate [','] ((e :: es).map
          (String.toList ∘ fun l => l.1 ++ "=" ++ l.2))).splitOn ',' =
        (e :: es).map (String.toList ∘ fun l => l.1 ++ "=" ++ l.2) :=
      List.splitOn_intercalate ',' hcommas (List.cons_ne_nil _ _)
    have hnonempty : ∀ piece ∈ (e :: es).map (String.toList ∘ fun l => l.1 ++ "=" ++ l.2),
        (!piece.isEmpty) = true := by
      intro piece hpiece
      obtain ⟨l, -, rfl⟩ := List.mem_map.mp hpiece
      simp
    show (((List.intercalate [','] _).splitOn ',').filter _).map Term.ofPiece = _
    rw [hsplit, List.filter_eq_self.mpr hnonempty, List.map_map]
    exact List.map_congr_left fun l hl => ofPiece_equals (hentries l hl).1

theorem Term.holds_equals {j : Json} {key value : String} :
    (Term.equals key value).holds j = true ↔ j.get? key = some (.string value) := by
  have hstring : ∀ v : Json, v.string? = some value ↔ v = .string value := by
    intro v
    cases v <;> simp [Json.string?]
  rw [Term.holds, beq_iff_eq]
  cases j.get? key <;> simp [hstring]

/-- A written selector picks out just the labels that have the values of the map. -/
theorem holds_selector {labels : Dict String} (h : Labels.Separable labels) (j : Json) :
    holds (Labels.selector labels) j = true ↔ j.Carries labels := by
  rw [holds, terms_selector h, List.all_map, List.all_eq_true]
  simp only [Function.comp, Term.holds_equals, labels.mem_entries_iff, Prod.forall]
  rfl

end Selector

/-! ### The pods of a deployment -/

/-- The labels of a deployment: two that all deployments share, and its name. -/
theorem Labels.get?_ofName_eq_some {name key value : String} :
    (ofName name).get? key = some value ↔
      (key = "component" ∧ value = "nacos") ∨ (key = "middleware" ∧ value = "nacos") ∨
        (key = "app" ∧ value = name) := by
  have hlist : ofName name = ((SortedMap.empty.insert "app" name).insert
      "middleware" "nacos").insert "component" "nacos" := rfl
  rw [hlist, SortedMap.get?_insert, SortedMap.get?_insert, SortedMap.get?_insert,
    SortedMap.get?_empty]
  grind

/-- The labels of a deployment can be written as a selector if no comma stands in its name. -/
theorem Labels.separable_ofName {name : String} (h : ',' ∉ name.toList) :
    Separable (ofName name) := by
  intro key value hvalue
  obtain ⟨rfl, rfl⟩ | ⟨rfl, rfl⟩ | ⟨rfl, rfl⟩ := get?_ofName_eq_some.mp hvalue
  · decide
  · decide
  · exact ⟨by decide, by decide, h⟩

/-- Labels belong to a deployment: they have its name and the two values that all deployments
share. -/
structure Json.LabelledFor (j : Json) (name : String) : Prop where
  app : j.get? "app" = some (.string name)
  middleware : j.get? "middleware" = some (.string "nacos")
  component : j.get? "component" = some (.string "nacos")

theorem Json.carries_ofName (j : Json) (name : String) :
    j.Carries (Labels.ofName name) ↔ j.LabelledFor name := by
  constructor
  · exact fun carries =>
      ⟨carries "app" name (Labels.get?_ofName_eq_some.mpr (.inr (.inr ⟨rfl, rfl⟩))),
        carries "middleware" "nacos" (Labels.get?_ofName_eq_some.mpr (.inr (.inl ⟨rfl, rfl⟩))),
        carries "component" "nacos" (Labels.get?_ofName_eq_some.mpr (.inl ⟨rfl, rfl⟩))⟩
  · intro labelled key value hvalue
    obtain ⟨rfl, rfl⟩ | ⟨rfl, rfl⟩ | ⟨rfl, rfl⟩ := Labels.get?_ofName_eq_some.mp hvalue
    · exact labelled.component
    · exact labelled.middleware
    · exact labelled.app

theorem mapM_eq_ok_iff {ε α β : Type} {f : α → Except ε β} {as : List α} {bs : List β} :
    as.mapM f = .ok bs ↔ List.Forall₂ (fun a b => f a = .ok b) as bs := by
  induction as generalizing bs with
  | nil =>
    rw [List.mapM_nil, List.forall₂_nil_left_iff]
    exact ⟨fun h => (Except.ok.inj h).symm, fun h => h ▸ rfl⟩
  | cons a as ih =>
    rw [List.mapM_cons, List.forall₂_cons_left_iff, bind_eq_ok]
    refine exists_congr fun b => ?_
    constructor
    · rintro ⟨hb, h⟩
      obtain ⟨bs, hbs, h⟩ := bind_eq_ok.mp h
      exact ⟨bs, hb, ih.mp hbs, (Except.ok.inj h).symm⟩
    · rintro ⟨bs, hb, hbs, rfl⟩
      exact ⟨hb, bind_eq_ok.mpr ⟨bs, ih.mpr hbs, rfl⟩⟩

namespace Store

/-- The stored pods of a namespace that are labelled for a deployment, with their keys and in the
order of their names. -/
structure PodsOf (s : Store) (space name : String) (es : List (Key × Json)) : Prop where
  ordered : es.Pairwise fun a b => a.1.name < b.1.name
  mem_iff : ∀ e, e ∈ es ↔ s.get? e.1 = some e.2 ∧ e.1.kind = .pod ∧ e.1.space = space ∧
    (labelsOf e.2).LabelledFor name

variable {s : Store} {space name : String}

theorem select_some (s : Store) (k : Kind) (space text : String) :
    s.select k space (some text) = (s.objects.entries.filter fun e =>
      decide (e.1.kind = k ∧ e.1.space = space) && Selector.holds text (labelsOf e.2)).map (·.2) :=
  rfl

/-- The selector of a deployment picks out its pods. -/
theorem exists_podsOf (s : Store) (space : String) (h : ',' ∉ name.toList) :
    ∃ es, s.PodsOf space name es ∧
      s.select .pod space (some (Labels.selector (Labels.ofName name))) = es.map (·.2) := by
  let picks (e : Key × Json) : Bool := decide (e.1.kind = .pod ∧ e.1.space = space) &&
    Selector.holds (Labels.selector (Labels.ofName name)) (labelsOf e.2)
  refine ⟨s.objects.entries.filter picks, ⟨?_, fun e => ?_⟩, s.select_some _ _ _⟩
  · have hkey : ∀ e ∈ s.objects.entries.filter picks, e.1.kind = .pod ∧ e.1.space = space := by
      intro e he
      have hpicks := (List.mem_filter.mp he).2
      rw [Bool.and_eq_true, decide_eq_true_iff] at hpicks
      exact hpicks.1
    -- Among keys of one kind and one namespace the names decide.
    refine List.Pairwise.imp_of_mem (fun {a b} ha hb hlt => ?_)
      (List.Pairwise.filter picks s.objects.sorted)
    obtain ⟨hkind, hspace⟩ := hkey a ha
    obtain ⟨hkind', hspace'⟩ := hkey b hb
    rcases (hlt : Key.lt a.1 b.1) with hlt | ⟨-, hlt | ⟨-, hlt⟩⟩
    · rw [hkind, hkind'] at hlt
      exact absurd hlt (String.lt_irrefl _)
    · rw [hspace, hspace'] at hlt
      exact absurd hlt (String.lt_irrefl _)
    · exact hlt
  · have hlabels : Selector.holds (Labels.selector (Labels.ofName name)) (labelsOf e.2) = true ↔
        (labelsOf e.2).LabelledFor name :=
      (Selector.holds_selector (Labels.separable_ofName h) _).trans (Json.carries_ofName _ _)
    rw [List.mem_filter, SortedMap.mem_entries_iff, Bool.and_eq_true, decide_eq_true_iff,
      and_assoc]
    exact and_congr_right fun _ => and_congr_right fun _ => and_congr_right fun _ => hlabels

/-- Pods are listed if all of them can be read. -/
theorem list_eq_ok_iff {selector : Option String} {es : List (Key × Json)}
    (selected : s.select .pod space selector = es.map (·.2)) {pods : List Kubernetes.Pod} :
    s.list .pod space selector = .ok pods ↔
      List.Forall₂ (fun e pod => Document.read Kubernetes.Pod e.2 = .ok pod) es pods := by
  rw [list, selected, mapError_eq_ok, mapM_eq_ok_iff, List.forall₂_map_left_iff]
  rfl

theorem exists_forall₂ {α β : Type} {r : α → β → Prop} :
    ∀ {as : List α}, (∀ a ∈ as, ∃ b, r a b) → ∃ bs, List.Forall₂ r as bs
  | [], _ => ⟨[], .nil⟩
  | a :: as, h => by
    obtain ⟨hb, hbs⟩ := List.forall_mem_cons.mp h
    obtain ⟨b, hb⟩ := hb
    obtain ⟨bs, hbs⟩ := exists_forall₂ hbs
    exact ⟨b :: bs, .cons hb hbs⟩

/-- A selector that is written for a map of labels picks out just those labels that have the values
of the map. So for a deployment the stored pods of its namespace are listed that are labelled for
it, and no others, in the order of their names; and they are listed if all of them can be read. None
of them is labelled for another deployment. -/
theorem written_selector_picks_out :
    (∀ labels, Labels.Separable labels → ∀ j : Json,
      Selector.holds (Labels.selector labels) j = true ↔ j.Carries labels) ∧
    ∀ (s : Store) (space name : String), ',' ∉ name.toList → ∃ es, s.PodsOf space name es ∧
      (∀ pods, s.list .pod space (some (Labels.selector (Labels.ofName name))) = .ok pods ↔
        List.Forall₂ (fun e pod => Document.read Kubernetes.Pod e.2 = .ok pod) es pods) ∧
      ((∀ e ∈ es, ∃ pod, Document.read Kubernetes.Pod e.2 = .ok pod) →
        ∃ pods, s.list .pod space (some (Labels.selector (Labels.ofName name))) = .ok pods) ∧
      ∀ other ≠ name, ∀ e ∈ es, ¬ (labelsOf e.2).LabelledFor other := by
  refine ⟨fun labels h j => Selector.holds_selector h j, fun s space name h => ?_⟩
  obtain ⟨es, hpods, hselected⟩ := s.exists_podsOf space h
  refine ⟨es, hpods, fun pods => list_eq_ok_iff hselected, fun readable => ?_, ?_⟩
  · obtain ⟨pods, hread⟩ := exists_forall₂ readable
    exact ⟨pods, (list_eq_ok_iff hselected).mpr hread⟩
  · intro other hother e he hlabels
    obtain ⟨-, -, -, hown⟩ := (hpods.mem_iff e).mp he
    have hname := hlabels.app.symm.trans hown.app
    exact hother (Json.string.inj (Option.some.inj hname))

/-- A stored pod of which only the labels are known. -/
def labelledPod (name : String) : Json :=
  .object [("metadata", .object [("labels", .object
    [("app", .string name), ("component", .string "nacos"), ("middleware", .string "nacos")])])]

/-- A store with a pod of each of two deployments. -/
def mixedSample : Store where
  objects := (SortedMap.empty.insert ⟨.pod, "default", "nc-0"⟩ (labelledPod "nc")).insert
    ⟨.pod, "default", "nd-0"⟩ (labelledPod "nd")

theorem mixedSample_picks_out : ∃ es, mixedSample.PodsOf "default" "nc" es ∧
    (⟨.pod, "default", "nc-0"⟩, labelledPod "nc") ∈ es ∧
    (⟨.pod, "default", "nd-0"⟩, labelledPod "nd") ∉ es ∧
    Selector.holds (Labels.selector (Labels.ofName "nc")) (labelsOf (labelledPod "nc")) = true := by
  obtain ⟨hholds, hlist⟩ := written_selector_picks_out
  have hown : ∀ name, (labelsOf (labelledPod name)).LabelledFor name := fun _ => ⟨rfl, rfl, rfl⟩
  obtain ⟨es, hpods, -, -, hnone⟩ := hlist mixedSample "default" "nc" (by decide)
  refine ⟨es, hpods, (hpods.mem_iff _).mpr ⟨?_, rfl, rfl, hown "nc"⟩,
    fun he => hnone "nd" (by decide) _ he (hown "nd"), ?_⟩
  · exact (SortedMap.get?_insert_of_ne _ _ (by decide)).trans (SortedMap.get?_insert_self _ _ _)
  · exact (hholds _ (Labels.separable_ofName (by decide)) _).mpr
      ((Json.carries_ofName _ _).mpr (hown "nc"))

end Store

end ClusterOperator
