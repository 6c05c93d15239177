import ClusterOperator.Proofs.Children.Plans

/-!
# Values that the API server leaves out

The API server does not return a member whose value is empty: an empty text, zero, false, or a list
or object without parts. A stateful set that is returned in this way has drifted from what was
written unless every value left out is a list or an object. A variable that is declared with an
empty text, for example, is drift in every pass, and the stateful set is written in every pass.

## Main definitions

* `Json.IsBlank`, `Json.IsHollow`: values that are left out, and those of them that may be missing.
* `Json.Drops`: a value without some of the members, at any depth, whose values are of a kind.
* `Kubernetes.StatefulSet.ReturnedAs`: a stateful set as it is returned when members are left out.

## Main results

* `Drift.drops_and_covers_iff`: what was left out is not missed if null covers it.
* `Plan.drifted_returned`: when a stateful set has drifted by being returned.
-/

namespace ClusterOperator

open SortedMap.Entries (lookup)
open Kubernetes

/-! ### Values without some of their members -/

namespace Json

/-- A value that the API server leaves out: an empty text, zero, false, an empty list or an empty
object. -/
def IsBlank : Json → Prop
  | null => False
  | bool b => b = false
  | integer n => n = 0
  | real bits => Binary64.isZero bits.toNat = true
  | string s => s = ""
  | array items => items = []
  | object ms => ms = []

/-- An empty list or object. -/
def IsHollow : Json → Prop
  | array items => items = []
  | object ms => ms = []
  | _ => False

mutual

/-- A value without some of the members, at any depth, whose values are of a kind. -/
def Drops (P : Json → Prop) : (want live : Json) → Prop
  | array items, live => ∃ others, live = array others ∧ DropsItems P items others
  | object ms, live => ∃ others, live = object others ∧ DropsMembers P ms others
  | want, live => live = want

/-- The items of a list, each without some of its members. -/
def DropsItems (P : Json → Prop) : (items others : List Json) → Prop
  | [], others => others = []
  | j :: items, others =>
    ∃ k rest, others = k :: rest ∧ j.Drops P k ∧ DropsItems P items rest

/-- The members of an object. One whose value is of the kind may be left out, one that is kept may
be without some of its own. -/
def DropsMembers (P : Json → Prop) : (ms others : List (String × Json)) → Prop
  | [], others => others = []
  | (name, j) :: ms, others =>
    (P j ∧ DropsMembers P ms others) ∨
      ∃ k rest, others = (name, k) :: rest ∧ j.Drops P k ∧ DropsMembers P ms rest

end

mutual

/-- Nothing may be left out. -/
theorem Drops.refl {P : Json → Prop} : ∀ j : Json, j.Drops P j
  | null => rfl
  | bool _ => rfl
  | integer _ => rfl
  | real _ => rfl
  | string _ => rfl
  | array items => ⟨items, rfl, DropsItems.refl items⟩
  | object ms => ⟨ms, rfl, DropsMembers.refl ms⟩

theorem DropsItems.refl {P : Json → Prop} : ∀ items : List Json, DropsItems P items items
  | [] => rfl
  | j :: items => ⟨j, items, rfl, Drops.refl j, DropsItems.refl items⟩

theorem DropsMembers.refl {P : Json → Prop} : ∀ ms : List (String × Json), DropsMembers P ms ms
  | [] => rfl
  | (_, j) :: ms => .inr ⟨j, ms, rfl, Drops.refl j, DropsMembers.refl ms⟩

end

/-- What is left of the members of an object has no other names. -/
theorem DropsMembers.names_subset {P : Json → Prop} {ms others : List (String × Json)}
    (h : DropsMembers P ms others) : others.map Prod.fst ⊆ ms.map Prod.fst := by
  induction ms generalizing others with
  | nil =>
    rw [DropsMembers] at h
    rw [h]
    exact List.Subset.refl _
  | cons m ms ih =>
    obtain ⟨name, j⟩ := m
    rw [DropsMembers] at h
    rcases h with ⟨-, h⟩ | ⟨k, rest, rfl, -, h⟩
    · exact List.subset_cons_of_subset name (ih h)
    · exact List.cons_subset_cons name (ih h)

end Json

/-! ### What was left out is missed or not -/

namespace Drift

theorem covers_null_iff {j : Json} : covers j .null = true ↔ j = .null ∨ j.IsHollow := by
  cases j <;> simp [covers, sameScalar, Json.IsHollow]

/-- Of the values that are left out, null covers the lists and the objects. -/
theorem isBlank_and_covers_null_iff {j : Json} :
    j.IsBlank ∧ covers j .null = true ↔ j.IsHollow := by
  rw [covers_null_iff]
  cases j <;> simp [Json.IsBlank, Json.IsHollow]

/-- A member makes no difference to what is looked up under other names. -/
theorem coversMembers_cons_of_not_mem {ms others : List (String × Json)} {name : String}
    (h : name ∉ ms.map Prod.fst) (k : Json) :
    coversMembers ms ((name, k) :: others) = coversMembers ms others := by
  rw [Bool.eq_iff_iff, coversMembers_iff, coversMembers_iff]
  refine forall₂_congr fun m hm => ?_
  have hne : m.1 ≠ name := fun heq => h (heq ▸ List.mem_map_of_mem hm)
  rw [lookup, if_neg hne]

variable {P : Json → Prop}

/-- A kind of values together with being covered by null. -/
def AndMayMiss (P : Json → Prop) (j : Json) : Prop := P j ∧ covers j .null = true

theorem drops_scalar_iff {want : Json} (proper : want.Proper)
    (hdrops : ∀ Q live, want.Drops Q live ↔ live = want) (live : Json) :
    want.Drops (AndMayMiss P) live ↔ want.Drops P live ∧ covers want live = true := by
  rw [hdrops, hdrops]
  constructor
  · rintro rfl
    exact ⟨rfl, covers_self live proper⟩
  · exact And.left

mutual

/-- A proper value covers what is left of it exactly if null covers whatever was left out. -/
theorem drops_and_covers_iff : ∀ (want : Json), want.Proper → ∀ live : Json,
    want.Drops (AndMayMiss P) live ↔ want.Drops P live ∧ covers want live = true
  | .null, proper, live => drops_scalar_iff proper (fun _ _ => Iff.rfl) live
  | .bool _, proper, live => drops_scalar_iff proper (fun _ _ => Iff.rfl) live
  | .integer _, proper, live => drops_scalar_iff proper (fun _ _ => Iff.rfl) live
  | .real _, proper, live => drops_scalar_iff proper (fun _ _ => Iff.rfl) live
  | .string _, proper, live => drops_scalar_iff proper (fun _ _ => Iff.rfl) live
  | .array items, proper, live => by
    rw [Json.Drops, Json.Drops]
    constructor
    · rintro ⟨others, rfl, h⟩
      obtain ⟨hdrops, hcovers⟩ := (dropsItems_and_covers_iff items proper others).mp h
      exact ⟨⟨others, rfl, hdrops⟩, hcovers⟩
    · rintro ⟨⟨others, rfl, hdrops⟩, hcovers⟩
      exact ⟨others, rfl,
        (dropsItems_and_covers_iff items proper others).mpr ⟨hdrops, hcovers⟩⟩
  | .object ms, ⟨once, proper⟩, live => by
    rw [Json.Drops, Json.Drops]
    constructor
    · rintro ⟨others, rfl, h⟩
      obtain ⟨hdrops, hcovers⟩ := (dropsMembers_and_covers_iff ms once proper others).mp h
      exact ⟨⟨others, rfl, hdrops⟩, hcovers⟩
    · rintro ⟨⟨others, rfl, hdrops⟩, hcovers⟩
      exact ⟨others, rfl,
        (dropsMembers_and_covers_iff ms once proper others).mpr ⟨hdrops, hcovers⟩⟩

/-- The same for the items of a list. -/
theorem dropsItems_and_covers_iff : ∀ (items : List Json), Json.ProperItems items →
    ∀ others : List Json, Json.DropsItems (AndMayMiss P) items others ↔
      Json.DropsItems P items others ∧ coversItems items others = true
  | [], _, others => by
    rw [Json.DropsItems, Json.DropsItems]
    constructor
    · rintro rfl
      exact ⟨rfl, rfl⟩
    · exact And.left
  | j :: items, ⟨hj, hitems⟩, others => by
    rw [Json.DropsItems, Json.DropsItems]
    constructor
    · rintro ⟨k, rest, rfl, hfirst, hrest⟩
      obtain ⟨hfirst, hcovers⟩ := (drops_and_covers_iff j hj k).mp hfirst
      obtain ⟨hrest, hcoversRest⟩ := (dropsItems_and_covers_iff items hitems rest).mp hrest
      exact ⟨⟨k, rest, rfl, hfirst, hrest⟩, by rw [coversItems, hcovers, hcoversRest]; rfl⟩
    · rintro ⟨⟨k, rest, rfl, hfirst, hrest⟩, hcovers⟩
      obtain ⟨hcovers, hcoversRest⟩ := (Bool.and_eq_true _ _).mp hcovers
      exact ⟨k, rest, rfl, (drops_and_covers_iff j hj k).mpr ⟨hfirst, hcovers⟩,
        (dropsItems_and_covers_iff items hitems rest).mpr ⟨hrest, hcoversRest⟩⟩

/-- The same for the members of an object. -/
theorem dropsMembers_and_covers_iff : ∀ (ms : List (String × Json)), Json.NamesOnce ms →
    Json.ProperMembers ms → ∀ others : List (String × Json),
      Json.DropsMembers (AndMayMiss P) ms others ↔
        Json.DropsMembers P ms others ∧ coversMembers ms others = true
  | [], _, _, others => by
    rw [Json.DropsMembers, Json.DropsMembers]
    exact ⟨fun h => ⟨h, rfl⟩, And.left⟩
  | (name, j) :: ms, once, ⟨hj, hms⟩, others => by
    obtain ⟨hname, once⟩ := List.nodup_cons.mp once
    have hrest := dropsMembers_and_covers_iff ms once hms
    rw [Json.DropsMembers, Json.DropsMembers, coversMembers, Bool.and_eq_true]
    -- A member that was left out is not found, for what is left has no other names.
    have hmissing (h : Json.DropsMembers P ms others) :
        (lookup name others).getD .null = .null := by
      rw [lookup_eq_none_iff.mpr fun hmem => hname (h.names_subset hmem)]
      rfl
    constructor
    · rintro (⟨⟨hfirst, hnull⟩, h⟩ | ⟨k, rest, rfl, hfirst, h⟩)
      · obtain ⟨hdrops, hcovers⟩ := (hrest others).mp h
        exact ⟨.inl ⟨hfirst, hdrops⟩, by rwa [hmissing hdrops], hcovers⟩
      · obtain ⟨hfirst, hfound⟩ := (drops_and_covers_iff j hj k).mp hfirst
        obtain ⟨hdrops, hcovers⟩ := (hrest rest).mp h
        refine ⟨.inr ⟨k, rest, rfl, hfirst, hdrops⟩, ?_, ?_⟩
        · rwa [lookup, if_pos rfl]
        · rwa [coversMembers_cons_of_not_mem hname]
    · rintro ⟨⟨hfirst, hdrops⟩ | ⟨k, rest, rfl, hfirst, hdrops⟩, hfound, hcovers⟩
      · rw [hmissing hdrops] at hfound
        exact .inl ⟨⟨hfirst, hfound⟩, (hrest others).mpr ⟨hdrops, hcovers⟩⟩
      · rw [lookup, if_pos rfl] at hfound
        rw [coversMembers_cons_of_not_mem hname] at hcovers
        exact .inr ⟨k, rest, rfl, (drops_and_covers_iff j hj k).mpr ⟨hfirst, hfound⟩,
          (hrest rest).mpr ⟨hdrops, hcovers⟩⟩

end

/-- The same for the documents of two values. -/
theorem sameFields_iff_of_drops {α : Type} [Document α]
    (h : (Document.shape α).wellFormed = true) {want live : α} (proper : Document.Proper want)
    (drops : (Document.write want).Drops Json.IsBlank (Document.write live)) :
    sameFields want live = true ↔
      (Document.write want).Drops Json.IsHollow (Document.write live) := by
  have hkind : AndMayMiss Json.IsBlank = Json.IsHollow :=
    funext fun _ => propext isBlank_and_covers_null_iff
  have hproper : (Document.write want).Proper := (Document.shape α).proper_write h _ proper
  rw [sameFields, ← hkind, drops_and_covers_iff _ hproper]
  exact (and_iff_right drops).symm

end Drift

/-! ### Stateful sets that are returned -/

namespace Kubernetes

/-- A container as it is returned when members of a kind are left out of what it is made of. -/
structure Container.ReturnedAs (P : Json → Prop) (want live : Container) : Prop where
  image : live.image = want.image
  resources : live.resources = want.resources
  env : (Document.write (want.env.getD [])).Drops P (Document.write (live.env.getD []))
  mounts : (Document.write (want.volumeMounts.getD [])).Drops P
    (Document.write (live.volumeMounts.getD []))
  liveness : Option.Rel (fun w l => (Document.write w).Drops P (Document.write l))
    want.livenessProbe live.livenessProbe
  readiness : Option.Rel (fun w l => (Document.write w).Drops P (Document.write l))
    want.readinessProbe live.readinessProbe

/-- A stateful set as it is returned when members of a kind are left out of its volumes and of its
first container. -/
structure StatefulSet.ReturnedAs (P : Json → Prop) (want live : StatefulSet) : Prop where
  replicas : live.replicas? = want.replicas?
  volumes : (Document.write want.volumes).Drops P (Document.write live.volumes)
  container : Option.Rel (Container.ReturnedAs P) want.container? live.container?

end Kubernetes

namespace Drift

theorem sameProbe_iff_of_drops {want live : Option Probe}
    (drops : Option.Rel (fun w l => (Document.write w).Drops Json.IsBlank (Document.write l))
      want live) :
    sameProbe want live = true ↔
      Option.Rel (fun w l => (Document.write w).Drops Json.IsHollow (Document.write l))
        want live := by
  cases drops with
  | none => exact iff_of_true rfl .none
  | some h =>
    have hfields := sameFields_iff_of_drops (by decide) (Document.proper_of_exact rfl _) h
    constructor
    · intro hsame
      exact .some (hfields.mp hsame)
    · rintro (hdrops | _)
      exact hfields.mpr hdrops

theorem containerDrifted_iff_of_returned {want live : Container}
    (returned : want.ReturnedAs Json.IsBlank live) :
    containerDrifted want live = false ↔ want.ReturnedAs Json.IsHollow live := by
  have henv := sameFields_iff_of_drops (by decide) (Document.proper_of_exact rfl _) returned.env
  have hmounts :=
    sameFields_iff_of_drops (by decide) (Document.proper_of_exact rfl _) returned.mounts
  have hliveness := sameProbe_iff_of_drops returned.liveness
  have hreadiness := sameProbe_iff_of_drops returned.readiness
  simp only [containerDrifted, returned.image, returned.resources, bne_self_eq_false,
    sameResources_self, Bool.not_true, Bool.false_or, Bool.or_eq_false_iff, Bool.not_eq_false']
  constructor
  · rintro ⟨⟨⟨hsameEnv, hsameMounts⟩, hsameLiveness⟩, hsameReadiness⟩
    exact ⟨returned.image, returned.resources, henv.mp hsameEnv, hmounts.mp hsameMounts,
      hliveness.mp hsameLiveness, hreadiness.mp hsameReadiness⟩
  · intro h
    exact ⟨⟨⟨henv.mpr h.env, hmounts.mpr h.mounts⟩, hliveness.mpr h.liveness⟩,
      hreadiness.mpr h.readiness⟩

end Drift

namespace Kubernetes

/-- A stateful set from which empty values were left out has drifted unless they were all lists and
objects. -/
theorem StatefulSet.drifted_iff_of_returned {want live : StatefulSet}
    (proper : Document.Proper want) (returned : want.ReturnedAs Json.IsBlank live) :
    want.drifted live = false ↔ want.ReturnedAs Json.IsHollow live := by
  have hvolumes := Drift.sameFields_iff_of_drops (by decide) (proper_volumes proper)
    returned.volumes
  have hcontainers := returned.container
  simp only [drifted, returned.replicas, bne_self_eq_false, Bool.false_or, Bool.or_eq_false_iff,
    Bool.not_eq_false']
  generalize hw : want.container? = w at hcontainers ⊢
  generalize hl : live.container? = l at hcontainers ⊢
  cases hcontainers with
  | none =>
    constructor
    · rintro ⟨hsame, -⟩
      exact ⟨returned.replicas, hvolumes.mp hsame, by rw [hw, hl]; exact .none⟩
    · intro h
      exact ⟨hvolumes.mpr h.volumes, rfl⟩
  | some hreturned =>
    have hcontainer := Drift.containerDrifted_iff_of_returned hreturned
    constructor
    · rintro ⟨hsame, hsettled⟩
      exact ⟨returned.replicas, hvolumes.mp hsame,
        by rw [hw, hl]; exact .some (hcontainer.mp hsettled)⟩
    · intro h
      have hhollow := h.container
      rw [hw, hl] at hhollow
      cases hhollow with
      | some hhollow => exact ⟨hvolumes.mpr h.volumes, hcontainer.mpr hhollow⟩

end Kubernetes

namespace Plan

/-- When a stateful set has drifted from its desired form by being returned without its empty
values: unless all of those left out are lists and objects. -/
theorem drifted_returned (p : Plan) {live : StatefulSet}
    (returned : p.statefulSet.ReturnedAs Json.IsBlank live) :
    p.statefulSet.drifted live = false ↔ p.statefulSet.ReturnedAs Json.IsHollow live :=
  StatefulSet.drifted_iff_of_returned p.proper_statefulSet returned

end Plan

/-- Variables of which the first one may have a value. -/
def variablesSample (value : Option String) (others : List EnvVar) : List EnvVar :=
  { name := "JAVA_OPT", value } :: others

theorem variablesSample_drops {P : Json → Prop} {others : List EnvVar} :
    (Document.write (variablesSample (some "") others)).Drops P
      (Document.write (variablesSample none others)) ↔ P (.string "") := by
  constructor
  · rintro ⟨items, hitems, item, rest, rfl, ⟨ms, hms, hdrops⟩, -⟩
    obtain ⟨hitem, -⟩ := List.cons.inj (Json.array.inj hitems)
    obtain rfl : [("name", Json.string "JAVA_OPT")] = ms := Json.object.inj (hitem.trans hms)
    have hvalue {ms : List (String × Json)} (hms : "value" ∉ ms.map Prod.fst)
        (h : Json.DropsMembers P [("value", .string "")] ms) : P (.string "") := by
      rcases h with ⟨h, -⟩ | ⟨k, rest, rfl, -⟩
      · exact h
      · exact absurd List.mem_cons_self hms
    rcases hdrops with ⟨-, h⟩ | ⟨k, rest, hcons, -, h⟩
    · exact hvalue (by decide) h
    · obtain ⟨-, rfl⟩ := List.cons.inj hcons
      exact hvalue List.not_mem_nil h
  · intro h
    exact ⟨_, rfl, _, _, rfl, ⟨_, rfl, .inr ⟨_, _, rfl, rfl, .inl ⟨h, rfl⟩⟩⟩,
      Json.DropsItems.refl _⟩

/-- A single server with a variable that may have a value. -/
def Declaration.variableSample (value : Option String) : Declaration where
  metadata := { name := some "nc", space := some "default", uid := some "u-nc" }
  spec :=
    { type := "standalone"
      image := "nacos:v2"
      database := { type := "embedded" }
      env := variablesSample value [] }

/-- Its plan. -/
def Plan.variableSample (value : Option String) : Plan where
  declaration := Declaration.variableSample value
  name := "nc"
  space := "default"
  mode := .standalone
  backend := .embedded
  replicas := 1
  replicas_le := by decide
  domain := "cluster.local"

/-- The API server does not return the value of a variable that is empty, and so the stateful set
has drifted. -/
theorem Plan.variableSample_drifted :
    (∀ value, Plan.ofDeclaration (Declaration.variableSample value) "cluster.local" =
      .ok (variableSample value)) ∧
    (variableSample (some "")).statefulSet.ReturnedAs Json.IsBlank
      (variableSample none).statefulSet ∧
    (variableSample (some "")).statefulSet.drifted (variableSample none).statefulSet = true := by
  have returned : (variableSample (some "")).statefulSet.ReturnedAs Json.IsBlank
      (variableSample none).statefulSet :=
    ⟨rfl, Json.Drops.refl _, .some ⟨rfl, rfl, variablesSample_drops.mpr rfl, Json.Drops.refl _,
      .none, .none⟩⟩
  refine ⟨fun _ => rfl, returned, ?_⟩
  rw [← Bool.not_eq_false, Plan.drifted_returned _ returned]
  rintro ⟨-, -, hcontainer⟩
  cases hcontainer with
  | some h => exact variablesSample_drops.mp h.env

end ClusterOperator
