import ClusterOperator.Declaration.Defaults
import ClusterOperator.Proofs.Children.Apply

/-!
# The children of a plan

A declaration is refused for an unknown mode, an unknown backend or a negative number of replicas,
and for nothing else once it has a namespace. The children of a plan are stored under keys of their
own, each read back as it was written, and what is compared of them depends only on the declared
state, the name and the namespace.

## Main definitions

* `Spec.Refused`: the declared states that make no sense.
* `Declaration.withDefaults`: what a plan is made of.
* `Key.IsChildOf`: the keys under which the children of a deployment are stored.
* `Child.Fits`: a service has an address of its own exactly if it is for clients.

## Main results

* `Plan.exists_ofDeclaration`, `Plan.ofDeclaration_refused`: the declarations that have a plan.
* `Plan.nodup_childKeys`: children are stored under different keys.
* `Plan.proper_children`, `Plan.fits_children`, `Plan.alike_children`.
-/

namespace ClusterOperator

open Kubernetes

/-! ### Declarations that have a plan -/

/-- A declared state that makes no sense: a mode or a backend of no known name, or a negative
number of replicas. -/
def Spec.Refused (s : Spec) : Prop :=
  (s.type ≠ "" ∧ s.type ≠ "standalone" ∧ s.type ≠ "cluster") ∨
    (s.database.type ≠ "" ∧ s.database.type ≠ "embedded" ∧ s.database.type ≠ "mysql") ∨
    ∃ r, s.replicas = some r ∧ r.val < 0

/-- A declaration with what is left open filled in. -/
def Declaration.withDefaults (d : Declaration) : Declaration :=
  { d with spec := d.spec.withDefaults }

theorem orIfEmpty_eq (s other : String) : orIfEmpty s other = if s = "" then other else s := by
  unfold orIfEmpty
  simp only [String.isEmpty_iff]

theorem Mode.parse_eq_ok {s : String} :
    (∃ m, Mode.parse s = .ok m) ↔ s = "standalone" ∨ s = "cluster" := by
  unfold Mode.parse
  split
  · next h => exact iff_of_true ⟨_, rfl⟩ (.inl h)
  · next h =>
    split
    · next h' => exact iff_of_true ⟨_, rfl⟩ (.inr h')
    · next h' => exact iff_of_false (fun ⟨_, h⟩ => nomatch h) fun hs => hs.elim h h'

theorem Backend.parse_eq_ok {s : String} :
    (∃ b, Backend.parse s = .ok b) ↔ s = "embedded" ∨ s = "mysql" := by
  unfold Backend.parse
  split
  · next h => exact iff_of_true ⟨_, rfl⟩ (.inl h)
  · next h =>
    split
    · next h' => exact iff_of_true ⟨_, rfl⟩ (.inr h')
    · next h' => exact iff_of_false (fun ⟨_, h⟩ => nomatch h) fun hs => hs.elim h h'

theorem Mode.code_of_parse {s : String} {fault : Fault} (h : Mode.parse s = .error fault) :
    fault.code = Fault.badParameter := by
  unfold Mode.parse at h
  split at h
  · cases h
  · split at h
    · cases h
    · cases h
      rfl

theorem Backend.code_of_parse {s : String} {fault : Fault} (h : Backend.parse s = .error fault) :
    fault.code = Fault.badParameter := by
  unfold Backend.parse at h
  split at h
  · cases h
  · split at h
    · cases h
    · cases h
      rfl

theorem Database.type_withDefaults (d : Database) :
    d.withDefaults.type = orIfEmpty d.type Backend.embedded.name := by
  unfold withDefaults
  simp only
  split <;> rfl

/-- Of two words, with one of them as the default, none is meant by another word. -/
theorem orIfEmpty_or (s a b : String) :
    (orIfEmpty s a = a ∨ orIfEmpty s a = b) ↔ ¬ (s ≠ "" ∧ s ≠ a ∧ s ≠ b) := by
  rw [orIfEmpty_eq]
  by_cases h : s = ""
  · simp [h]
  · rw [if_neg h]
    constructor
    · rintro (h' | h') ⟨-, ha, hb⟩
      · exact ha h'
      · exact hb h'
    · intro hnot
      by_cases ha : s = a
      · exact .inl ha
      · exact .inr (Classical.byContradiction fun hb => hnot ⟨h, ha, hb⟩)

/-- What is accepted once the defaults are filled in. -/
theorem Spec.not_refused_iff (s : Spec) :
    ¬ s.Refused ↔ (∃ m, Mode.parse s.withDefaults.type = .ok m) ∧
      (∃ b, Backend.parse s.withDefaults.database.type = .ok b) ∧
      0 ≤ (s.withDefaults.replicas.getD defaultReplicas).val := by
  have hbackend : s.withDefaults.database.type = orIfEmpty s.database.type Backend.embedded.name :=
    s.database.type_withDefaults
  have hreplicas : 0 ≤ (s.withDefaults.replicas.getD defaultReplicas).val ↔
      ¬ ∃ r, s.replicas = some r ∧ r.val < 0 := by
    show 0 ≤ (s.replicas.getD defaultReplicas).val ↔ _
    cases s.replicas with
    | none => exact iff_of_true (by decide) fun ⟨r, h, _⟩ => nomatch h
    | some r => simp
  rw [Mode.parse_eq_ok, Backend.parse_eq_ok, hbackend, hreplicas, Refused, not_or, not_or]
  exact and_congr (orIfEmpty_or s.type _ _).symm
    (and_congr (orIfEmpty_or s.database.type _ _).symm Iff.rfl)

namespace Plan

variable {d : Declaration} {domain : String} {p : Plan}

theorem ofDeclaration_of_space (domain : String) {space : String}
    (h : d.metadata.space = some space) :
    ofDeclaration d domain = ((Mode.parse d.spec.type).mapError .fatal).bind fun mode =>
      ((Backend.parse d.spec.database.type).mapError .fatal).bind fun backend =>
        if hr : 0 ≤ (d.spec.replicas.getD defaultReplicas).val then
          .ok
            { declaration := d
              name := d.displayName
              space, mode, backend
              replicas := (d.spec.replicas.getD defaultReplicas).val.toNat
              replicas_le := by
                rw [Int.toNat_of_nonneg hr]
                exact (d.spec.replicas.getD defaultReplicas).property.2
              domain }
        else .error (.fatal (.negativeReplicas (d.spec.replicas.getD defaultReplicas))) := by
  unfold ofDeclaration
  rw [h]
  rfl

/-- What is known of the plan of a declaration. -/
theorem ofDeclaration_eq_ok (h : ofDeclaration d domain = .ok p) :
    p.declaration = d ∧ p.name = d.displayName ∧ d.metadata.space = some p.space ∧
      Mode.parse d.spec.type = .ok p.mode ∧ Backend.parse d.spec.database.type = .ok p.backend ∧
      (p.replicas : Int) = (d.spec.replicas.getD defaultReplicas).val ∧ p.domain = domain := by
  cases hspace : d.metadata.space with
  | none =>
    unfold ofDeclaration at h
    rw [hspace] at h
    cases h
  | some space =>
    rw [ofDeclaration_of_space domain hspace] at h
    obtain ⟨mode, hmode, h⟩ := bind_eq_ok.mp h
    obtain ⟨backend, hbackend, h⟩ := bind_eq_ok.mp h
    split at h
    · next hr =>
      cases h
      exact ⟨rfl, rfl, rfl, mapError_eq_ok.mp hmode, mapError_eq_ok.mp hbackend,
        Int.toNat_of_nonneg hr, rfl⟩
    · cases h

/-- A declaration in a namespace that is not refused has a plan once its defaults are filled in. -/
theorem exists_ofDeclaration (domain : String) {space : String}
    (hspace : d.metadata.space = some space) (h : ¬ d.spec.Refused) :
    ∃ p, ofDeclaration d.withDefaults domain = .ok p := by
  obtain ⟨⟨mode, hmode⟩, ⟨backend, hbackend⟩, hr⟩ := d.spec.not_refused_iff.mp h
  rw [ofDeclaration_of_space domain (d := d.withDefaults) hspace, Declaration.withDefaults, hmode,
    hbackend]
  exact ⟨_, dif_pos hr⟩

/-- A declaration in a namespace that is refused is at fault for a bad parameter. -/
theorem ofDeclaration_refused (domain : String) {space : String}
    (hspace : d.metadata.space = some space) (h : d.spec.Refused) :
    ∃ fault, ofDeclaration d.withDefaults domain = .error (.fatal fault) ∧
      fault.code = Fault.badParameter := by
  rw [ofDeclaration_of_space domain (d := d.withDefaults) hspace, Declaration.withDefaults]
  cases hmode : Mode.parse d.spec.withDefaults.type with
  | error fault => exact ⟨fault, rfl, Mode.code_of_parse hmode⟩
  | ok mode =>
    cases hbackend : Backend.parse d.spec.withDefaults.database.type with
    | error fault => exact ⟨fault, rfl, Backend.code_of_parse hbackend⟩
    | ok backend =>
      have hr : ¬ 0 ≤ (d.spec.withDefaults.replicas.getD defaultReplicas).val := fun hr =>
        d.spec.not_refused_iff.mpr ⟨⟨mode, hmode⟩, ⟨backend, hbackend⟩, hr⟩ h
      exact ⟨_, dif_neg hr, rfl⟩

/-! ### Keys -/

end Plan

theorem String.append_ne_self {s suffix : String} (h : suffix ≠ "") : s ++ suffix ≠ s := by
  intro heq
  have hlength := congrArg String.length heq
  rw [String.length_append] at hlength
  exact h (String.length_eq_zero_iff.mp (by omega))

/-- The keys under which the children of a deployment are stored. -/
def Key.IsChildOf (space name : String) (key : Key) : Prop :=
  key = ⟨.configMap, space, name⟩ ∨ key = ⟨.statefulSet, space, name⟩ ∨
    key = ⟨.service, space, name⟩ ∨ key = ⟨.service, space, name ++ "-headless"⟩

theorem Key.IsChildOf.kind_ne {space name : String} {key : Key} (h : key.IsChildOf space name) :
    key.kind ≠ .declaration ∧ key.kind ≠ .pod := by
  rcases h with rfl | rfl | rfl | rfl <;> exact ⟨nofun, nofun⟩

namespace Plan

theorem headlessName_ne (p : Plan) : p.headlessName ≠ p.name :=
  String.append_ne_self (by decide)

theorem children_standalone {p : Plan} (h : p.mode = .standalone) :
    p.children =
      [⟨.configMap, p.configMap⟩, ⟨.statefulSet, p.statefulSet⟩, ⟨.service, p.service⟩] := by
  unfold children
  rw [h]
  rfl

theorem children_cluster {p : Plan} (h : p.mode = .cluster) :
    p.children =
      [⟨.configMap, p.configMap⟩, ⟨.statefulSet, p.statefulSet⟩, ⟨.service, p.headlessService⟩,
        ⟨.service, p.service⟩] := by
  unfold children
  rw [h]
  rfl

/-- The children of a plan, one by one. -/
theorem mem_children {p : Plan} {child : (c : Child) × c.Object} (h : child ∈ p.children) :
    child = ⟨.configMap, p.configMap⟩ ∨ child = ⟨.statefulSet, p.statefulSet⟩ ∨
      child = ⟨.service, p.service⟩ ∨
        (p.mode = .cluster ∧ child = ⟨.service, p.headlessService⟩) := by
  cases hmode : p.mode with
  | standalone =>
    rw [children_standalone hmode] at h
    simp only [List.mem_cons, List.not_mem_nil, or_false] at h
    rcases h with h | h | h
    · exact .inl h
    · exact .inr (.inl h)
    · exact .inr (.inr (.inl h))
  | cluster =>
    rw [children_cluster hmode] at h
    simp only [List.mem_cons, List.not_mem_nil, or_false] at h
    rcases h with h | h | h | h
    · exact .inl h
    · exact .inr (.inl h)
    · exact .inr (.inr (.inr ⟨rfl, h⟩))
    · exact .inr (.inr (.inl h))

theorem childKey_isChildOf {p : Plan} {child : (c : Child) × c.Object} (h : child ∈ p.children) :
    (childKey p.space child).IsChildOf p.space p.name := by
  rcases mem_children h with rfl | rfl | rfl | ⟨-, rfl⟩
  · exact .inl rfl
  · exact .inr (.inl rfl)
  · exact .inr (.inr (.inl rfl))
  · exact .inr (.inr (.inr rfl))

/-- Children are stored under different keys. -/
theorem nodup_childKeys (p : Plan) : (p.children.map (childKey p.space)).Nodup := by
  cases hmode : p.mode with
  | standalone =>
    have hkeys : p.children.map (childKey p.space) =
        [⟨.configMap, p.space, p.name⟩, ⟨.statefulSet, p.space, p.name⟩,
          ⟨.service, p.space, p.name⟩] := by
      rw [children_standalone hmode]
      rfl
    simp [hkeys]
  | cluster =>
    have hkeys : p.children.map (childKey p.space) =
        [⟨.configMap, p.space, p.name⟩, ⟨.statefulSet, p.space, p.name⟩,
          ⟨.service, p.space, p.headlessName⟩, ⟨.service, p.space, p.name⟩] := by
      rw [children_cluster hmode]
      rfl
    simp [hkeys, p.headlessName_ne]

/-! ### Objects -/

end Plan

/-- A service has an address of its own exactly if it is for clients. -/
def Child.Fits (headless : Bool) : (c : Child) → c.Object → Prop
  | service, o => ∃ spec, Service.spec o = some spec ∧ spec.isHeadless = headless
  | configMap, _ => True
  | statefulSet, _ => True

namespace Plan

theorem fits_children {p : Plan} {child : (c : Child) × c.Object} (h : child ∈ p.children) :
    child.1.Fits (decide ((childKey p.space child).name = p.name ++ "-headless")) child.2 := by
  rcases mem_children h with rfl | rfl | rfl | ⟨-, rfl⟩
  · trivial
  · trivial
  · refine ⟨_, rfl, ?_⟩
    exact (decide_eq_false (Ne.symm p.headlessName_ne)).symm
  · refine ⟨_, rfl, ?_⟩
    exact (decide_eq_true rfl).symm

theorem proper_childMeta (p : Plan) (name : String) : Document.Proper (p.childMeta name) :=
  ObjectMeta.proper rfl

theorem mem_nonEmptyList {α : Type} {l l' : List α} (h : l' ∈ nonEmptyList l) : l' = l := by
  unfold nonEmptyList at h
  split at h
  · cases h
  · exact (Option.some.inj h).symm

theorem proper_claims (p : Plan) : Document.Proper p.claims := by
  refine Document.proper_list fun claim hclaim => ?_
  unfold claims at hclaim
  simp only at hclaim
  split at hclaim
  · cases List.mem_singleton.mp hclaim
    exact PersistentVolumeClaim.proper (ObjectMeta.proper rfl) rfl
  · cases hclaim

theorem proper_volumes (p : Plan) : Document.Proper p.volumes := by
  refine Document.proper_list fun volume hvolume => ?_
  unfold volumes at hvolume
  split at hvolume
  · cases List.mem_singleton.mp hvolume
    exact Volume.proper rfl
  · cases hvolume

theorem proper_podSpec (p : Plan) :
    Document.Proper
      ({ containers := [p.container], volumes := nonEmptyList p.volumes } : PodSpec) :=
  PodSpec.proper (Document.proper_list fun _ hc => List.mem_singleton.mp hc ▸ Container.proper rfl)
    (fun _ hvolumes => mem_nonEmptyList hvolumes ▸ p.proper_volumes) rfl

theorem proper_statefulSet (p : Plan) : Document.Proper p.statefulSet := by
  have hmeta : Document.Proper ({ labels := some p.labels } : ObjectMeta) := ObjectMeta.proper rfl
  have hclaims : ∀ claims, nonEmptyList p.claims = some claims → Document.Proper claims :=
    fun _ h => mem_nonEmptyList h ▸ p.proper_claims
  refine ⟨p.proper_childMeta _, ?_, Fields.proper_default _⟩
  unfold statefulSet
  refine Fields.proper_cons (Shape.proper_of_exact (Document.shape String) rfl) _ <|
    Fields.proper_cons (Shape.proper_of_exact (Document.shape Signed32) rfl) _ <|
    Fields.proper_cons (Shape.proper_of_exact (Document.shape LabelSelector) rfl) _ <|
    Fields.proper_cons (Shape.proper_of_exact (Document.shape String) rfl) _
      ⟨⟨hmeta, p.proper_podSpec, trivial⟩, ?_, Fields.proper_default _⟩
  cases h : nonEmptyList p.claims with
  | none => trivial
  | some claims => exact hclaims claims h

theorem proper_children {p : Plan} {child : (c : Child) × c.Object} (h : child ∈ p.children) :
    Document.Proper child.2 := by
  rcases mem_children h with rfl | rfl | rfl | ⟨-, rfl⟩
  · exact ConfigMap.proper (p.proper_childMeta _) rfl
  · exact p.proper_statefulSet
  · exact Service.proper (p.proper_childMeta _) rfl
  · exact Service.proper (p.proper_childMeta _) rfl

/-! ### Plans that agree -/

/-- Two plans ask for the same, but for the metadata and the status of their declarations. -/
structure Agrees (p q : Plan) : Prop where
  spec : p.declaration.spec = q.declaration.spec
  name : p.name = q.name
  space : p.space = q.space
  mode : p.mode = q.mode
  backend : p.backend = q.backend
  replicas : p.replicas = q.replicas
  domain : p.domain = q.domain

/-- Declarations of the same name, namespace and declared state have plans that agree. -/
theorem exists_agrees {d d' : Declaration} {domain : String} {p : Plan}
    (h : ofDeclaration d domain = .ok p)
    (hspec : d'.spec = d.spec) (hname : d'.displayName = d.displayName)
    (hspace : d'.metadata.space = d.metadata.space) :
    ∃ q, ofDeclaration d' domain = .ok q ∧ p.Agrees q := by
  obtain ⟨hdeclaration, hpname, hpspace, hmode, hbackend, hreplicas, hdomain⟩ :=
    ofDeclaration_eq_ok h
  have hr : 0 ≤ (d'.spec.replicas.getD defaultReplicas).val := by
    rw [hspec, ← hreplicas]
    exact Int.natCast_nonneg _
  have hplan := ofDeclaration_of_space domain (d := d') (hspace.trans hpspace)
  rw [hspec, hmode, hbackend, ← hspec] at hplan
  refine ⟨_, hplan.trans (dif_pos hr), ?_⟩
  have hnat : p.replicas = (d'.spec.replicas.getD defaultReplicas).val.toNat := by
    rw [hspec, ← hreplicas, Int.toNat_natCast]
  exact ⟨hdeclaration ▸ hspec.symm, hpname.trans hname.symm, rfl, rfl, rfl, hnat, hdomain⟩

/-- What is compared of the children of plans that agree is the same. -/
theorem alike_children {p q : Plan} (h : p.Agrees q) {child : (c : Child) × c.Object}
    (hchild : child ∈ q.children) :
    ∃ want : child.1.Object, ⟨child.1, want⟩ ∈ p.children ∧ child.1.Alike want child.2 ∧
      childKey p.space ⟨child.1, want⟩ = childKey q.space child := by
  obtain ⟨⟨metadata, spec, status⟩, name, space, mode, backend, replicas, hle, domain⟩ := p
  obtain ⟨⟨metadata', spec', status'⟩, name', space', mode', backend', replicas', hle',
    domain'⟩ := q
  obtain ⟨hspec, hname, hspace, hmode, hbackend, hreplicas, hdomain⟩ := h
  simp only at hspec hname hspace hmode hbackend hreplicas hdomain
  subst hspec hname hspace hmode hbackend hreplicas hdomain
  have hmem := mem_children hchild
  cases mode with
  | standalone =>
    rw [children_standalone rfl]
    rcases hmem with rfl | rfl | rfl | ⟨hmode, -⟩
    · exact ⟨_, List.mem_cons_self, rfl, rfl⟩
    · exact ⟨_, List.mem_cons_of_mem _ List.mem_cons_self, ⟨rfl, rfl⟩, rfl⟩
    · exact ⟨_, List.mem_cons_of_mem _ (List.mem_cons_of_mem _ List.mem_cons_self), rfl, rfl⟩
    · cases hmode
  | cluster =>
    rw [children_cluster rfl]
    rcases hmem with rfl | rfl | rfl | ⟨-, rfl⟩
    · exact ⟨_, List.mem_cons_self, rfl, rfl⟩
    · exact ⟨_, List.mem_cons_of_mem _ List.mem_cons_self, ⟨rfl, rfl⟩, rfl⟩
    · exact ⟨_, List.mem_cons_of_mem _ (List.mem_cons_of_mem _ (List.mem_cons_of_mem _
        List.mem_cons_self)), rfl, rfl⟩
    · exact ⟨_, List.mem_cons_of_mem _ (List.mem_cons_of_mem _ List.mem_cons_self), rfl, rfl⟩

end Plan

end ClusterOperator
