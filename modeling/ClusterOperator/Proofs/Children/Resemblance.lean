import ClusterOperator.Proofs.Children.Plans

/-!
# Children that were not written again

A stored child that has not drifted need not be what would be written now. It was written for an
earlier plan, and drift only asks whether what the new plan states also stands in it. Where the
operator writes everything itself this comes to equality: in the texts of the configuration, the
number of replicas, the image, the volumes and mounts, and the services. Amounts are the same up to
their spelling. Of the variables and probes, which are declared by a user, only what the new plan
states is the same.

## Main definitions

* `Kubernetes.Container.Resembles`, `Kubernetes.StatefulSet.Resembles`, `Child.Resembles`: what a
  stored child and a fresh one have in common.

## Main results

* `Drift.names_of_sameFields`: variables that are covered have the same names.
* `Plan.mounts_eq_of_sameFields`, `Plan.volumes_eq_of_length`: where covering is equality.
* `Plan.resembles_of_not_drifted`: a child that has not drifted resembles a fresh one.
-/

namespace ClusterOperator

open Kubernetes
open Document (reread reread_of_exact)

/-! ### Lists that are covered -/

namespace Drift

variable {α : Type} [Document α]

theorem length_of_coversItems {want live : List Json} (h : coversItems want live = true) :
    want.length = live.length := by
  induction want generalizing live with
  | nil =>
    cases live with
    | nil => rfl
    | cons j rest => cases h
  | cons w rest ih =>
    cases live with
    | nil => cases h
    | cons l others =>
      rw [coversItems, Bool.and_eq_true] at h
      exact congrArg (· + 1) (ih h.2)

/-- Lists that cover each other have the same length. -/
theorem length_of_sameFields {want live : List α} (h : sameFields want live = true) :
    want.length = live.length := by
  have hitems : coversItems ((want.map Document.toVal).map (Document.shape α).write)
      ((live.map Document.toVal).map (Document.shape α).write) = true := h
  have hlength := length_of_coversItems hitems
  rwa [List.length_map, List.length_map, List.length_map, List.length_map] at hlength

/-- Variables that are covered have the same names in the same order. -/
theorem names_of_sameFields {want live : List EnvVar} (h : sameFields want live = true) :
    want.map (·.name) = live.map (·.name) := by
  have hitems : coversItems ((want.map Document.toVal).map (Document.shape EnvVar).write)
      ((live.map Document.toVal).map (Document.shape EnvVar).write) = true := h
  clear h
  induction want generalizing live with
  | nil =>
    cases live with
    | nil => rfl
    | cons l others => cases hitems
  | cons w rest ih =>
    cases live with
    | nil => cases hitems
    | cons l others =>
      rw [List.map_cons, List.map_cons, List.map_cons, List.map_cons, coversItems,
        Bool.and_eq_true] at hitems
      -- The name is the first member of the document of a variable.
      have hname : (w.name == l.name) = true := (Bool.and_eq_true _ _).mp hitems.1 |>.1
      rw [List.map_cons, List.map_cons, ih hitems.2, eq_of_beq hname]

end Drift

/-! ### What a stored child has in common with a fresh one -/

/-- What a stored container and a fresh one have in common. -/
structure Kubernetes.Container.Resembles (stored fresh : Container) : Prop where
  image : stored.image = fresh.image
  volumeMounts : stored.volumeMounts = fresh.volumeMounts
  limits : Drift.sameQuantities (fresh.resources.getD {}).limits
    (stored.resources.getD {}).limits = true
  requests : Drift.sameQuantities (fresh.resources.getD {}).requests
    (stored.resources.getD {}).requests = true
  envNames : (stored.env.getD []).map (·.name) = (fresh.env.getD []).map (·.name)
  env : Drift.sameFields (fresh.env.getD []) (stored.env.getD []) = true
  livenessProbe : Drift.sameProbe fresh.livenessProbe stored.livenessProbe = true
  readinessProbe : Drift.sameProbe fresh.readinessProbe stored.readinessProbe = true

/-- What a stored stateful set and a fresh one have in common. -/
structure Kubernetes.StatefulSet.Resembles (stored fresh : StatefulSet) : Prop where
  replicas : stored.replicas? = fresh.replicas?
  volumes : stored.volumes = fresh.volumes
  container : ∃ c f, stored.container? = some c ∧ fresh.container? = some f ∧ c.Resembles f

/-- What a stored child and a fresh one have in common. -/
def Child.Resembles : (c : Child) → (stored fresh : c.Object) → Prop
  | configMap, stored, fresh => ConfigMap.data stored = ConfigMap.data fresh
  | statefulSet, stored, fresh => StatefulSet.Resembles stored fresh
  | service, stored, fresh => Service.spec stored = Service.spec fresh

namespace Plan

variable {p q : Plan}

/-! ### Where covering is equality -/

/-- The mounts of a server whose data is kept or not, and which has a configuration or not. -/
def mountsFor (data config : Bool) : List VolumeMount :=
  (if data then [{ name := dataVolume, mountPath := "/home/nacos/data" }] else []) ++
  (if config then
    [{ name := configVolume, mountPath := "/home/nacos/init.d/custom.properties",
       subPath := some customKey }] else [])

theorem mounts_eq (p : Plan) :
    p.mounts = mountsFor p.declaration.spec.volume.enabled p.config?.isSome := rfl

theorem mountsFor_injective : ∀ data config data' config' : Bool,
    Drift.sameFields (mountsFor data config) (mountsFor data' config') = true →
      data = data' ∧ config = config' := by
  decide

/-- Mounts of plans that cover each other are equal. -/
theorem mounts_eq_of_sameFields (h : Drift.sameFields p.mounts q.mounts = true) :
    p.mounts = q.mounts := by
  rw [mounts_eq, mounts_eq] at h ⊢
  obtain ⟨hdata, hconfig⟩ := mountsFor_injective _ _ _ _ h
  rw [hdata, hconfig]

/-- Volumes of plans of one name that are as many are equal. -/
theorem volumes_eq_of_length (name : p.name = q.name) (h : p.volumes.length = q.volumes.length) :
    p.volumes = q.volumes := by
  unfold volumes at h ⊢
  cases hp : p.config?.isSome with
  | false =>
    cases hq : q.config?.isSome with
    | false => rfl
    | true =>
      rw [hp, hq] at h
      cases h
  | true =>
    cases hq : q.config?.isSome with
    | false =>
      rw [hp, hq] at h
      cases h
    | true => rw [name]

theorem getD_nonEmptyList {α : Type} (l : List α) : (nonEmptyList l).getD [] = l := by
  unfold nonEmptyList
  cases l <;> rfl

theorem volumes_statefulSet (p : Plan) : p.statefulSet.volumes = p.volumes :=
  getD_nonEmptyList p.volumes

/-! ### Children that have not drifted -/

/-- A container of an earlier plan from which the new one has not drifted. -/
theorem container_resembles
    (h : Drift.containerDrifted p.container (reread q.container) = false) :
    (reread q.container).Resembles (reread p.container) := by
  rw [Drift.containerDrifted_reread] at h
  unfold Drift.containerDrifted at h
  simp only [Bool.or_eq_false_iff, Bool.not_eq_false', bne_eq_false_iff_eq] at h
  obtain ⟨⟨⟨⟨⟨himage, hresources⟩, henv⟩, hmounts⟩, hliveness⟩, hreadiness⟩ := h
  obtain ⟨hlimits, hrequests⟩ := (Bool.and_eq_true _ _).mp hresources
  have hmounts : p.mounts = q.mounts := by
    refine mounts_eq_of_sameFields ?_
    rwa [← getD_nonEmptyList p.mounts, ← getD_nonEmptyList q.mounts]
  rw [Container.reread_eq, Container.reread_eq]
  exact ⟨himage.symm, (congrArg nonEmptyList hmounts).symm, hlimits, hrequests,
    (Drift.names_of_sameFields henv).symm, henv, hliveness, hreadiness⟩

/-- The server of a workload that has the pods of a plan. -/
theorem container?_of_alike {s : StatefulSet}
    (h : s.podSpec? = StatefulSet.podSpec? (reread p.statefulSet)) :
    s.container? = some (reread p.container) := by
  rw [StatefulSet.container?, h]
  exact StatefulSet.container?_reread p.statefulSet

theorem volumes_of_alike {s : StatefulSet}
    (h : s.podSpec? = StatefulSet.podSpec? (reread p.statefulSet)) :
    s.volumes = reread p.volumes := by
  rw [← volumes_statefulSet, ← StatefulSet.volumes_reread, StatefulSet.volumes, h]
  rfl

/-- The workload of a plan, as it was stored and not written again. -/
theorem statefulSet_resembles (name : p.name = q.name) {stored fresh : StatefulSet}
    (hstored : Child.statefulSet.Alike stored (reread q.statefulSet))
    (hfresh : Child.statefulSet.Alike fresh (reread p.statefulSet))
    (settled : StatefulSet.drifted p.statefulSet stored = false) : stored.Resembles fresh := by
  obtain ⟨-, hstored⟩ := hstored
  obtain ⟨hreplicas, hfresh⟩ := hfresh
  have hcount := StatefulSet.replicas?_of_not_drifted settled
  unfold StatefulSet.drifted at settled
  rw [container?_of_alike hstored, volumes_of_alike hstored, volumes_statefulSet] at settled
  simp only [Bool.or_eq_false_iff, Bool.not_eq_false'] at settled
  obtain ⟨⟨-, hcovered⟩, hdrifted⟩ := settled
  have hsame : p.volumes = q.volumes := by
    refine volumes_eq_of_length name ((Drift.length_of_sameFields hcovered).trans ?_)
    exact (List.length_map _).trans ((List.length_map _).trans (List.length_map _))
  constructor
  · exact (hcount.trans (StatefulSet.replicas?_reread p.statefulSet).symm).trans hreplicas.symm
  · rw [volumes_of_alike hstored, volumes_of_alike hfresh, hsame]
  · exact ⟨_, _, container?_of_alike hstored, container?_of_alike hfresh,
      container_resembles hdrifted⟩

/-- Services of plans of one name under one key are the same. -/
theorem service_spec_eq (name : p.name = q.name) {a b : Service}
    (ha : (⟨.service, a⟩ : (c : Child) × c.Object) ∈ p.children)
    (hb : (⟨.service, b⟩ : (c : Child) × c.Object) ∈ q.children)
    (same : a.metadata.displayName = b.metadata.displayName) : a.spec = b.spec := by
  have hspec : p.service.spec = q.service.spec ∧
      p.headlessService.spec = q.headlessService.spec := by
    simp only [service, headlessService, selectorLabels, name, and_self]
  have hq : q.headlessName ≠ p.name := name ▸ q.headlessName_ne
  have hp : p.headlessName ≠ q.name := name ▸ p.headlessName_ne
  rcases mem_children ha with h | h | h | ⟨-, h⟩
  · cases h
  · cases h
  · cases h
    rcases mem_children hb with h | h | h | ⟨-, h⟩
    · cases h
    · cases h
    · cases h
      exact hspec.1
    · cases h
      exact absurd same.symm hq
  · cases h
    rcases mem_children hb with h | h | h | ⟨-, h⟩
    · cases h
    · cases h
    · cases h
      exact absurd same hp
    · cases h
      exact hspec.2

/-- A stored child that is alike one of an earlier plan under its key, and has not drifted from the
one of the new plan, resembles a fresh one. -/
theorem resembles_of_not_drifted (name : p.name = q.name) {c : Child} {want old : c.Object}
    (hwant : (⟨c, want⟩ : (c : Child) × c.Object) ∈ p.children)
    (hold : (⟨c, old⟩ : (c : Child) × c.Object) ∈ q.children)
    (same : (c.kind.metadata want).displayName = (c.kind.metadata old).displayName)
    {stored fresh : c.Object} (hstored : c.Alike stored (reread old))
    (hfresh : c.Alike fresh (reread want)) (settled : c.drifted want stored = false) :
    c.Resembles stored fresh := by
  cases c with
  | configMap =>
    obtain rfl : want = p.configMap := by
      rcases mem_children hwant with h | h | h | ⟨-, h⟩ <;> cases h
      rfl
    obtain rfl : old = q.configMap := by
      rcases mem_children hold with h | h | h | ⟨-, h⟩ <;> cases h
      rfl
    have hstored : ConfigMap.data stored = some q.configData :=
      Eq.trans hstored (ConfigMap.data_reread q.configMap)
    have hfresh : ConfigMap.data fresh = some p.configData :=
      Eq.trans hfresh (ConfigMap.data_reread p.configMap)
    have hsame : p.configData = (ConfigMap.data stored).getD ∅ :=
      Classical.not_not.mp (of_decide_eq_false settled)
    rw [hstored] at hsame
    exact hstored.trans ((congrArg some hsame.symm).trans hfresh.symm)
  | statefulSet =>
    obtain rfl : want = p.statefulSet := by
      rcases mem_children hwant with h | h | h | ⟨-, h⟩ <;> cases h
      rfl
    obtain rfl : old = q.statefulSet := by
      rcases mem_children hold with h | h | h | ⟨-, h⟩ <;> cases h
      rfl
    exact statefulSet_resembles name hstored hfresh settled
  | service =>
    have hspec := service_spec_eq name hwant hold same
    have hstored : Service.spec stored = Service.spec old :=
      Eq.trans hstored (Service.spec_reread old)
    have hfresh : Service.spec fresh = Service.spec want :=
      Eq.trans hfresh (Service.spec_reread want)
    exact hstored.trans (hspec.symm.trans hfresh.symm)

end Plan

end ClusterOperator
