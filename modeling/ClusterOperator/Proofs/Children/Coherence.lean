import ClusterOperator.Apply
import ClusterOperator.Proofs.Children.Resemblance
import ClusterOperator.Proofs.SortedMaps

/-!
# Children that fit together

The children of a plan refer to each other by names, labels and ports. The workload and its services
select the same pods, by labels that these pods carry whatever else is declared; the service that
governs the workload is one of its own; what the servers mount is a volume or comes from a claim;
and a declared configuration is found in the configuration map. All of them belong to the
declaration.

What a workload can mount depends on two plans once it has been updated: volumes and mounts are of
the plan that was written last, and claims are of the plan for which it was created.

## Main definitions

* `Kubernetes.StatefulSet.SelfContained`: what a workload mounts is there.
* `Kubernetes.ObjectMeta.BelongsTo`: an object is owned by a declaration, in its namespace.
* `Coherent`: a configuration, a workload and services fit together.

## Main results

* `Plan.selfContained_iff`: when the mounts of one plan are backed by the claims of another.
* `Plan.ofDeclaration_coherent`: the children of a plan fit together.
-/

namespace ClusterOperator

open Kubernetes

/-! ### What objects refer to -/

namespace Kubernetes

namespace StatefulSet

variable (s : StatefulSet)

/-- The containers of the pods. -/
def containers : List Container := (s.podSpec?.map (·.containers)).getD []

/-- Where the containers of the pods see which volume. -/
def mounts : List VolumeMount := s.containers.flatMap fun c => c.volumeMounts.getD []

/-- The claims by which every pod gets storage of its own. -/
def claims : List PersistentVolumeClaim := (s.spec.bind (·.volumeClaimTemplates)).getD []

/-- The names of the volumes of a pod, those that come from claims included. -/
def volumeNames : List String := s.volumes.map (·.name) ++ s.claims.filterMap (·.metadata.name)

/-- Whatever a container mounts is a volume of its pod or comes from a claim. -/
def SelfContained : Prop := ∀ m ∈ s.mounts, m.name ∈ s.volumeNames

instance : Decidable s.SelfContained :=
  inferInstanceAs (Decidable (∀ m ∈ s.mounts, m.name ∈ s.volumeNames))

/-- By what the pods are selected. -/
def selector? : Option LabelSelector := s.spec.map (·.selector)

/-- The labels of the pods. -/
def podLabels : Dict String :=
  ((s.spec.bind (·.template.metadata)).bind (·.labels)).getD ∅

/-- The name of the service under which the pods have names of their own. -/
def governor? : Option String := s.spec.map (·.serviceName)

/-- The ports on which the containers listen. -/
def listening : List Signed32 :=
  s.containers.flatMap fun c => (c.ports.getD []).map (·.containerPort)

end StatefulSet

namespace Service

variable (s : Service)

/-- By what the pods are selected. -/
def selector? : Option (Dict String) := s.spec.bind (·.selector)

/-- The ports of the pods to which the service leads. -/
def targets : List (Option (Signed32 ⊕ String)) :=
  ((s.spec.bind (·.ports)).getD []).map (·.targetPort)

/-- The service has no address, and leads to pods that are not ready as well. -/
def LeadsToPeers : Prop :=
  ∃ spec, s.spec = some spec ∧ spec.isHeadless = true ∧ spec.publishesNotReady = true

end Service

/-- An object lies in the namespace of a declaration and is controlled by it, if it has a name and a
unique identifier by which it can be referred to. What a command-line client keeps in annotations is
not handed down. -/
structure ObjectMeta.BelongsTo (d : Declaration) (m : ObjectMeta) : Prop where
  space : m.space = d.metadata.space
  owned : ∀ name uid, d.metadata.name = some name → d.metadata.uid = some uid →
    m.ownerReferences = some
      [{ apiVersion := Declaration.apiVersion, controller := some true, kind := Declaration.kind,
         name, uid }]
  unowned : d.metadata.name = none ∨ d.metadata.uid = none → m.ownerReferences = none
  annotations : (m.annotations.getD ∅).get? Plan.lastApplied = none

end Kubernetes

/-- A configuration, a workload and services fit together, and belong to a declaration; the servers
know each other by the addresses of a plan. -/
structure Coherent (d : Declaration) (p : Plan) (config : ConfigMap) (workload : StatefulSet)
    (services : List Service) : Prop where
  /-- The workload and the services select by the same labels, and the pods carry them. -/
  selectors : ∃ labels, workload.selector? = some { matchLabels := some labels } ∧
    (∀ s ∈ services, s.selector? = some labels) ∧
      ∀ key value, labels.get? key = some value → workload.podLabels.get? key = some value
  /-- Only one service has the name by which the workload is governed. The peers of a cluster find
  each other under that service, whose name and namespace stand in their addresses. -/
  governor : ∃ s ∈ services, s.metadata.name = workload.governor? ∧
    (∀ t ∈ services, t.metadata.name = s.metadata.name → t = s) ∧
      (d.spec.type = Mode.cluster.name → s.LeadsToPeers ∧
        ∃ name space, s.metadata.name = some name ∧ s.metadata.space = some space ∧
          ∀ peer ∈ p.peers, ∃ ordinal < p.replicas,
            peer = p.name ++ "-" ++ ordinal.repr ++ "." ++ (name ++ "." ++ space ++ ".svc." ++
              p.domain) ++ ":8848")
  /-- What is mounted is there. -/
  backed : workload.SelfContained
  /-- Nothing is mounted twice, and nothing in the place of something else. -/
  mountNames : (workload.mounts.map (·.name)).Nodup
  mountPaths : (workload.mounts.map (·.mountPath)).Nodup
  /-- There is a volume for the configuration if one is declared. -/
  configured : (∃ v ∈ workload.volumes, v.name = Plan.configVolume) ↔
    ∃ text, d.spec.config = some text ∧ text ≠ ""
  /-- This volume shows the text that the configuration map holds. -/
  source : ∀ v ∈ workload.volumes, v.name = Plan.configVolume → ∃ source item text,
    v.configMap = some source ∧ config.metadata.name = some source.name ∧
      source.items = some [item] ∧ d.spec.config = some text ∧
        (config.data.getD ∅).get? item.key = some text
  /-- Services lead to ports on which the servers listen. -/
  targets : ∀ s ∈ services, ∀ target ∈ s.targets, ∃ port ∈ workload.listening,
    target = some (.inl port)
  /-- All of them belong to the declaration. -/
  belongs : ∀ m ∈ config.metadata :: workload.metadata :: services.map (·.metadata), m.BelongsTo d

namespace Plan

variable {d : Declaration} {domain : String} {p q : Plan}

/-! ### Labels, names and owners -/

/-- The pods carry the labels by which they are selected, whatever labels are declared. -/
theorem get?_labels_of_selected {key value : String}
    (h : p.selectorLabels.get? key = some value) : p.labels.get? key = some value := by
  rw [labels, SortedMap.get?_union, h]
  rfl

theorem getD_nonEmptyMap (m : Dict String) : (nonEmptyMap m).getD ∅ = m := by
  unfold nonEmptyMap
  by_cases hempty : m.isEmpty = true
  · rw [if_pos hempty]
    exact (SortedMap.ext (List.isEmpty_iff.mp hempty)).symm
  · rw [if_neg hempty]
    rfl

/-- A child belongs to the declaration of its plan. -/
theorem belongsTo_childMeta (h : ofDeclaration d domain = .ok p) (name : String) :
    (p.childMeta name).BelongsTo d := by
  obtain ⟨rfl, -, hspace, -⟩ := ofDeclaration_eq_ok h
  constructor
  · exact hspace.symm
  · intro owner uid howner huid
    simp only [childMeta, Declaration.controllerReference?, howner, huid]
    rfl
  · intro hnone
    have hreference : p.declaration.controllerReference? = none := by
      unfold Declaration.controllerReference?
      rcases hnone with hname | huid
      · rw [hname]
        rfl
      · rw [huid]
        cases p.declaration.metadata.name <;> rfl
    simp only [childMeta, hreference, Option.map_none]
  · rw [childMeta, getD_nonEmptyMap, SortedMap.get?_erase_self]

/-! ### What servers mount -/

/-- Whether the data of the servers outlives them. -/
def keepsData (p : Plan) : Bool := p.declaration.spec.volume.enabled

theorem containers_statefulSet (p : Plan) : p.statefulSet.containers = [p.container] := rfl

theorem mounts_statefulSet (p : Plan) : p.statefulSet.mounts = p.mounts := by
  rw [StatefulSet.mounts, containers_statefulSet, List.flatMap_singleton]
  exact getD_nonEmptyList p.mounts

theorem claims_statefulSet (p : Plan) : p.statefulSet.claims = p.claims :=
  getD_nonEmptyList p.claims

theorem names_claims (p : Plan) :
    p.claims.filterMap (·.metadata.name) = if p.keepsData then [dataVolume] else [] := by
  by_cases h : p.declaration.spec.volume.enabled = true <;> simp [claims, keepsData, h]

theorem names_volumes (p : Plan) :
    p.volumes.map (·.name) = if p.config?.isSome then [configVolume] else [] := by
  unfold volumes
  cases p.config?.isSome <;> rfl

theorem names_mounts (p : Plan) :
    p.mounts.map (·.name) =
      (if p.keepsData then [dataVolume] else []) ++
        (if p.config?.isSome then [configVolume] else []) := by
  unfold mounts keepsData
  cases p.declaration.spec.volume.enabled <;> cases p.config?.isSome <;> rfl

/-- What a workload mounts is there if it has the mounts and the volumes of a plan and the claims of
another one, unless only the mounts are for data that outlives the servers. -/
theorem selfContained_iff {s : StatefulSet}
    (mounts : s.mounts.map (·.name) = p.mounts.map (·.name))
    (volumes : s.volumes.map (·.name) = p.volumes.map (·.name))
    (claims : s.claims.filterMap (·.metadata.name) = q.claims.filterMap (·.metadata.name)) :
    s.SelfContained ↔ (p.keepsData = true → q.keepsData = true) := by
  have hnames : s.SelfContained ↔ ∀ name ∈ s.mounts.map (·.name), name ∈ s.volumeNames :=
    List.forall_mem_map.symm
  rw [hnames, StatefulSet.volumeNames, mounts, volumes, claims, names_mounts, names_volumes,
    names_claims]
  -- Left are the choices that the two plans can make.
  cases p.keepsData <;> cases q.keepsData <;> cases p.config?.isSome <;> decide

theorem nodup_mountNames (p : Plan) : (p.mounts.map (·.name)).Nodup := by
  rw [names_mounts]
  cases p.keepsData <;> cases p.config?.isSome <;> decide

theorem nodup_mountPaths (p : Plan) : (p.mounts.map (·.mountPath)).Nodup := by
  rw [mounts_eq]
  cases p.declaration.spec.volume.enabled <;> cases p.config?.isSome <;> decide

/-! ### The declared configuration -/

theorem config?_eq_some {text : String} :
    p.config? = some text ↔ p.declaration.spec.config = some text ∧ text ≠ "" := by
  rw [config?, Option.filter_eq_some_iff, Bool.not_eq_true', ← Bool.not_eq_true, String.isEmpty_iff]

/-- A declared configuration is held by the configuration map, in a cluster beside the peers. -/
theorem get?_configData {text : String} (h : p.config? = some text) :
    p.configData.get? customKey = some text := by
  unfold configData
  rw [h]
  cases p.mode with
  | standalone => exact SortedMap.get?_insert_self _ _ _
  | cluster =>
    refine (SortedMap.get?_insert_of_ne _ _ ?_).trans (SortedMap.get?_insert_self _ _ _)
    decide

theorem mem_volumes {v : Volume} :
    v ∈ p.volumes ↔ p.config?.isSome = true ∧ v =
      { name := configVolume
        configMap := some
          { name := p.name, items := some [{ key := customKey, path := customKey }] } } := by
  unfold volumes
  cases p.config?.isSome <;> simp

/-! ### Services -/

/-- The services of a plan. -/
def services (p : Plan) : List Service :=
  match p.mode with
  | .standalone => [p.service]
  | .cluster => [p.headlessService, p.service]

theorem children_eq (p : Plan) :
    p.children = ⟨.configMap, p.configMap⟩ :: ⟨.statefulSet, p.statefulSet⟩ ::
      p.services.map (Sigma.mk Child.service) := by
  unfold children services
  cases p.mode <;> rfl

theorem mem_services {s : Service} (h : s ∈ p.services) :
    s = p.service ∨ (p.mode = .cluster ∧ s = p.headlessService) := by
  unfold services at h
  cases hmode : p.mode with
  | standalone =>
    rw [hmode] at h
    exact .inl (List.mem_singleton.mp h)
  | cluster =>
    rw [hmode] at h
    rcases List.mem_cons.mp h with rfl | h
    · exact .inr ⟨rfl, rfl⟩
    · exact .inl (List.mem_singleton.mp h)

/-- The service that governs the workload. -/
def governor (p : Plan) : Service :=
  match p.mode with
  | .standalone => p.service
  | .cluster => p.headlessService

theorem governor_mem (p : Plan) : p.governor ∈ p.services := by
  unfold governor services
  cases p.mode <;> exact List.mem_cons_self

theorem name_governor (p : Plan) : p.governor.metadata.name = some p.governingService := by
  unfold governor governingService
  cases p.mode <;> rfl

/-- No other service has the name of the one that governs the workload. -/
theorem eq_governor {s : Service} (h : s ∈ p.services)
    (name : s.metadata.name = p.governor.metadata.name) : s = p.governor := by
  cases hmode : p.mode with
  | standalone =>
    have hgovernor : p.governor = p.service := by simp only [governor, hmode]
    rcases mem_services h with rfl | ⟨hcluster, -⟩
    · exact hgovernor.symm
    · cases hmode.symm.trans hcluster
  | cluster =>
    have hgovernor : p.governor = p.headlessService := by simp only [governor, hmode]
    rcases mem_services h with rfl | ⟨-, rfl⟩
    · rw [hgovernor] at name
      exact absurd (Option.some.inj name).symm p.headlessName_ne
    · exact hgovernor.symm

theorem peer_eq (p : Plan) (ordinal : Nat) :
    p.peer ordinal = p.name ++ "-" ++ ordinal.repr ++ "." ++
      (p.headlessName ++ "." ++ p.space ++ ".svc." ++ p.domain) ++ ":8848" :=
  String.append_assoc

theorem exists_of_mem_peers {peer : String} (h : peer ∈ p.peers) :
    ∃ ordinal < p.replicas, peer = p.peer ordinal := by
  obtain ⟨ordinal, hordinal, rfl⟩ := List.mem_map.mp h
  exact ⟨ordinal, List.mem_range.mp hordinal, rfl⟩

theorem targets_services {s : Service} (h : s ∈ p.services) :
    ∀ target ∈ s.targets, ∃ port ∈ p.statefulSet.listening, target = some (.inl port) := by
  have htargets : s.targets = p.statefulSet.listening.map fun port => some (.inl port) := by
    rcases mem_services h with rfl | ⟨-, rfl⟩ <;> rfl
  intro target htarget
  rw [htargets] at htarget
  obtain ⟨port, hport, rfl⟩ := List.mem_map.mp htarget
  exact ⟨port, hport, rfl⟩

theorem mode_of_type {m : Mode} (h : ofDeclaration d domain = .ok p) (type : d.spec.type = m.name) :
    p.mode = m := by
  obtain ⟨-, -, -, hmode, -⟩ := ofDeclaration_eq_ok h
  rw [type, Mode.parse_name] at hmode
  exact (Except.ok.inj hmode).symm

/-! ### All children -/

/-- The children of a plan, which are those that are applied for its declaration, fit together. -/
theorem ofDeclaration_coherent (h : ofDeclaration d domain = .ok p) :
    ensure domain d = applyAll p.space p.children ∧ d.metadata.space = some p.space ∧
      ∃ config workload services,
        p.children = ⟨.configMap, config⟩ :: ⟨.statefulSet, workload⟩ ::
          services.map (Sigma.mk Child.service) ∧
        Coherent d p config workload services := by
  obtain ⟨hdeclaration, -, hspace, -⟩ := ofDeclaration_eq_ok h
  refine ⟨by rw [ensure, h]; rfl, hspace, p.configMap, p.statefulSet, p.services, p.children_eq, ?_⟩
  constructor
  case selectors =>
    refine ⟨p.selectorLabels, rfl, fun s hs => ?_, fun _ _ => get?_labels_of_selected⟩
    rcases mem_services hs with rfl | ⟨-, rfl⟩ <;> rfl
  case governor =>
    refine ⟨p.governor, p.governor_mem, p.name_governor, fun _ => eq_governor, fun htype => ?_⟩
    have hgovernor : p.governor = p.headlessService := by
      simp only [governor, mode_of_type h htype]
    rw [hgovernor]
    refine ⟨⟨_, rfl, rfl, rfl⟩, p.headlessName, p.space, rfl, rfl, fun peer hpeer => ?_⟩
    obtain ⟨ordinal, hordinal, rfl⟩ := exists_of_mem_peers hpeer
    exact ⟨ordinal, hordinal, p.peer_eq ordinal⟩
  case backed =>
    refine (selfContained_iff (p := p) (q := p) ?_ ?_ ?_).mpr id
    · rw [mounts_statefulSet]
    · rw [volumes_statefulSet]
    · rw [claims_statefulSet]
  case mountNames => exact p.mounts_statefulSet.symm ▸ p.nodup_mountNames
  case mountPaths => exact p.mounts_statefulSet.symm ▸ p.nodup_mountPaths
  case configured =>
    rw [volumes_statefulSet, ← hdeclaration]
    constructor
    · rintro ⟨v, hv, -⟩
      obtain ⟨text, htext⟩ := Option.isSome_iff_exists.mp (mem_volumes.mp hv).1
      exact ⟨text, config?_eq_some.mp htext⟩
    · rintro ⟨text, htext⟩
      exact ⟨_, mem_volumes.mpr ⟨Option.isSome_iff_exists.mpr ⟨text, config?_eq_some.mpr htext⟩,
        rfl⟩, rfl⟩
  case source =>
    intro v hv _
    obtain ⟨hconfig, rfl⟩ := mem_volumes.mp (p.volumes_statefulSet ▸ hv)
    obtain ⟨text, htext⟩ := Option.isSome_iff_exists.mp hconfig
    exact ⟨_, _, text, rfl, rfl, rfl, hdeclaration ▸ (config?_eq_some.mp htext).1,
      get?_configData htext⟩
  case targets => exact fun s => targets_services
  case belongs =>
    intro m hm
    rcases List.mem_cons.mp hm with rfl | hm
    · exact belongsTo_childMeta h _
    rcases List.mem_cons.mp hm with rfl | hm
    · exact belongsTo_childMeta h _
    · obtain ⟨s, hs, rfl⟩ := List.mem_map.mp hm
      rcases mem_services hs with rfl | ⟨-, rfl⟩ <;> exact belongsTo_childMeta h _

end Plan

/-- A cluster with a configuration and with storage, whose own labels and annotations are those that
children carry or must not carry. -/
def Declaration.labelledSample : Declaration where
  metadata :=
    { name := some "nc"
      space := some "default"
      uid := some "u-nc"
      labels := some (SortedMap.ofList
        [("app", "other"), ("component", "other"), ("middleware", "other"), ("team", "a")])
      annotations := some (SortedMap.ofList [(Plan.lastApplied, "before"), ("team", "a")]) }
  spec :=
    { type := "cluster"
      image := "nacos/nacos-server:v2"
      database := { type := "embedded" }
      config := some "server.port=8848"
      volume := { enabled := true } }

open Declaration in
theorem labelledSample_coherent : ∃ p, Plan.ofDeclaration labelledSample "cluster.local" = .ok p ∧
    ∃ config workload services,
      p.children = ⟨.configMap, config⟩ :: ⟨.statefulSet, workload⟩ ::
        services.map (Sigma.mk Child.service) ∧
      Coherent labelledSample p config workload services :=
  ⟨_, rfl, (Plan.ofDeclaration_coherent rfl).2.2⟩

end ClusterOperator
