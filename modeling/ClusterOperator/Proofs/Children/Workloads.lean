import ClusterOperator.Proofs.Children.Coherence

/-!
# What a stored workload is made of

A workload is created for one plan and may be updated for others. Pods and the name of the governing
service are of the plan that was written last; claims are taken over from the stored workload each
time, so they stay those of the plan for which it was created. The labels by which the pods are
selected and the way in which they are started are the same for all plans of one name.

A plan from which a stored workload has not drifted need not be the one that was written last, but
it has the same mode and keeps data alike.

## Main definitions

* `Kubernetes.StatefulSet.MadeOf`: a workload was created for one plan and written last for another.

## Main results

* `Kubernetes.StatefulSet.MadeOf.created`, `Kubernetes.StatefulSet.MadeOf.updated`: what writing a
  workload makes of it.
* `Kubernetes.StatefulSet.MadeOf.selfContained_iff`: when its mounts are backed.
* `Kubernetes.StatefulSet.MadeOf.settled`: what it has in common with a plan from which it has not
  drifted.
-/

namespace ClusterOperator

open Kubernetes
open Document (reread reread_of_exact)

/-! ### What tells plans apart -/

namespace Plan

variable {p q : Plan}

theorem keepsData_of_mounts (h : p.mounts = q.mounts) : p.keepsData = q.keepsData := by
  have hmounts := congrArg (List.map (·.name)) h
  rw [names_mounts, names_mounts] at hmounts
  have hnames : ∀ data config data' config' : Bool,
      (if data then [dataVolume] else []) ++ (if config then [configVolume] else []) =
        (if data' then [dataVolume] else []) ++ (if config' then [configVolume] else []) →
      data = data' := by
    decide
  exact hnames _ _ _ _ hmounts

/-- The name of the last variable that is set in a mode. -/
def lastVariable : Mode → String
  | .standalone => "MODE"
  | .cluster => "NACOS_SERVERS"

theorem lastVariable_injective {m m' : Mode} (h : lastVariable m = lastVariable m') : m = m' := by
  revert h
  cases m <;> cases m' <;> decide

theorem getLast?_environment (p : Plan) :
    (p.environment.map (·.name)).getLast? = some (lastVariable p.mode) := by
  have hsplit : p.environment.map (·.name) =
      (p.declaration.spec.env ++ .plain "PREFER_HOST_MODE" "hostname" :: p.backendVariables).map
        (·.name) ++ p.modeVariables.map (·.name) := by
    rw [environment, operatorVariables, ← List.map_append, List.append_assoc, List.cons_append]
  rw [hsplit, List.getLast?_append, modeVariables]
  cases p.mode <;> rfl

/-- The last variable tells the mode. -/
theorem mode_of_environment (h : p.environment.map (·.name) = q.environment.map (·.name)) :
    p.mode = q.mode := by
  have hlast := p.getLast?_environment
  rw [h, q.getLast?_environment] at hlast
  exact (lastVariable_injective (Option.some.inj hlast)).symm

/-- The governing service tells the mode. -/
theorem governingService_eq_iff (name : p.name = q.name) :
    p.governingService = q.governingService ↔ p.mode = q.mode := by
  have hheadless : p.headlessName = q.headlessName := by rw [headlessName, name, headlessName]
  unfold governingService
  rw [name, hheadless]
  cases p.mode <;> cases q.mode <;> simp [q.headlessName_ne, q.headlessName_ne.symm]

end Plan

namespace Kubernetes

namespace StatefulSet

/-- In which order the pods are started. -/
def management? (s : StatefulSet) : Option (Option String) := s.spec.map (·.podManagementPolicy)

/-- The claims as they are stated. -/
def templates? (s : StatefulSet) : Option (Option (List PersistentVolumeClaim)) :=
  s.spec.map (·.volumeClaimTemplates)

/-! ### What rereading keeps -/

theorem selector?_reread (s : StatefulSet) : (reread s).selector? = s.selector? := by
  rw [selector?, spec_reread, selector?]
  cases s.spec with
  | none => rfl
  | some spec =>
    obtain ⟨policy, replicas, selector, serviceName, template, claims, others⟩ := spec
    exact congrArg some (reread_of_exact rfl selector)

theorem governor?_reread (s : StatefulSet) : (reread s).governor? = s.governor? := by
  rw [governor?, spec_reread, governor?]
  cases s.spec <;> rfl

theorem management?_reread (s : StatefulSet) : (reread s).management? = s.management? := by
  rw [management?, spec_reread, management?]
  cases s.spec with
  | none => rfl
  | some spec =>
    obtain ⟨policy, replicas, selector, serviceName, template, claims, others⟩ := spec
    cases policy <;> rfl

theorem claims_reread (s : StatefulSet) : (reread s).claims = reread s.claims := by
  rw [claims, spec_reread, claims]
  cases s.spec with
  | none => rfl
  | some spec =>
    obtain ⟨policy, replicas, selector, serviceName, template, claims, others⟩ := spec
    cases claims <;> rfl

end StatefulSet

theorem PersistentVolumeClaim.name_reread (c : PersistentVolumeClaim) :
    (reread c).metadata.name = c.metadata.name := by
  obtain ⟨metadata, spec, others⟩ := c
  obtain ⟨annotations, generateName, generation, labels, name, space, owners, version, uid,
    others⟩ := metadata
  cases name <;> rfl

/-- Claims keep their names. -/
theorem StatefulSet.claimNames_reread (s : StatefulSet) :
    (reread s).claims.filterMap (·.metadata.name) = s.claims.filterMap (·.metadata.name) := by
  rw [claims_reread]
  induction s.claims with
  | nil => rfl
  | cons c rest ih =>
    have hcons : reread (c :: rest) = reread c :: reread rest := rfl
    rw [hcons, List.filterMap_cons, List.filterMap_cons, c.name_reread, ih]

namespace StatefulSet

/-! ### What is taken over -/

theorem selector?_adopt (want live : StatefulSet) :
    (want.adopt live).selector? = want.selector? := by
  unfold adopt
  cases hw : want.spec with
  | none => simp only [selector?, hw]
  | some w => cases hl : live.spec <;> simp only [selector?, hw, Option.map_some]

theorem governor?_adopt (want live : StatefulSet) :
    (want.adopt live).governor? = want.governor? := by
  unfold adopt
  cases hw : want.spec with
  | none => simp only [governor?, hw]
  | some w => cases hl : live.spec <;> simp only [governor?, hw, Option.map_some]

theorem management?_adopt (want live : StatefulSet) :
    (want.adopt live).management? = want.management? := by
  unfold adopt
  cases hw : want.spec with
  | none => simp only [management?, hw]
  | some w => cases hl : live.spec <;> simp only [management?, hw, Option.map_some]

/-- Claims are taken over from the stored workload. -/
theorem templates?_adopt {want live : StatefulSet} (hw : want.spec.isSome = true)
    (hl : live.spec.isSome = true) : (want.adopt live).templates? = live.templates? := by
  obtain ⟨w, hw⟩ := Option.isSome_iff_exists.mp hw
  obtain ⟨l, hl⟩ := Option.isSome_iff_exists.mp hl
  simp only [adopt, templates?, hw, hl, Option.map_some]

theorem claims_of_templates? {s t : StatefulSet} (h : s.templates? = t.templates?) :
    s.claims = t.claims := by
  have hclaims : ∀ s : StatefulSet, s.claims = s.templates?.join.getD [] := fun s => by
    rw [claims, templates?]
    cases s.spec <;> rfl
  rw [hclaims, hclaims, h]

/-! ### Workloads that are written -/

/-- A workload was created for one plan and written last for another. -/
structure MadeOf (created written : Plan) (s : StatefulSet) : Prop where
  pods : s.podSpec? = (reread written.statefulSet).podSpec?
  governor : s.governor? = some written.governingService
  selector : s.selector? = some { matchLabels := some created.selectorLabels }
  management : s.management? = some (some "Parallel")
  claimNames : s.claims.filterMap (·.metadata.name) = created.claims.filterMap (·.metadata.name)

namespace MadeOf

variable {p q w : Plan} {s t : StatefulSet}

theorem spec_isSome (h : s.MadeOf q w) : s.spec.isSome = true := by
  have hgovernor := h.governor
  rw [governor?] at hgovernor
  obtain ⟨spec, hspec, -⟩ := Option.map_eq_some_iff.mp hgovernor
  exact Option.isSome_iff_exists.mpr ⟨spec, hspec⟩

/-- The version of a workload does not matter. -/
theorem withVersion (h : (reread s).MadeOf q w) (version : Option String) :
    (reread (Kind.withVersion .statefulSet version s)).MadeOf q w := by
  have hspec : (reread (Kind.withVersion .statefulSet version s)).spec = (reread s).spec := by
    rw [spec_reread, spec_reread]
    rfl
  obtain ⟨pods, governor, selector, management, claimNames⟩ := h
  constructor
  · rw [← pods, podSpec?, podSpec?, hspec]
  · rw [← governor, governor?, governor?, hspec]
  · rw [← selector, selector?, selector?, hspec]
  · rw [← management, management?, management?, hspec]
  · rw [← claimNames, claims, claims, hspec]

/-- A workload that is created is read as one of its plan. -/
theorem created (p : Plan) (version : Option String) :
    (reread (Kind.withVersion .statefulSet version p.statefulSet)).MadeOf p p := by
  refine withVersion ?_ version
  constructor
  · rfl
  · exact governor?_reread p.statefulSet
  · exact selector?_reread p.statefulSet
  · exact management?_reread p.statefulSet
  · rw [claimNames_reread, p.claims_statefulSet]

/-- A workload that is updated is read as one of the plan for which it was created and of the plan
for which it was written. -/
theorem updated (h : s.MadeOf q w) (name : p.name = q.name) (version : Option String) :
    (reread (Kind.withVersion .statefulSet version
      (Child.statefulSet.adopt p.statefulSet s))).MadeOf q p := by
  refine withVersion (withVersion (s := p.statefulSet.adopt s) ?_ _) version
  constructor
  · rw [podSpec?_reread, podSpec?_adopt, ← podSpec?_reread]
  · rw [governor?_reread, governor?_adopt]
    rfl
  · rw [selector?_reread, selector?_adopt, Plan.selectorLabels, ← name]
    rfl
  · rw [management?_reread, management?_adopt]
    rfl
  · rw [claimNames_reread, claims_of_templates? (templates?_adopt rfl h.spec_isSome), h.claimNames]

/-- What the containers mount is what the plan that was written last mounts. -/
theorem mounts (h : s.MadeOf q w) : s.mounts = w.mounts := by
  have hcontainers : s.containers = [reread w.container] := by
    rw [containers, h.pods, podSpec?_reread]
    rfl
  rw [StatefulSet.mounts, hcontainers, List.flatMap_singleton, Container.reread_eq]
  exact Plan.getD_nonEmptyList w.mounts

theorem volumeNames (h : s.MadeOf q w) : s.volumes.map (·.name) = w.volumes.map (·.name) := by
  rw [Plan.volumes_of_alike h.pods, Plan.volumes]
  cases w.config?.isSome <;> rfl

/-- The mounts of a workload are backed unless data is to be kept that was not to be kept when the
workload was created. -/
theorem selfContained_iff (h : s.MadeOf q w) :
    s.SelfContained ↔ (w.keepsData = true → q.keepsData = true) :=
  Plan.selfContained_iff (congrArg _ h.mounts) h.volumeNames h.claimNames

/-- A plan from which a workload has not drifted keeps data like the plan that was written last, and
has its mode. -/
theorem settled (h : s.MadeOf q w) (settled : p.statefulSet.drifted s = false) :
    p.keepsData = w.keepsData ∧ p.mode = w.mode := by
  have hdrifted : Drift.containerDrifted p.container (reread w.container) = false := by
    rw [drifted, Plan.container?_of_alike h.pods] at settled
    exact (Bool.or_eq_false_iff.mp settled).2
  have hresembles := Plan.container_resembles hdrifted
  constructor
  · have hmounts := hresembles.volumeMounts
    rw [Container.reread_eq, Container.reread_eq] at hmounts
    have hsame : w.mounts = p.mounts := by
      rw [← Plan.getD_nonEmptyList w.mounts, ← Plan.getD_nonEmptyList p.mounts]
      exact congrArg (Option.getD · []) hmounts
    exact Plan.keepsData_of_mounts hsame.symm
  · have henv := hresembles.envNames
    rw [Container.reread_eq, Container.reread_eq] at henv
    exact (Plan.mode_of_environment henv).symm

/-- What is adopted from a workload of the same name keeps everything that is fixed once a workload
exists, but for the governing service, which changes with the mode. -/
theorem adopt_keeps (h : s.MadeOf q w) (name : p.name = q.name) (same : p.name = w.name) :
    let o : StatefulSet := Child.statefulSet.adopt p.statefulSet s
    o.selector? = s.selector? ∧ o.management? = s.management? ∧ o.templates? = s.templates? ∧
      (o.governor? = s.governor? ↔ p.mode = w.mode) := by
  intro o
  have hspec : o.spec = (p.statefulSet.adopt s).spec := rfl
  refine ⟨?_, ?_, ?_, ?_⟩
  · rw [selector?, hspec, ← selector?, selector?_adopt, h.selector, Plan.selectorLabels, ← name]
    rfl
  · rw [management?, hspec, ← management?, management?_adopt, h.management]
    rfl
  · rw [templates?, hspec, ← templates?, templates?_adopt rfl h.spec_isSome]
  · rw [governor?, hspec, ← governor?, governor?_adopt, h.governor]
    exact Option.some_inj.trans (Plan.governingService_eq_iff same)

end MadeOf

end StatefulSet

end Kubernetes

end ClusterOperator
