import ClusterOperator.Health.Check
import ClusterOperator.Proofs.Children.Apply
import ClusterOperator.Proofs.Health.Polling

/-!
# What a check finds

A check looks at the stored workload, at the pods that its selector picks out, and at the servers
in those of them that are ready. It changes nothing, and once the workload has the declared number
of replicas it depends only on these pods and on what their servers reply.

## Main definitions

* `Kubernetes.StatefulSet.podSelector`: the selector by which the pods of a workload are listed.
* `Kubernetes.Pod.readyInOrder`: the ready pods in their order.
* `Kubernetes.Pod.Countable`: pods that are few enough to be counted.
* `Store.Shows`, `Store.Healthy`: what a check finds in the store, and what it finds if it ends
  well.

## Main results

* `Surroundings.Calm.check_result`: the result of a check in calm surroundings.
* `Surroundings.Calm.check_healthy`, `Surroundings.healthy_of_check`: a check ends well exactly if
  the servers are healthy.
-/

namespace ClusterOperator

open Kubernetes

/-- The selector by which the pods of a workload are listed. -/
def Kubernetes.StatefulSet.podSelector (w : StatefulSet) : String :=
  Labels.selector ((w.spec.getD {}).selector.matchLabels.getD ∅)

/-- The ready pods in their order. -/
def Kubernetes.Pod.readyInOrder (pods : List Pod) : List Pod :=
  Pod.inOrder (pods.filter Pod.isReady)

namespace Kubernetes.Pod

variable {pods : List Pod}

theorem length_readyInOrder (pods : List Pod) :
    (readyInOrder pods).length = (pods.filter isReady).length :=
  List.length_mergeSort _

theorem mem_readyInOrder {p : Pod} : p ∈ readyInOrder pods ↔ p ∈ pods.filter isReady :=
  List.mem_mergeSort

/-- There are fewer than `2 ^ 31` pods, so that their count does not wrap around. -/
def Countable (pods : List Pod) : Prop := (pods.length : Int) ≤ Width.signed32.greatest

theorem Countable.count_val (few : Countable pods) : (count pods).val = pods.length :=
  Signed32.wrap_val ⟨Int.le_trans (by decide) (Int.natCast_nonneg _), few⟩

theorem Countable.readyInOrder (few : Countable pods) : Countable (readyInOrder pods) := by
  have hle : (Pod.readyInOrder pods).length ≤ pods.length :=
    length_readyInOrder pods ▸ List.length_filter_le _ _
  exact Int.le_trans (Int.ofNat_le.mpr hle) few

/-- A count that wraps around is too low. -/
theorem count_le_length (pods : List Pod) : (count pods).val ≤ pods.length :=
  Signed32.wrap_le (Int.natCast_nonneg _)

end Kubernetes.Pod

/-- What a check finds in the store: a workload with the declared number of replicas, and the pods
that its selector picks out. -/
structure Store.Shows (s : Store) (d : Declaration) (workload : StatefulSet) (pods : List Pod) :
    Prop where
  get : s.get .statefulSet d.metadata.spaceOrEmpty d.displayName = .ok (some workload)
  replicas : workload.replicas? = some (d.spec.replicas.getD defaultReplicas)
  list : s.list .pod d.metadata.spaceOrEmpty (some workload.podSelector) = .ok pods

theorem Store.Shows.congr {s s' : Store} {d d' : Declaration} {workload : StatefulSet}
    {pods : List Pod} (h : s.Shows d workload pods)
    (space : d'.metadata.spaceOrEmpty = d.metadata.spaceOrEmpty)
    (name : d'.displayName = d.displayName) (replicas : d'.spec.replicas = d.spec.replicas)
    (sameWorkload : s'.get? ⟨.statefulSet, d.metadata.spaceOrEmpty, d.displayName⟩ =
      s.get? ⟨.statefulSet, d.metadata.spaceOrEmpty, d.displayName⟩)
    (samePods : ∀ pod, s'.get? ⟨.pod, d.metadata.spaceOrEmpty, pod⟩ =
      s.get? ⟨.pod, d.metadata.spaceOrEmpty, pod⟩) : s'.Shows d' workload pods where
  get := by
    rw [space, name, Store.get_congr sameWorkload]
    exact h.get
  replicas := by
    rw [replicas]
    exact h.replicas
  list := by
    rw [space, Store.list_congr samePods]
    exact h.list

/-- What a check that ends well finds: as many pods as are enough count as ready, and their servers
are well. -/
def Store.Healthy (s : Store) (d : Declaration) (probe : String → TimedReply) : Prop :=
  ∃ workload pods, s.Shows d workload pods ∧
    quorum (d.spec.replicas.getD defaultReplicas).val ≤ (Pod.count (Pod.readyInOrder pods)).val ∧
    ∀ p ∈ Pod.readyInOrder pods, p.target.Well probe

theorem Store.Healthy.congr {s s' : Store} {d d' : Declaration}
    {probe probe' : String → TimedReply} (h : s.Healthy d probe)
    (space : d'.metadata.spaceOrEmpty = d.metadata.spaceOrEmpty)
    (name : d'.displayName = d.displayName) (replicas : d'.spec.replicas = d.spec.replicas)
    (sameWorkload : s'.get? ⟨.statefulSet, d.metadata.spaceOrEmpty, d.displayName⟩ =
      s.get? ⟨.statefulSet, d.metadata.spaceOrEmpty, d.displayName⟩)
    (samePods : ∀ pod, s'.get? ⟨.pod, d.metadata.spaceOrEmpty, pod⟩ =
      s.get? ⟨.pod, d.metadata.spaceOrEmpty, pod⟩)
    (replies : ∀ address, (probe' address).reply = (probe address).reply) :
    s'.Healthy d' probe' := by
  obtain ⟨workload, pods, shows, hquorum, hwell⟩ := h
  refine ⟨workload, pods, shows.congr space name replicas sameWorkload samePods,
    replicas.symm ▸ hquorum, fun p hp => ?_⟩
  obtain ⟨address, r, haddress, hreply, hcode⟩ := hwell p hp
  exact ⟨address, r, haddress, (replies address).trans hreply, hcode⟩

/-- What is left of a check once the pods are listed. -/
def checkReady (limit : Nat) (d : Declaration) (ready : List Pod) : Pass (List Pod) :=
  let replicas := d.spec.replicas.getD defaultReplicas
  if (Pod.count ready).val < quorum replicas.val then
    Pass.fault (.tooFewReady (Pod.count ready) (quorum replicas.val) replicas)
  else
    ExceptT.mk (Program.perform (.poll limit (ready.map Pod.target))) >>= fun _ => pure ready

theorem Kubernetes.StatefulSet.replicas?_eq (w : StatefulSet) :
    w.replicas? = (w.spec.getD {}).replicas := by
  unfold StatefulSet.replicas?
  cases w.spec <;> rfl

theorem fault_bind {α β : Type} (f : Fault) (g : α → Pass β) :
    (Pass.fault f : Pass α) >>= g = Pass.fault f := rfl

/-- A check, step by step. -/
theorem check_eq (limit : Nat) (d : Declaration) :
    check limit d = Pass.request (.get .statefulSet d.metadata.spaceOrEmpty d.displayName) >>=
      fun found =>
        match found with
        | none => Pass.fault (.workloadMissing d.metadata.spaceOrEmpty d.displayName)
        | some workload =>
          if StatefulSet.replicas? workload ≠ some (d.spec.replicas.getD defaultReplicas) then
            Pass.fault (.replicasDiffer (StatefulSet.replicas? workload)
              (d.spec.replicas.getD defaultReplicas))
          else
            Pass.request (.list .pod d.metadata.spaceOrEmpty
              (some (StatefulSet.podSelector workload))) >>= fun pods =>
                checkReady limit d (Pod.readyInOrder pods) := by
  unfold check
  refine congrArg (Pass.request _ >>= ·) (funext fun found => ?_)
  cases found with
  | none => rfl
  | some workload =>
    simp only [StatefulSet.replicas?_eq, pure_bind, fault_bind]
    rfl

namespace Surroundings

variable {u : Surroundings} {limit : Nat} {d : Declaration} {scene : Scene}

theorem pass_checkReady (ready : List Pod) :
    (u.pass (checkReady limit d ready) scene).1 =
      if (Pod.count ready).val < quorum (d.spec.replicas.getD defaultReplicas).val then
        .error (.error (.fatal (.tooFewReady (Pod.count ready)
          (quorum (d.spec.replicas.getD defaultReplicas).val)
          (d.spec.replicas.getD defaultReplicas))))
      else (Polling.run limit (ready.map fun p => p.target.job u.probe)).map fun _ => ready := by
  unfold checkReady
  simp only
  split
  · rfl
  · rw [pass_bind_pure, pass_poll, List.map_map]
    rfl

/-- The result of a check in calm surroundings. -/
theorem Calm.check_result (calm : u.Calm) {workload : StatefulSet} {pods : List Pod}
    (shows : scene.store.Shows d workload pods) :
    (u.pass (check limit d) scene).1 =
      if (Pod.count (Pod.readyInOrder pods)).val <
          quorum (d.spec.replicas.getD defaultReplicas).val then
        .error (.error (.fatal (.tooFewReady (Pod.count (Pod.readyInOrder pods))
          (quorum (d.spec.replicas.getD defaultReplicas).val)
          (d.spec.replicas.getD defaultReplicas))))
      else (Polling.run limit ((Pod.readyInOrder pods).map fun p => p.target.job u.probe)).map
        fun _ => Pod.readyInOrder pods := by
  let get := Request.get .statefulSet d.metadata.spaceOrEmpty d.displayName
  have hget : scene.store.answer get = (.ok (some workload), scene.store) :=
    congrArg (·, scene.store) shows.get
  have hlist : (scene.after (.request get)).store.answer
      (.list .pod d.metadata.spaceOrEmpty (some workload.podSelector)) = (.ok pods, scene.store) :=
    congrArg (·, scene.store) shows.list
  rw [check_eq, u.pass_bind_of_ok (calm.pass_request hget)]
  simp only [shows.replicas, ne_eq, not_true_eq_false, if_false]
  exact (congrArg Prod.fst (u.pass_bind_of_ok (calm.pass_request hlist) _)).trans
    (pass_checkReady _)

/-- A check of healthy servers ends well. -/
theorem Calm.check_healthy (limit : Nat) (calm : u.Calm) (healthy : scene.store.Healthy d u.probe) :
    ∃ ready, (u.pass (check limit d) scene).1 = .ok ready := by
  obtain ⟨workload, pods, shows, hquorum, hwell⟩ := healthy
  have hpoll : Polling.run limit ((Pod.readyInOrder pods).map fun p => p.target.job u.probe) =
      .ok () := by
    refine Polling.run_eq_ok.mpr fun job hjob => ?_
    obtain ⟨p, hp, rfl⟩ := List.mem_map.mp hjob
    exact Target.outcome_eq_healthy.mpr (hwell p hp)
  refine ⟨Pod.readyInOrder pods, (calm.check_result shows).trans ?_⟩
  rw [if_neg (Int.not_lt.mpr hquorum), hpoll]
  rfl

/-- A check that ended well found healthy servers. -/
theorem healthy_of_check {keys : Key → Prop} (spares : u.Spares keys)
    (hworkload : keys ⟨.statefulSet, d.metadata.spaceOrEmpty, d.displayName⟩)
    (hpods : ∀ name, keys ⟨.pod, d.metadata.spaceOrEmpty, name⟩)
    {ready : List Pod} (h : (u.pass (check limit d) scene).1 = .ok ready) :
    scene.store.Healthy d u.probe := by
  rw [check_eq] at h
  obtain ⟨found, hget, h⟩ := u.pass_request_bind_eq_ok h
  have hfound := answer_get spares hworkload hget
  cases found with
  | none => cases h
  | some workload =>
    simp only at h
    split at h
    · cases h
    · next hreplicas =>
      obtain ⟨pods, hlist, h⟩ := u.pass_request_bind_eq_ok h
      have hlisted := (Store.list_congr (fun name => answer_get? spares (hpods name) (.inl rfl)
        scene) _).symm.trans (answer_list spares hpods hlist)
      rw [pass_checkReady] at h
      split at h
      · cases h
      · next hquorum =>
        obtain ⟨⟨⟩, hrun, -⟩ := map_eq_ok.mp h
        refine ⟨workload, pods, ⟨hfound, Classical.not_not.mp hreplicas, hlisted⟩, by omega, ?_⟩
        intro p hp
        exact Target.outcome_eq_healthy.mp
          (Polling.run_eq_ok.mp hrun _ (List.mem_map.mpr ⟨p, hp, rfl⟩))

/-- A check changes nothing that is stored. -/
theorem check_within : Pass.Within Call.Reads (check limit d) := by
  rw [check_eq]
  refine Pass.Within.bind (Pass.within_request (r := .get _ _ _) rfl) fun found => ?_
  cases found with
  | none => exact Pass.within_fault _
  | some workload =>
    simp only
    split
    · exact Pass.within_fault _
    · refine Pass.Within.bind (Pass.within_request (r := .list _ _ _) rfl) fun pods => ?_
      unfold checkReady
      simp only
      split
      · exact Pass.within_fault _
      · refine Pass.Within.bind ?_ fun _ => Pass.within_pure _
        exact Program.within_perform trivial

end Surroundings

end ClusterOperator
