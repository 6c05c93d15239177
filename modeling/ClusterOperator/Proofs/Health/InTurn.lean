import ClusterOperator.Proofs.Health.Check
import ClusterOperator.Proofs.Health.Timeline
import ClusterOperator.Proofs.Stores.Versions

/-!
# Checking pods in turn

A check that asks many servers at a time finds what a check finds that asks them one after the
other in the order of their pods and stops at the first one that is unwell. Asking many at a time
only changes how long it takes: no more are asked at once than is allowed, none is asked twice, and
none is asked before the workload has the declared number of replicas and enough pods are ready.

## Main definitions

* `askInTurn`, `checkInTurn`: asking servers one after the other.
* `Kubernetes.Pod.before_trans`, `Kubernetes.Pod.before_total`: the order of pods.
* `Target.IsUnwell`: what is wrong with a pod whose server is not well.
* `Declaration.Admits`: what must be found before a server is asked.

## Main results

* `Surroundings.pass_check_eq_inTurn`: asking many at a time finds the same.
* `Surroundings.check_in_turn`: what a check finds, and what it asks.
-/

namespace ClusterOperator

open Kubernetes

/-! ### The order of pods -/

namespace Kubernetes.Pod

theorem before_iff {p q : Pod} : p.before q = true ↔
    p.sortKey.1 < q.sortKey.1 ∨ (p.sortKey.1 = q.sortKey.1 ∧ p.sortKey.2 ≤ q.sortKey.2) := by
  simp [before]

theorem before_trans (p q r : Pod) (hpq : p.before q = true) (hqr : q.before r = true) :
    p.before r = true := by
  rw [before_iff] at *
  rcases hpq with hpq | ⟨hpq, hpq'⟩
  · rcases hqr with hqr | ⟨hqr, -⟩
    · exact .inl (Nat.lt_trans hpq hqr)
    · exact .inl (hqr ▸ hpq)
  · rcases hqr with hqr | ⟨hqr, hqr'⟩
    · exact .inl (hpq ▸ hqr)
    · exact .inr ⟨hpq.trans hqr, String.le_trans hpq' hqr'⟩

theorem before_total (p q : Pod) : (p.before q || q.before p) = true := by
  rw [Bool.or_eq_true, before_iff, before_iff]
  rcases Nat.lt_trichotomy p.sortKey.1 q.sortKey.1 with h | h | h
  · exact .inl (.inl h)
  · exact (String.le_total p.sortKey.2 q.sortKey.2).imp (fun h' => .inr ⟨h, h'⟩)
      fun h' => .inr ⟨h.symm, h'⟩
  · exact .inr (.inl h)

/-- The ready pods in their order are the ready pods, and they are ordered by ordinal and name. -/
theorem readyInOrder_perm (pods : List Pod) : (readyInOrder pods).Perm (pods.filter isReady) :=
  List.mergeSort_perm _ _

theorem pairwise_readyInOrder (pods : List Pod) :
    (readyInOrder pods).Pairwise fun p q => p.before q = true :=
  List.pairwise_mergeSort before_trans before_total _

end Kubernetes.Pod

/-! ### What is wrong with a pod -/

namespace Target

variable {probe : String → TimedReply} {t : Target} {fault : Fault}

/-- What is wrong with a pod whose server is not well: it has no address, it cannot be asked, or it
gives another code than that of a healthy server. -/
inductive IsUnwell (probe : String → TimedReply) (t : Target) : Fault → Prop
  | noAddress (none : t.address = none) : IsUnwell probe t (.noAddress t.pod)
  | unreachable {address : String} {e : Error} (some : t.address = some address)
      (reply : (probe address).reply = .failed e) :
      IsUnwell probe t (.unreachable t.pod address e.message)
  | unhealthy {address : String} {r : NodeReport} (some : t.address = some address)
      (reply : (probe address).reply = .report r) (code : r.code ≠ NodeReport.healthy) :
      IsUnwell probe t (.unhealthy t.pod address r.code)

theorem isUnwell_of_outcome (h : (t.job probe).outcome = .unwell fault) :
    t.IsUnwell probe fault := by
  unfold job at h
  split at h
  · next hnone =>
    cases h
    exact .noAddress hnone
  · next address hsome =>
    unfold verdict at h
    split at h
    · next r hreply =>
      split at h
      · cases h
      · next hcode =>
        cases h
        exact .unhealthy hsome hreply hcode
    · next e hreply =>
      cases h
      exact .unreachable hsome hreply
    · cases h

theorem IsUnwell.code (h : t.IsUnwell probe fault) : fault.code = Fault.serverUnreachable := by
  cases h <;> rfl

/-- A text that names a pod, and its address if it has one. -/
def Names (t : Target) (text : String) : Prop :=
  match t.address with
  | none => ∃ before after, text = before ++ t.pod ++ after
  | some address => ∃ before between after, text = before ++ t.pod ++ between ++ address ++ after

/-- The wording of what is wrong with a pod names it. -/
theorem IsUnwell.names (h : t.IsUnwell probe fault) : t.Names fault.message := by
  unfold Names
  cases h with
  | noAddress hnone =>
    rw [hnone]
    exact ⟨"pod ", " is ready but has no address", rfl⟩
  | @unreachable address e hsome hreply =>
    rw [hsome]
    refine ⟨"nacos on ", " (", ") is unreachable: " ++ e.message, ?_⟩
    exact String.append_assoc
  | @unhealthy address r hsome hreply hcode =>
    rw [hsome]
    refine ⟨"nacos on ", " (", ") reported code " ++ r.code.val.repr, ?_⟩
    exact String.append_assoc

end Target

/-! ### What must be found, and whom it takes to ask -/

/-- What must be found before a server is asked: a workload with the declared number of replicas,
and enough ready pods. -/
def Declaration.Admits (d : Declaration) (found : Option StatefulSet) (ready : List Pod) : Prop :=
  ∃ workload, found = some workload ∧
    workload.replicas? = some (d.spec.replicas.getD defaultReplicas) ∧
    quorum (d.spec.replicas.getD defaultReplicas).val ≤ ready.length

namespace Polling

/-- One after the other, the servers of healthy pods are passed over. -/
theorem oneByOne_append_of_healthy {healthy jobs : List Job}
    (h : ∀ job ∈ healthy, job.outcome = .healthy) : oneByOne (healthy ++ jobs) = oneByOne jobs := by
  induction healthy with
  | nil => rfl
  | cons job rest ih =>
    obtain ⟨hjob, hrest⟩ := List.forall_mem_cons.mp h
    rw [List.cons_append, oneByOne, hjob]
    exact ih hrest

/-- An address is asked at most as often as there are pods that have it. -/
theorem count_asked_le (probe : String → TimedReply) (limit : Nat) (targets : List Target)
    (address : String) : (asked probe limit targets).count address ≤
      targets.countP fun t => t.address = some address := by
  have hsublist : (asked probe limit targets).Sublist (targets.filterMap Target.address) :=
    (List.take_sublist _ targets).filterMap _
  refine Nat.le_trans (hsublist.count_le address) (Nat.le_of_eq ?_)
  rw [List.count_filterMap]
  exact List.countP_congr fun t _ => by simp

end Polling

/-! ### Asking servers one after the other -/

/-- Asks the servers of pods, so many at a time. -/
def askTogether (limit : Nat) (targets : List Target) : Pass Unit :=
  ExceptT.mk (Program.perform (.poll limit targets))

/-- Asks the servers of pods one after the other; the first one that is unwell ends it. -/
def askInTurn : List Target → Pass Unit
  | [] => return ()
  | t :: rest => do
    askTogether 1 [t]
    askInTurn rest

/-- A check that asks the servers of the ready pods in some way. -/
def checkBy (ask : List Target → Pass Unit) (d : Declaration) : Pass (List Pod) :=
  let replicas := d.spec.replicas.getD defaultReplicas
  Pass.request (.get .statefulSet d.metadata.spaceOrEmpty d.displayName) >>= fun found =>
    match found with
    | none => Pass.fault (.workloadMissing d.metadata.spaceOrEmpty d.displayName)
    | some workload =>
      if StatefulSet.replicas? workload ≠ some replicas then
        Pass.fault (.replicasDiffer (StatefulSet.replicas? workload) replicas)
      else
        Pass.request (.list .pod d.metadata.spaceOrEmpty
          (some (StatefulSet.podSelector workload))) >>= fun pods =>
            let ready := Pod.readyInOrder pods
            if (Pod.count ready).val < quorum replicas.val then
              Pass.fault (.tooFewReady (Pod.count ready) (quorum replicas.val) replicas)
            else ask (ready.map Pod.target) >>= fun _ => pure ready

/-- A check that asks one server after the other. -/
def checkInTurn (d : Declaration) : Pass (List Pod) := checkBy askInTurn d

theorem check_eq_checkBy (limit : Nat) (d : Declaration) :
    check limit d = checkBy (askTogether limit) d := check_eq limit d

namespace Surroundings

variable {u : Surroundings} {d : Declaration}

/-- Ways of asking that find the same make checks that find the same. -/
theorem pass_checkBy_congr {ask ask' : List Target → Pass Unit}
    (h : ∀ targets scene, (u.pass (ask targets) scene).1 = (u.pass (ask' targets) scene).1)
    (d : Declaration) (scene : Scene) :
    (u.pass (checkBy ask d) scene).1 = (u.pass (checkBy ask' d) scene).1 := by
  unfold checkBy
  simp only
  let get := Request.get .statefulSet d.metadata.spaceOrEmpty d.displayName
  cases hget : (u.answer get scene).1 with
  | error e => rw [u.pass_bind_of_error (u.pass_request_of_error hget),
      u.pass_bind_of_error (u.pass_request_of_error hget)]
  | ok found =>
    rw [u.pass_bind_of_ok (u.pass_request_of_ok hget),
      u.pass_bind_of_ok (u.pass_request_of_ok hget)]
    cases found with
    | none => rfl
    | some workload =>
      simp only
      split
      · rfl
      · let list := Request.list .pod d.metadata.spaceOrEmpty (some workload.podSelector)
        cases hlist : (u.answer list (u.requested get scene)).1 with
        | error e => rw [u.pass_bind_of_error (u.pass_request_of_error hlist),
            u.pass_bind_of_error (u.pass_request_of_error hlist)]
        | ok pods =>
          rw [u.pass_bind_of_ok (u.pass_request_of_ok hlist),
            u.pass_bind_of_ok (u.pass_request_of_ok hlist)]
          split
          · rfl
          · rw [pass_bind_pure, pass_bind_pure, h]

/-- Asking one server after the other finds what comes first. -/
theorem pass_askInTurn (targets : List Target) (scene : Scene) :
    (u.pass (askInTurn targets) scene).1 =
      Polling.oneByOne (targets.map (Target.job u.probe)) := by
  induction targets generalizing scene with
  | nil => rfl
  | cons t rest ih =>
    have hask : u.pass (askTogether 1 [t]) scene =
        (Polling.run 1 [t.job u.probe], scene.after (.poll 1 [t])) := u.pass_poll 1 [t] scene
    rw [askInTurn, pass_bind, hask, List.map_cons, Polling.oneByOne, Polling.run, Polling.timeline,
      Polling.conclude]
    simp only
    cases (t.job u.probe).outcome with
    | healthy => exact ih _
    | unwell fault => rfl
    | panicked => rfl

/-- If nobody panics, asking many servers at a time finds what asking one after the other does. -/
theorem pass_check_eq_inTurn (answers : ∀ address, (u.probe address).reply ≠ .panicked)
    (limit : Nat) (d : Declaration) (scene : Scene) :
    (u.pass (check limit d) scene).1 = (u.pass (checkInTurn d) scene).1 := by
  rw [check_eq_checkBy, checkInTurn]
  refine pass_checkBy_congr (fun targets scene => ?_) d scene
  have hjobs : ∀ job ∈ targets.map (Target.job u.probe), job.outcome ≠ .panicked := by
    intro job hjob
    obtain ⟨t, -, rfl⟩ := List.mem_map.mp hjob
    exact Target.outcome_ne_panicked answers
  rw [pass_askInTurn]
  exact Polling.run_eq_oneByOne hjobs limit

/-! ### What a check finds in turn -/

variable {limit : Nat} {scene : Scene} {found : Option StatefulSet} {pods : List Pod}

/-- The request for the workload of a deployment. -/
abbrev getWorkload (d : Declaration) : Request :=
  .get .statefulSet d.metadata.spaceOrEmpty d.displayName

/-- The request for the pods of a workload. -/
abbrev listPods (d : Declaration) (workload : StatefulSet) : Request :=
  .list .pod d.metadata.spaceOrEmpty (some workload.podSelector)

theorem requested_requested (r r' : Request) : u.requested r' (u.requested r scene) =
    ⟨(u.requested r' (u.requested r scene)).store, scene.calls ++ [r, r'].map .request⟩ :=
  congrArg (Scene.mk _) (List.append_assoc _ _ _)

section Answered

variable (limit) (fetched : (u.answer (getWorkload d) scene).1 = .ok found)
  (listed : ∀ workload, found = some workload →
    (u.answer (listPods d workload) (u.requested (getWorkload d) scene)).1 = .ok pods)
  (few : Pod.Countable pods)

include fetched listed few

/-- If what must be found is found, the servers of the ready pods are asked. -/
theorem pass_check_of_admits (admits : d.Admits found (Pod.readyInOrder pods)) :
    ∃ (requests : List Request) (store : Store), u.pass (check limit d) scene =
      ((Polling.run limit ((Pod.readyInOrder pods).map fun p => p.target.job u.probe)).map
          fun _ => Pod.readyInOrder pods,
        ⟨store, scene.calls ++ requests.map .request ++
          [.poll limit ((Pod.readyInOrder pods).map Pod.target)]⟩) := by
  obtain ⟨workload, rfl, hreplicas, hquorum⟩ := admits
  refine ⟨[getWorkload d, listPods d workload], (u.requested (listPods d workload)
    (u.requested (getWorkload d) scene)).store, ?_⟩
  rw [check_eq, u.pass_bind_of_ok (u.pass_request_of_ok fetched)]
  simp only [hreplicas, ne_eq, not_true_eq_false, if_false]
  rw [u.pass_bind_of_ok (u.pass_request_of_ok (listed workload rfl)), checkReady]
  have henough : ¬ (Pod.count (Pod.readyInOrder pods)).val <
      quorum (d.spec.replicas.getD defaultReplicas).val := by
    rw [few.readyInOrder.count_val]
    exact Int.not_lt.mpr hquorum
  rw [if_neg henough, pass_bind_pure, pass_poll, List.map_map, requested_requested]
  rfl

/-- If it is not, no server is asked. -/
theorem pass_check_of_not_admits (refuses : ¬ d.Admits found (Pod.readyInOrder pods)) :
    ∃ (fault : Fault) (requests : List Request) (store : Store), u.pass (check limit d) scene =
      (.error (.error (.fatal fault)), ⟨store, scene.calls ++ requests.map .request⟩) := by
  rw [check_eq, u.pass_bind_of_ok (u.pass_request_of_ok fetched)]
  cases found with
  | none => exact ⟨_, [getWorkload d], _, rfl⟩
  | some workload =>
    simp only
    split
    · exact ⟨_, [getWorkload d], _, rfl⟩
    · next hreplicas =>
      rw [u.pass_bind_of_ok (u.pass_request_of_ok (listed workload rfl)), checkReady]
      split
      · exact ⟨_, [getWorkload d, listPods d workload], _,
          congrArg (Prod.mk _) (requested_requested _ _)⟩
      · next hquorum =>
        rw [few.readyInOrder.count_val] at hquorum
        exact absurd ⟨workload, rfl, Classical.not_not.mp hreplicas, Int.not_lt.mp hquorum⟩ refuses

/-- A check ends well exactly if what must be found is found and every ready pod is well. -/
theorem pass_check_eq_ok (result : List Pod) :
    (u.pass (check limit d) scene).1 = .ok result ↔ result = Pod.readyInOrder pods ∧
      d.Admits found (Pod.readyInOrder pods) ∧
      ∀ p ∈ Pod.readyInOrder pods, p.target.Well u.probe := by
  by_cases admits : d.Admits found (Pod.readyInOrder pods)
  · obtain ⟨requests, store, hpass⟩ := pass_check_of_admits limit fetched listed few admits
    rw [hpass, map_eq_ok]
    constructor
    · rintro ⟨⟨⟩, hrun, rfl⟩
      exact ⟨rfl, admits, fun p hp => Target.outcome_eq_healthy.mp
        (Polling.run_eq_ok.mp hrun _ (List.mem_map.mpr ⟨p, hp, rfl⟩))⟩
    · rintro ⟨rfl, -, hwell⟩
      refine ⟨(), Polling.run_eq_ok.mpr fun job hjob => ?_, rfl⟩
      obtain ⟨p, hp, rfl⟩ := List.mem_map.mp hjob
      exact Target.outcome_eq_healthy.mpr (hwell p hp)
  · obtain ⟨fault, requests, store, hpass⟩ :=
      pass_check_of_not_admits limit fetched listed few admits
    rw [hpass]
    exact iff_of_false nofun fun h => admits h.2.1

/-- A check reports the first pod that is unwell. -/
theorem pass_check_of_unwell (answers : ∀ address, (u.probe address).reply ≠ .panicked)
    (admits : d.Admits found (Pod.readyInOrder pods)) {healthy rest : List Pod} {p : Pod}
    (hready : Pod.readyInOrder pods = healthy ++ p :: rest)
    (hhealthy : ∀ q ∈ healthy, q.target.Well u.probe) (hunwell : ¬ p.target.Well u.probe) :
    ∃ fault, p.target.IsUnwell u.probe fault ∧
      (u.pass (check limit d) scene).1 = .error (.error (.fatal fault)) := by
  obtain ⟨requests, store, hpass⟩ := pass_check_of_admits limit fetched listed few admits
  have hjobs : ∀ job ∈ (Pod.readyInOrder pods).map fun p => p.target.job u.probe,
      job.outcome ≠ .panicked := by
    intro job hjob
    obtain ⟨q, -, rfl⟩ := List.mem_map.mp hjob
    exact Target.outcome_ne_panicked answers
  have hskip : Polling.run limit ((Pod.readyInOrder pods).map fun p => p.target.job u.probe) =
      Polling.oneByOne (p.target.job u.probe :: rest.map fun p => p.target.job u.probe) := by
    rw [Polling.run_eq_oneByOne hjobs, hready, List.map_append, List.map_cons]
    refine Polling.oneByOne_append_of_healthy fun job hjob => ?_
    obtain ⟨q, hq, rfl⟩ := List.mem_map.mp hjob
    exact Target.outcome_eq_healthy.mpr (hhealthy q hq)
  cases houtcome : (p.target.job u.probe).outcome with
  | healthy => exact absurd (Target.outcome_eq_healthy.mp houtcome) hunwell
  | panicked => exact absurd houtcome (Target.outcome_ne_panicked answers)
  | unwell fault =>
    refine ⟨fault, Target.isUnwell_of_outcome houtcome, ?_⟩
    rw [hpass, hskip, Polling.oneByOne, houtcome]
    rfl

end Answered

/-- A check that asks many servers at a time finds what a check finds that asks one after the other,
in the order of the pods, and stops at the first one that is unwell. It gives the ready pods in
their order exactly if what must be found is found and every one of them is well. Otherwise, once
the servers are asked, it reports the first pod in the order that is unwell, and names it. It asks
nobody unless what must be found is found, no more servers at a time than allowed, and no pod twice;
and it is over after at most the sum of the delays. All this is for fewer than `2 ^ 31` pods. -/
theorem check_in_turn (limit : Nat) (answers : ∀ address, (u.probe address).reply ≠ .panicked)
    (fetched : (u.answer (getWorkload d) scene).1 = .ok found)
    (listed : ∀ workload, found = some workload →
      (u.answer (listPods d workload) (u.requested (getWorkload d) scene)).1 = .ok pods)
    (few : Pod.Countable pods) :
    let ready := Pod.readyInOrder pods
    let jobs := ready.map fun p => p.target.job u.probe
    let ended := u.pass (check limit d) scene
    ended.1 = (u.pass (checkInTurn d) scene).1 ∧
    (ready.Perm (pods.filter Pod.isReady) ∧
      ready.Pairwise fun p q => p.sortKey.1 < q.sortKey.1 ∨
        (p.sortKey.1 = q.sortKey.1 ∧ p.sortKey.2 ≤ q.sortKey.2)) ∧
    (∀ result, ended.1 = .ok result ↔
      result = ready ∧ d.Admits found ready ∧ ∀ p ∈ ready, p.target.Well u.probe) ∧
    (d.Admits found ready → ∀ healthy p rest, ready = healthy ++ p :: rest →
      (∀ q ∈ healthy, q.target.Well u.probe) → ¬ p.target.Well u.probe →
        ∃ fault, p.target.IsUnwell u.probe fault ∧ fault.code = Fault.serverUnreachable ∧
          p.target.Names fault.message ∧ ended.1 = .error (.error (.fatal fault))) ∧
    (∃ requests : List Request, ∃ polls : List Call,
      ended.2.calls = scene.calls ++ requests.map .request ++ polls ∧
      (d.Admits found ready → polls = [.poll limit (ready.map Pod.target)]) ∧
      (¬ d.Admits found ready → polls = [])) ∧
    (∀ address, (Polling.asked u.probe limit (ready.map Pod.target)).count address ≤
      (pods.filter Pod.isReady).countP fun p => p.address? = some address) ∧
    (∀ time, (Polling.underWay limit jobs time).length ≤ max 1 limit) ∧
    ∀ slot ∈ Polling.timeline (max 1 limit) [] jobs,
      slot.accounted ≤ (jobs.map Polling.Job.delay).sum := by
  intro ready jobs ended
  refine ⟨pass_check_eq_inTurn answers limit d scene,
    ⟨Pod.readyInOrder_perm pods, (Pod.pairwise_readyInOrder pods).imp Pod.before_iff.mp⟩,
    pass_check_eq_ok limit fetched listed few,
    fun admits healthy p rest hready hhealthy hunwell => ?_, ?_, fun address => ?_,
    Polling.length_underWay_le limit jobs, fun slot hslot => ?_⟩
  · obtain ⟨fault, hfault, hended⟩ :=
      pass_check_of_unwell limit fetched listed few answers admits hready hhealthy hunwell
    exact ⟨fault, hfault, hfault.code, hfault.names, hended⟩
  · by_cases admits : d.Admits found ready
    · obtain ⟨requests, store, hpass⟩ :=
        pass_check_of_admits limit fetched listed few admits
      exact ⟨requests, _, congrArg (fun e => Scene.calls (Prod.snd e)) hpass, fun _ => rfl,
        absurd admits⟩
    · obtain ⟨fault, requests, store, hpass⟩ :=
        pass_check_of_not_admits limit fetched listed few admits
      refine ⟨requests, [], ?_, fun h => absurd h admits, fun _ => rfl⟩
      rw [List.append_nil]
      exact congrArg (fun e => Scene.calls (Prod.snd e)) hpass
  · have hasked := Polling.count_asked_le u.probe limit (ready.map Pod.target) address
    rw [List.countP_map] at hasked
    exact Nat.le_trans hasked (Nat.le_of_eq ((Pod.readyInOrder_perm pods).countP_eq _))
  · have haccounted : slot.accounted ≤ 0 + (jobs.map Polling.Job.delay).sum :=
      Polling.accounted_le (fun _ h => absurd h List.not_mem_nil) slot hslot
    rwa [Nat.zero_add] at haccounted

/-! ### A slow server before a fast one -/

end Surroundings

namespace Declaration

/-- A deployment of three replicas. -/
def unhurriedSample : Declaration where
  metadata := { name := some "nc", space := some "default" }
  spec := { replicas := some ⟨3, by decide⟩ }

/-- Its workload. -/
def unhurriedWorkload : StatefulSet where
  metadata := { name := some "nc", space := some "default" }
  spec := some
    { replicas := some ⟨3, by decide⟩, selector := { matchLabels := some (Labels.ofName "nc") } }

/-- A ready pod of it. -/
def unhurriedPod (name address : String) : Pod where
  metadata := { name := some name, space := some "default", labels := some (Labels.ofName "nc") }
  status := some
    { conditions := some [{ status := "True", type := "Ready" }], podIP := some address }

/-- The store with the workload and two pods, of which the one with the higher ordinal is listed
first. -/
def unhurriedStore : Store where
  objects := ((SortedMap.empty.insert ⟨.statefulSet, "default", "nc"⟩
    (Document.write unhurriedWorkload)).insert ⟨.pod, "default", "nc-10"⟩
      (Document.write (unhurriedPod "nc-10" "10.0.0.10"))).insert ⟨.pod, "default", "nc-2"⟩
        (Document.write (unhurriedPod "nc-2" "10.0.0.2"))

theorem unhurriedStore_get : unhurriedStore.get .statefulSet "default" "nc" =
    .ok (some (Document.reread unhurriedWorkload)) :=
  Store.get_eq_ok_some.mpr ⟨_, rfl,
    Document.read_write (Kind.wellFormed .statefulSet) unhurriedWorkload⟩

theorem unhurriedStore_list : ∃ first second,
    unhurriedStore.list .pod "default" (some "app=nc") = .ok [first, second] ∧
      Pod.readyInOrder [first, second] = [second, first] ∧
      second.target = ⟨"nc-2", some "10.0.0.2"⟩ := by
  have hfacts : ((unhurriedStore.list .pod "default" (some "app=nc")).toOption.map fun pods =>
      pods.map fun p => (Pod.isReady p, Pod.target p)) =
        some [(true, ⟨"nc-10", some "10.0.0.10"⟩), (true, ⟨"nc-2", some "10.0.0.2"⟩)] := by
    decide +kernel
  rcases hlisted : unhurriedStore.list .pod "default" (some "app=nc") with e | pods
  · rw [hlisted] at hfacts
    cases hfacts
  · rw [hlisted] at hfacts
    obtain ⟨first, rest, rfl, hfirst, hrest⟩ := List.map_eq_cons_iff.mp (Option.some.inj hfacts)
    obtain ⟨second, _, rfl, hsecond, hnil⟩ := List.map_eq_cons_iff.mp hrest
    cases List.map_eq_nil_iff.mp hnil
    obtain ⟨hready, htarget⟩ := Prod.mk.inj hfirst
    obtain ⟨hready', htarget'⟩ := Prod.mk.inj hsecond
    have hname : first.displayName = "nc-10" := congrArg Target.pod htarget
    have hname' : second.displayName = "nc-2" := congrArg Target.pod htarget'
    -- By the texts of their names, the first one would come first.
    have hbefore : first.before second = false := by
      simp only [Pod.before, Pod.sortKey, Pod.ordinal?, hname, hname']
      decide
    refine ⟨first, second, rfl, ?_, htarget'⟩
    simp [Pod.readyInOrder, Pod.inOrder, hready, hready', List.mergeSort,
      List.MergeSort.Internal.splitInTwo, hbefore]

end Declaration

/-- Surroundings in which one server fails after a while and the others at once. -/
def Surroundings.unhurried : Surroundings where
  probe address :=
    if address = "10.0.0.2" then ⟨5000, .report { code := Fault.serverUnreachable }⟩
    else ⟨0, .failed (.http (.networkUnreachable address))⟩
  clock _ := Instant.epoch

open Declaration Surroundings in
theorem unhurriedSample_checked_in_turn :
    (unhurried.pass (check 2 unhurriedSample) ⟨unhurriedStore, []⟩).1 =
      .error (.error (.fatal (.unhealthy "nc-2" "10.0.0.2" Fault.serverUnreachable))) := by
  obtain ⟨first, second, hlist, hready, htarget⟩ := unhurriedStore_list
  have calm : unhurried.Calm := ⟨fun _ _ => rfl, fun _ _ _ => rfl⟩
  have hanswers : ∀ address, (unhurried.probe address).reply ≠ .panicked := by
    intro address
    unfold unhurried
    simp only
    split <;> exact nofun
  have hget : unhurriedStore.answer (getWorkload unhurriedSample) =
      (.ok (some (Document.reread unhurriedWorkload)), unhurriedStore) :=
    congrArg (·, unhurriedStore) unhurriedStore_get
  have hfetched : (unhurried.answer (getWorkload unhurriedSample) ⟨unhurriedStore, []⟩).1 =
      .ok (some (Document.reread unhurriedWorkload)) := by
    rw [calm.answer_of_ok hget]
  have hlisted : ∀ workload, some (Document.reread unhurriedWorkload) = some workload →
      (unhurried.answer (listPods unhurriedSample workload)
        (unhurried.requested (getWorkload unhurriedSample) ⟨unhurriedStore, []⟩)).1 =
          .ok [first, second] := by
    rintro _ ⟨⟩
    have hanswer : unhurriedStore.answer
        (listPods unhurriedSample (Document.reread unhurriedWorkload)) =
          (.ok [first, second], unhurriedStore) := congrArg (·, unhurriedStore) hlist
    rw [calm.requested_of_ok hget]
    exact congrArg Prod.fst (calm.answer_of_ok hanswer)
  have hquorum : quorum (unhurriedSample.spec.replicas.getD defaultReplicas).val ≤ 2 := by decide
  have hadmits : unhurriedSample.Admits (some (Document.reread unhurriedWorkload))
      (Pod.readyInOrder [first, second]) := by
    rw [hready]
    exact ⟨_, rfl, by decide, hquorum⟩
  have hunwell : ¬ second.target.Well unhurried.probe := by
    rw [htarget]
    rintro ⟨address, r, ⟨⟩, ⟨⟩, hcode⟩
    exact absurd hcode (by decide)
  have hfew : Pod.Countable [first, second] := (by decide : (2 : Int) ≤ Width.signed32.greatest)
  obtain ⟨-, -, -, hfirst, -⟩ := check_in_turn 2 hanswers hfetched hlisted hfew
  obtain ⟨fault, hfault, -, -, hended⟩ := hfirst hadmits [] second [first] hready
    (fun _ h => absurd h List.not_mem_nil) hunwell
  rw [htarget] at hfault
  cases hfault with
  | noAddress hnone => cases hnone
  | unreachable haddress hreply =>
    cases haddress
    cases hreply
  | unhealthy haddress hreply hcode =>
    cases haddress
    cases hreply
    exact hended

end ClusterOperator
