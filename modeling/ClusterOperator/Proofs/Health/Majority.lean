import ClusterOperator.Proofs.Health.InTurn
import ClusterOperator.Proofs.Passes.Outcome

/-!
# Majorities of members

The members of a deployment are the servers that its peers know: one for each ordinal below the
number of replicas. A check counts the ready pods that the workload selects. While a workload is
scaled down, pods of higher ordinals are still there, and if they are ready they count as well. So
a check that ends well finds more than half of the replicas among the ready members and the ready
pods that are left over together. Without the latter it finds a majority of the members, and any
two majorities have a member in common.

## Main definitions

* `Declaration.podName`, `Declaration.Numbers`: pods that are numbered by their ordinals.
* `Declaration.readyMembers`, `Declaration.leftOver`: the members with a ready pod, and the ready
  pods of no member.
* `Surroundings.Approves`: a check that ends well.

## Main results

* `Declaration.Numbers.length_ready`: the ready pods are those of members and those left over.
* `Plan.peers_eq`: the members are the servers that the peers know.
* `Surroundings.Approves.majority`: what a check that ends well says of the members.
-/

namespace ClusterOperator

open Kubernetes

/-! ### Members -/

namespace Declaration

/-- What the pod of an ordinal is called. -/
def podName (d : Declaration) (ordinal : Nat) : String := d.displayName ++ "-" ++ ordinal.repr

/-- The names of the pods carry ordinals of their own. -/
def Numbers (d : Declaration) (pods : List Pod) : Prop :=
  ∃ ordinals : List Nat, ordinals.Nodup ∧ pods.map Pod.displayName = ordinals.map d.podName

/-- The ordinals below the number of replicas of which a pod is ready. -/
def readyMembers (d : Declaration) (pods : List Pod) (replicas : Nat) : List Nat :=
  (List.range replicas).filter fun i =>
    pods.any fun p => p.isReady && decide (p.displayName = d.podName i)

/-- The ready pods of no ordinal below the number of replicas. -/
def leftOver (d : Declaration) (pods : List Pod) (replicas : Nat) : List Pod :=
  pods.filter fun p =>
    p.isReady && (List.range replicas).all fun i => decide (p.displayName ≠ d.podName i)

variable {d : Declaration} {pods : List Pod} {replicas : Nat}

theorem podName_injective {i j : Nat} (h : d.podName i = d.podName j) : i = j :=
  Text.repr_injective ((String.append_right_inj _).mp h)

theorem mem_readyMembers {i : Nat} : i ∈ d.readyMembers pods replicas ↔
    i < replicas ∧ ∃ p ∈ pods, p.isReady = true ∧ p.displayName = d.podName i := by
  simp only [readyMembers, List.mem_filter, List.mem_range, List.any_eq_true, Bool.and_eq_true,
    decide_eq_true_eq]

/-- Some of several numbered pods are numbered. -/
theorem Numbers.filter (h : d.Numbers pods) (q : Pod → Bool) : d.Numbers (pods.filter q) := by
  obtain ⟨ordinals, hdistinct, hnames⟩ := h
  have hsome : ((pods.filter q).map Pod.displayName).Sublist (ordinals.map d.podName) :=
    hnames ▸ List.filter_sublist.map _
  obtain ⟨theirs, hsublist, htheirs⟩ := List.sublist_map_iff.mp hsome
  exact ⟨theirs, hdistinct.sublist hsublist, htheirs⟩

/-- No pod is left over if all have ordinals of members. -/
theorem leftOver_eq_nil {members : List (Nat × Bool)}
    (names : pods.map (fun p => (p.isReady, p.displayName)) =
      members.map fun m => (m.2, d.podName m.1))
    (below : ∀ m ∈ members, m.1 < replicas) : d.leftOver pods replicas = [] := by
  refine List.filter_eq_nil_iff.mpr fun p hp hleft => ?_
  have hmem := List.mem_map_of_mem (f := fun p => (p.isReady, p.displayName)) hp
  rw [names] at hmem
  obtain ⟨m, hm, heq⟩ := List.mem_map.mp hmem
  have hothers := List.all_eq_true.mp ((Bool.and_eq_true _ _).mp hleft).2 m.1
    (List.mem_range.mpr (below m hm))
  exact of_decide_eq_true hothers (congrArg Prod.snd heq).symm

/-- The members with a ready pod are those whose ordinals are among those of the ready pods. -/
theorem length_readyMembers {ordinals : List Nat} (distinct : ordinals.Nodup)
    (names : (pods.filter Pod.isReady).map Pod.displayName = ordinals.map d.podName)
    (replicas : Nat) :
    (d.readyMembers pods replicas).length = ordinals.countP fun i => decide (i < replicas) := by
  have hready : ∀ i, (∃ p ∈ pods, p.isReady = true ∧ p.displayName = d.podName i) ↔
      i ∈ ordinals := by
    intro i
    have hname : d.podName i ∈ (pods.filter Pod.isReady).map Pod.displayName ↔ i ∈ ordinals := by
      rw [names, List.mem_map]
      exact ⟨fun ⟨j, hj, heq⟩ => podName_injective heq ▸ hj, fun hi => ⟨i, hi, rfl⟩⟩
    rw [← hname, List.mem_map]
    simp only [List.mem_filter, and_assoc]
  have hsame : ∀ i, i ∈ d.readyMembers pods replicas ↔ i ∈ ordinals.filter (· < replicas) := by
    intro i
    rw [mem_readyMembers, hready, List.mem_filter, decide_eq_true_iff, and_comm]
  have hmembers : (d.readyMembers pods replicas).Perm (ordinals.filter (· < replicas)) :=
    (List.perm_ext_iff_of_nodup (List.nodup_range.filter _) (distinct.filter _)).mpr hsame
  rw [hmembers.length_eq, List.countP_eq_length_filter]

/-- The ready pods that are left over are those of the other ordinals. -/
theorem length_leftOver {ordinals : List Nat}
    (names : (pods.filter Pod.isReady).map Pod.displayName = ordinals.map d.podName)
    (replicas : Nat) : (d.leftOver pods replicas).length =
      ordinals.countP fun i => decide ¬ decide (i < replicas) = true := by
  let foreign (name : String) : Bool :=
    (List.range replicas).all fun i => decide (name ≠ d.podName i)
  have hforeign : ∀ i, foreign (d.podName i) = decide ¬ decide (i < replicas) = true := by
    intro i
    rw [Bool.eq_iff_iff]
    simp only [foreign, List.all_eq_true, List.mem_range, decide_eq_true_eq]
    exact ⟨fun hall hi => hall i hi rfl, fun hi j hj heq => hi (podName_injective heq ▸ hj)⟩
  calc (d.leftOver pods replicas).length
      = pods.countP fun p => p.isReady && foreign p.displayName :=
        List.countP_eq_length_filter.symm
    _ = (pods.filter Pod.isReady).countP (foreign ∘ Pod.displayName) := by
        rw [List.countP_filter]
        exact List.countP_congr fun p _ => by simp [Bool.and_comm]
    _ = (ordinals.map d.podName).countP foreign := by rw [← names, List.countP_map]
    _ = ordinals.countP fun i => decide ¬ decide (i < replicas) = true := by
        rw [List.countP_map]
        exact List.countP_congr fun i _ => by simp only [Function.comp, hforeign]

/-- Every ready pod is that of a member or left over. -/
theorem Numbers.length_ready (h : d.Numbers pods) (replicas : Nat) :
    (pods.filter Pod.isReady).length =
      (d.readyMembers pods replicas).length + (d.leftOver pods replicas).length := by
  obtain ⟨ordinals, hdistinct, hnames⟩ := h.filter Pod.isReady
  have hlength := congrArg List.length hnames
  rw [List.length_map, List.length_map] at hlength
  rw [hlength, length_readyMembers hdistinct hnames, length_leftOver hnames]
  exact List.length_eq_countP_add_countP _

end Declaration

/-- The servers that the peers know are those of the ordinals below the number of replicas. -/
theorem Plan.peers_eq {d : Declaration} {domain : String} {p : Plan}
    (h : Plan.ofDeclaration d domain = .ok p) :
    (d.spec.replicas.getD defaultReplicas).val = p.replicas ∧
      p.peers = (List.range p.replicas).map fun i =>
        d.podName i ++ "." ++ p.headlessDomain ++ ":" ++ Plan.clientPort.val.repr := by
  obtain ⟨-, hname, -, -, -, hreplicas, -⟩ := Plan.ofDeclaration_eq_ok h
  refine ⟨hreplicas.symm, List.map_congr_left fun i _ => ?_⟩
  rw [Plan.peer, hname, Declaration.podName]

/-- Two choices of more than half of a list have an item in common. -/
theorem List.exists_mem_filter_filter {α : Type} {l : List α} {p q : α → Bool}
    (hp : l.length < 2 * (l.filter p).length) (hq : l.length < 2 * (l.filter q).length) :
    ∃ a ∈ l, p a = true ∧ q a = true := by
  refine Classical.byContradiction fun hnone => ?_
  have hle : l.countP q ≤ l.countP fun a => decide ¬ p a = true :=
    List.countP_mono_left fun a ha hqa => decide_eq_true fun hpa => hnone ⟨a, ha, hpa, hqa⟩
  have hsplit := List.length_eq_countP_add_countP p (l := l)
  rw [← List.countP_eq_length_filter] at hp hq
  omega

namespace Surroundings

/-! ### Checks that end well -/

/-- A check of a deployment of so many replicas ends well. The workload selects these pods, whose
names carry ordinals of their own, and nobody else writes workloads or pods meanwhile. -/
structure Approves (u : Surroundings) (limit : Nat) (scene : Scene) (d : Declaration)
    (replicas : Nat) (pods : List Pod) : Prop where
  spares : u.Spares fun key => key.kind = .statefulSet ∨ key.kind = .pod
  replicas : (d.spec.replicas.getD defaultReplicas).val = replicas
  selected : ∃ workload, scene.store.Shows d workload pods
  numbered : d.Numbers pods
  ended : ∃ ready, (u.pass (check limit d) scene).1 = .ok ready

namespace Approves

variable {u v : Surroundings} {limit limit' : Nat} {scene scene' : Scene} {d d' : Declaration}
  {replicas : Nat} {pods pods' : List Pod}

/-- More than half as many pods as there are replicas are ready. -/
theorem lt_ready (h : u.Approves limit scene d replicas pods) :
    replicas < 2 * (pods.filter Pod.isReady).length := by
  obtain ⟨ready, hended⟩ := h.ended
  obtain ⟨workload, hselected⟩ := h.selected
  obtain ⟨found, listed, hshows, hquorum, -⟩ :=
    healthy_of_check h.spares (.inl rfl) (fun _ => .inr rfl) hended
  obtain rfl := Option.some.inj (Except.ok.inj (hshows.get.symm.trans hselected.get))
  obtain rfl := Except.ok.inj (hshows.list.symm.trans hselected.list)
  have hcount := Pod.count_le_length (Pod.readyInOrder listed)
  rw [Pod.length_readyInOrder] at hcount
  rw [h.replicas, quorum] at hquorum
  have hhalf : Int.tdiv (replicas : Int) 2 = (replicas : Int) / 2 :=
    Int.tdiv_eq_ediv_of_nonneg (Int.natCast_nonneg _)
  omega

/-- The members with a ready pod and the ready pods that are left over are together more than half
of the replicas. -/
theorem lt_readyMembers_add_leftOver (h : u.Approves limit scene d replicas pods) :
    replicas < 2 * ((d.readyMembers pods replicas).length + (d.leftOver pods replicas).length) :=
  h.numbered.length_ready replicas ▸ h.lt_ready

/-- If no ready pod is left over, more than half of the members have a ready pod. -/
theorem lt_readyMembers (h : u.Approves limit scene d replicas pods)
    (noneLeft : d.leftOver pods replicas = []) :
    replicas < 2 * (d.readyMembers pods replicas).length := by
  have hlt := h.lt_readyMembers_add_leftOver
  rwa [noneLeft, List.length_nil, Nat.add_zero] at hlt

/-- A check that ends well finds more than half of the replicas among the members with a ready pod
and the ready pods that are left over. If none is left over, more than half of the members have a
ready pod, and so have one in common with those found by any other such check. -/
theorem majority (h : u.Approves limit scene d replicas pods) :
    replicas < 2 * ((d.readyMembers pods replicas).length + (d.leftOver pods replicas).length) ∧
      (d.leftOver pods replicas = [] →
        replicas < 2 * (d.readyMembers pods replicas).length ∧
          ∀ (v : Surroundings) (limit' : Nat) (scene' : Scene) (d' : Declaration)
            (pods' : List Pod), v.Approves limit' scene' d' replicas pods' →
            d'.leftOver pods' replicas = [] →
              ∃ i, i ∈ d.readyMembers pods replicas ∧ i ∈ d'.readyMembers pods' replicas) := by
  refine ⟨h.lt_readyMembers_add_leftOver, fun noneLeft => ⟨h.lt_readyMembers noneLeft, ?_⟩⟩
  intro v limit' scene' d' pods' h' noneLeft'
  have hmine : (List.range replicas).length < 2 * (d.readyMembers pods replicas).length :=
    List.length_range.symm ▸ h.lt_readyMembers noneLeft
  have htheirs : (List.range replicas).length < 2 * (d'.readyMembers pods' replicas).length :=
    List.length_range.symm ▸ h'.lt_readyMembers noneLeft'
  obtain ⟨i, hi, hready, hready'⟩ := List.exists_mem_filter_filter hmine htheirs
  exact ⟨i, List.mem_filter.mpr ⟨hi, hready⟩, List.mem_filter.mpr ⟨hi, hready'⟩⟩

end Approves

end Surroundings

/-! ### A cluster of which some pods are ready -/

namespace Declaration

/-- The replicas of a cluster of seven members. -/
def sevenReplicas : Signed32 := ⟨7, by decide⟩

/-- Of four members the pod is ready, of one it is not, and of two there is none. -/
def earlierMembers : List (Nat × Bool) :=
  [(0, true), (1, false), (2, true), (4, true), (6, true)]

/-- Later the pods of other members are ready. -/
def laterMembers : List (Nat × Bool) := [(1, true), (2, true), (3, true), (5, true)]

/-- A cluster of so many members. -/
def clusterSample (replicas : Signed32) : Declaration where
  metadata := { name := some "nc", space := some "default" }
  spec := { type := "cluster", replicas := some replicas }

/-- Its workload. -/
def clusterWorkload (replicas : Signed32) : StatefulSet where
  metadata := { name := some "nc", space := some "default" }
  spec := some
    { replicas := some replicas, selector := { matchLabels := some (Labels.ofName "nc") } }

/-- The pod of an ordinal, ready or not. -/
def clusterPod (ordinal : Nat) (ready : Bool) : Pod where
  metadata := { name := some ("nc-" ++ ordinal.repr), space := some "default",
                labels := some (Labels.ofName "nc") }
  status := some
    { conditions := some [{ status := if ready then "True" else "False", type := "Ready" }],
      podIP := some "10.0.0.1" }

/-- The store with the workload and the pods of some ordinals, each of which is ready or not. -/
def clusterStore (replicas : Signed32) (members : List (Nat × Bool)) : Store where
  objects := (members.foldl (fun objects m => objects.insert ⟨.pod, "default", "nc-" ++ m.1.repr⟩
    (Document.write (clusterPod m.1 m.2))) SortedMap.empty).insert ⟨.statefulSet, "default", "nc"⟩
      (Document.write (clusterWorkload replicas))

/-- The selector of the workload lists these pods, in this order. -/
def Lists (replicas : Signed32) (members : List (Nat × Bool)) : Prop :=
  ((clusterStore replicas members).list .pod "default"
    (some (StatefulSet.podSelector (Document.reread (clusterWorkload replicas))))).toOption.map
      (fun pods => pods.map fun p => (p.isReady, p.target)) =
    some (members.map fun m => (m.2, ⟨(clusterSample replicas).podName m.1, some "10.0.0.1"⟩))

theorem clusterStore_lists : Lists defaultReplicas [(1, true)] ∧
    Lists sevenReplicas earlierMembers ∧ Lists sevenReplicas laterMembers := by
  unfold Lists
  decide +kernel

/-- Whichever pods are ready, the check ends well if they are enough. -/
theorem clusterSample_approved {replicas : Signed32} {members : List (Nat × Bool)} {r : Nat}
    (count : replicas.val = r) (lists : Lists replicas members)
    (distinct : (members.map Prod.fst).Nodup)
    (few : (members.length : Int) ≤ Width.signed32.greatest)
    (enough : quorum r ≤ members.countP Prod.snd) : ∃ pods : List Pod,
    Surroundings.well.Approves 4 ⟨clusterStore replicas members, []⟩ (clusterSample replicas) r
      pods ∧ pods.map (fun p => (p.isReady, p.displayName)) =
        members.map fun m => (m.2, (clusterSample replicas).podName m.1) := by
  obtain ⟨pods, hlisted, hpods⟩ := Option.map_eq_some_iff.mp lists
  have hnames : pods.map (fun p => (p.isReady, p.displayName)) =
      members.map fun m => (m.2, (clusterSample replicas).podName m.1) := by
    have h := congrArg (List.map fun e : Bool × Target => (e.1, e.2.pod)) hpods
    rwa [List.map_map, List.map_map] at h
  have hworkload : (clusterStore replicas members).get .statefulSet "default" "nc" =
      .ok (some (Document.reread (clusterWorkload replicas))) :=
    Store.get_eq_ok_some.mpr ⟨_, SortedMap.get?_insert_self _ _ _,
      Document.read_write (Kind.wellFormed .statefulSet) (clusterWorkload replicas)⟩
  have shows : (clusterStore replicas members).Shows (clusterSample replicas)
      (Document.reread (clusterWorkload replicas)) pods :=
    ⟨hworkload, StatefulSet.replicas?_reread _, toOption_eq_some.mp hlisted⟩
  have hlength : pods.length = members.length := by
    rw [← List.length_map, hpods, List.length_map]
  have hready : (pods.filter Pod.isReady).length = members.countP Prod.snd := by
    have h := congrArg (List.countP Prod.fst) hnames
    rwa [List.countP_map, List.countP_map, List.countP_eq_length_filter] at h
  have hcountable : Pod.Countable pods := by
    rw [Pod.Countable, hlength]
    exact few
  have hhealthy : (clusterStore replicas members).Healthy (clusterSample replicas)
      Surroundings.well.probe := by
    refine ⟨_, pods, shows, ?_, fun p hp => ?_⟩
    · rw [hcountable.readyInOrder.count_val, Pod.length_readyInOrder, hready]
      exact count ▸ enough
    · have hp : p ∈ pods := (List.mem_filter.mp (Pod.mem_readyInOrder.mp hp)).1
      have hmem := List.mem_map_of_mem (f := fun p => (p.isReady, p.target)) hp
      rw [hpods] at hmem
      obtain ⟨m, -, hm⟩ := List.mem_map.mp hmem
      have htarget : p.target = ⟨(clusterSample replicas).podName m.1, some "10.0.0.1"⟩ :=
        (congrArg Prod.snd hm).symm
      rw [htarget]
      exact ⟨_, _, rfl, rfl, rfl⟩
  refine ⟨pods, ⟨Surroundings.calm_well.spares _, count, ⟨_, shows⟩,
    ⟨members.map Prod.fst, distinct, ?_⟩, Surroundings.calm_well.check_healthy 4 hhealthy⟩, hnames⟩
  have h := congrArg (List.map Prod.snd) hnames
  rw [List.map_map, List.map_map] at h
  rw [List.map_map]
  exact h

end Declaration

open Declaration Surroundings in
theorem clusterSample_majority : ∃ pods pods' : List Pod,
    well.Approves 4 ⟨clusterStore sevenReplicas earlierMembers, []⟩ (clusterSample sevenReplicas) 7
        pods ∧
      well.Approves 4 ⟨clusterStore sevenReplicas laterMembers, []⟩ (clusterSample sevenReplicas) 7
        pods' ∧
      7 < 2 * ((clusterSample sevenReplicas).readyMembers pods 7).length ∧
      ∃ i, i ∈ (clusterSample sevenReplicas).readyMembers pods 7 ∧
        i ∈ (clusterSample sevenReplicas).readyMembers pods' 7 := by
  obtain ⟨-, hlists, hlists'⟩ := clusterStore_lists
  obtain ⟨pods, happroves, hnames⟩ := clusterSample_approved (r := 7) rfl hlists (by decide)
    (by decide) (by decide)
  obtain ⟨pods', happroves', hnames'⟩ := clusterSample_approved (r := 7) rfl hlists' (by decide)
    (by decide) (by decide)
  obtain ⟨hmajority, hcommon⟩ := happroves.majority.2 (leftOver_eq_nil hnames (by decide))
  exact ⟨pods, pods', happroves, happroves', hmajority, hcommon well 4 _ _ pods' happroves'
    (leftOver_eq_nil hnames' (by decide))⟩

open Declaration Surroundings in
/-- A check ends well though no member has a ready pod: the ready one is left over. -/
theorem clusterSample_no_majority : ∃ pods : List Pod,
    well.Approves 4 ⟨clusterStore defaultReplicas [(1, true)], []⟩ (clusterSample defaultReplicas) 1
        pods ∧
      ¬ 1 < 2 * ((clusterSample defaultReplicas).readyMembers pods 1).length := by
  obtain ⟨pods, happroves, hnames⟩ := clusterSample_approved (r := 1) rfl clusterStore_lists.1
    (by decide) (by decide) (by decide)
  have hnone : (clusterSample defaultReplicas).readyMembers pods 1 = [] := by
    refine List.eq_nil_iff_forall_not_mem.mpr fun i hi => ?_
    obtain ⟨hlt, p, hp, -, hname⟩ := mem_readyMembers.mp hi
    have hmem := List.mem_map_of_mem (f := fun p => (p.isReady, p.displayName)) hp
    rw [hnames] at hmem
    have hother : p.displayName = (clusterSample defaultReplicas).podName 1 :=
      congrArg Prod.snd (List.mem_singleton.mp hmem)
    have hsame : i = 1 := podName_injective (hname.symm.trans hother)
    omega
  refine ⟨pods, happroves, ?_⟩
  rw [hnone]
  decide

end ClusterOperator
