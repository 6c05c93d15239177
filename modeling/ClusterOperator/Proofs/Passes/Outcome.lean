import ClusterOperator.Proofs.Passes.Steps

/-!
# How a pass ends

In calm surroundings, over objects that can be read, a pass ends in one of four ways, and which it
is can be told from the declaration, the pods and the replies of their servers. A declaration that
makes no sense is refused. Otherwise the workload is there with the declared number of replicas
once the children are applied, whatever was stored before, and what is left to decide is whether
enough pods are ready and whether their servers are well.

## Main results

* `Surroundings.Calm.ensure_workload`: the workload after the children are applied.
* `Surroundings.Calm.reconcile_outcome`: how a pass ends.
-/

namespace ClusterOperator

open Kubernetes

theorem quorum_eq {r : Int} (h : 0 ≤ r) : quorum r = r / 2 + 1 := by
  rw [quorum, Int.tdiv_eq_ediv_of_nonneg h]

/-- The outcome of a pass as the ready pods of a workload decide it: too few of them, one whose
server is not well, or neither. -/
structure Outcome.DecidedBy (probe : String → TimedReply) (replicas : Signed32) (ready : List Pod)
    (outcome : Outcome) : Prop where
  quorumLost : outcome = .failed Fault.quorumLost ↔ (ready.length : Int) < replicas.val / 2 + 1
  unreachable : outcome = .failed Fault.serverUnreachable ↔
    replicas.val / 2 + 1 ≤ (ready.length : Int) ∧ ∃ p ∈ ready, ¬ p.target.Well probe
  converged : outcome = .converged ↔
    replicas.val / 2 + 1 ≤ (ready.length : Int) ∧ ∀ p ∈ ready, p.target.Well probe

namespace Outcome

variable {probe : String → TimedReply} {replicas : Signed32} {ready : List Pod} {outcome : Outcome}

theorem ready_cases (probe : String → TimedReply) (replicas : Signed32) (ready : List Pod) :
    (ready.length : Int) < replicas.val / 2 + 1 ∨
      (replicas.val / 2 + 1 ≤ (ready.length : Int) ∧ ∃ p ∈ ready, ¬ p.target.Well probe) ∨
      (replicas.val / 2 + 1 ≤ (ready.length : Int) ∧ ∀ p ∈ ready, p.target.Well probe) := by
  by_cases hfew : (ready.length : Int) < replicas.val / 2 + 1
  · exact .inl hfew
  · by_cases hwell : ∀ p ∈ ready, p.target.Well probe
    · exact .inr (.inr ⟨Int.not_lt.mp hfew, hwell⟩)
    · refine .inr (.inl ⟨Int.not_lt.mp hfew, ?_⟩)
      exact Classical.byContradiction fun hnone => hwell fun p hp =>
        Classical.byContradiction fun hnot => hnone ⟨p, hp, hnot⟩

/-- The three cases have different outcomes, so each outcome tells which case it was. -/
theorem decidedBy_of_cases
    (hfew : (ready.length : Int) < replicas.val / 2 + 1 → outcome = .failed Fault.quorumLost)
    (hunwell : replicas.val / 2 + 1 ≤ (ready.length : Int) → (∃ p ∈ ready, ¬ p.target.Well probe) →
      outcome = .failed Fault.serverUnreachable)
    (hwell : replicas.val / 2 + 1 ≤ (ready.length : Int) → (∀ p ∈ ready, p.target.Well probe) →
      outcome = .converged) : outcome.DecidedBy probe replicas ready := by
  have hquorum : Outcome.failed Fault.quorumLost ≠ .failed Fault.serverUnreachable := by decide
  rcases ready_cases probe replicas ready with h | ⟨h, p, hp, hnot⟩ | ⟨h, hall⟩
  · have houtcome := hfew h
    exact ⟨iff_of_true houtcome h, iff_of_false (houtcome ▸ hquorum) fun h' => by omega,
      iff_of_false (houtcome ▸ nofun) fun h' => by omega⟩
  · have houtcome := hunwell h ⟨p, hp, hnot⟩
    exact ⟨iff_of_false (houtcome ▸ hquorum.symm) (Int.not_lt.mpr h),
      iff_of_true houtcome ⟨h, p, hp, hnot⟩,
      iff_of_false (houtcome ▸ nofun) fun h' => hnot (h'.2 p hp)⟩
  · have houtcome := hwell h hall
    exact ⟨iff_of_false (houtcome ▸ nofun) (Int.not_lt.mpr h),
      iff_of_false (houtcome ▸ nofun) fun ⟨_, p, hp, hnot⟩ => hnot (hall p hp),
      iff_of_true houtcome ⟨h, hall⟩⟩

theorem DecidedBy.cases (h : outcome.DecidedBy probe replicas ready) :
    outcome = .failed Fault.quorumLost ∨ outcome = .failed Fault.serverUnreachable ∨
      outcome = .converged := by
  rcases ready_cases probe replicas ready with hcase | hcase | hcase
  · exact .inl (h.quorumLost.mpr hcase)
  · exact .inr (.inl (h.unreachable.mpr hcase))
  · exact .inr (.inr (h.converged.mpr hcase))

end Outcome

namespace Surroundings.Calm

variable {u : Surroundings} {settings : Settings} {d : Declaration} {scene : Scene}

/-- Once the children are applied, the workload is there with the declared number of replicas. -/
theorem ensure_workload (calm : u.Calm) (scene : Scene) (tidy : scene.store.Tidy)
    {domain : String} {p : Plan}
    (hplan : Plan.ofDeclaration d domain = .ok p)
    (readable : ∀ child ∈ p.children, ∃ found, scene.store.get child.1.kind p.space
      (child.1.kind.metadata child.2).displayName = .ok found) :
    ∃ applied left workload, u.pass (ensure domain d) scene = (.ok applied, left) ∧
      left.store.get .statefulSet p.space p.name = .ok (some workload) ∧
      StatefulSet.replicas? workload = some (d.spec.replicas.getD defaultReplicas) := by
  have hok := calm.applyAll_ok p.nodup_childKeys tidy readable
  have hattempted := applyAll_attempted (calm.spares fun _ => True) (fun _ _ => trivial)
    p.nodup_childKeys scene
  rw [ensure_of_plan hplan]
  rcases happly : u.pass (applyAll p.space p.children) scene with ⟨stop | applied, left⟩
  · rw [happly] at hok
    cases hok
  · rw [happly] at hattempted
    have hmem : (⟨.statefulSet, p.statefulSet⟩ : (c : Child) × c.Object) ∈ p.children :=
      List.mem_cons_of_mem _ List.mem_cons_self
    obtain ⟨j, workload, hj, hread, hsettled⟩ :=
      (hattempted _ hmem).settles.read (p.proper_children hmem)
    have hdrifted : StatefulSet.drifted p.statefulSet workload = false := by
      rcases hsettled with hsettled | ⟨_, _, _, _, hdiffers⟩
      · exact hsettled
      · cases hdiffers
    refine ⟨applied, left, workload, rfl, Store.get_eq_ok_some.mpr ⟨j, hj, hread⟩, ?_⟩
    have hcount : p.replicaCount = d.spec.replicas.getD defaultReplicas :=
      Subtype.ext (Plan.ofDeclaration_eq_ok hplan).2.2.2.2.2.1
    exact (StatefulSet.replicas?_of_not_drifted hdrifted).trans (congrArg some hcount)

/-- How a check and its report end. -/
theorem run_checkAndReport (settings : Settings) (calm : u.Calm)
    (answers : ∀ address, (u.probe address).reply ≠ .panicked)
    {workload : StatefulSet} {pods : List Pod} (shows : scene.store.Shows d workload pods) :
    let required := quorum (d.spec.replicas.getD defaultReplicas).val
    let ready := Pod.readyInOrder pods
    let outcome := (u.run (checkAndReport settings d) scene).1
    ((Pod.count ready).val < required → outcome = .failed Fault.quorumLost) ∧
      (required ≤ (Pod.count ready).val → (∃ p ∈ ready, ¬ p.target.Well u.probe) →
        outcome = .failed Fault.serverUnreachable) ∧
      (required ≤ (Pod.count ready).val → (∀ p ∈ ready, p.target.Well u.probe) →
        outcome = .converged) := by
  intro required ready outcome
  have hcheck : (u.pass (check settings.healthConcurrency d) scene).1 = _ :=
    calm.check_result shows
  have hfault : ∀ fault, (u.pass (check settings.healthConcurrency d) scene).1 =
      .error (.error (.fatal fault)) → outcome = .failed fault.code := by
    intro fault hresult
    rcases hrun : u.pass (check settings.healthConcurrency d) scene with ⟨result, left⟩
    rw [hrun] at hresult
    cases hresult
    show (u.run (checkAndReport settings d) scene).1 = _
    rw [u.run_checkAndReport_of_error hrun, u.run_giveUp_fatal]
  refine ⟨fun hfew => hfault _ (hcheck.trans (if_pos hfew)), fun henough hunwell => ?_,
    fun henough hwell => ?_⟩
  · have hjobs : ∀ job ∈ ready.map fun p => p.target.job u.probe, job.outcome ≠ .panicked := by
      intro job hjob
      obtain ⟨p, -, rfl⟩ := List.mem_map.mp hjob
      exact Target.outcome_ne_panicked answers
    obtain ⟨p, hp, hnot⟩ := hunwell
    obtain ⟨job, hjob, fault, hunwell, hone⟩ := Polling.exists_unwell hjobs
      ⟨_, List.mem_map.mpr ⟨p, hp, rfl⟩, fun h => hnot (Target.outcome_eq_healthy.mp h)⟩
    obtain ⟨p', -, rfl⟩ := List.mem_map.mp hjob
    have hpoll := (Polling.run_eq_oneByOne hjobs settings.healthConcurrency).trans hone
    have hresult := hcheck.trans (if_neg (Int.not_lt.mpr henough))
    exact (hfault fault (hresult.trans (congrArg _ hpoll))).trans
      (congrArg _ (Target.code_of_unwell hunwell))
  · obtain ⟨_, hresult⟩ := check_healthy settings.healthConcurrency calm
      ⟨workload, pods, shows, henough, hwell⟩
    rcases hrun : u.pass (check settings.healthConcurrency d) scene with ⟨result, left⟩
    rw [hrun] at hresult
    cases hresult
    show (u.run (checkAndReport settings d) scene).1 = _
    rw [u.run_checkAndReport_of_ok hrun]

/-- The scene in which the declaration is fetched. -/
theorem requested_declaration (calm : u.Calm) {s : Store} {space name : String}
    (stored : s.get .declaration space name = .ok (some d)) :
    (u.answer (.get .declaration space name) ⟨s, []⟩).1 = .ok (some d) ∧
      u.requested (.get .declaration space name) ⟨s, []⟩ =
        ⟨s, [.request (.get .declaration space name)]⟩ := by
  have hanswer : s.answer (.get .declaration space name) = (.ok (some d), s) :=
    congrArg (·, s) stored
  exact ⟨congrArg Prod.fst (calm.answer_of_ok hanswer), calm.requested_of_ok hanswer⟩

/-- A pass over a declaration that makes no sense writes nothing but its status. -/
theorem reconcile_refused (calm : u.Calm) {s : Store} {space name : String}
    (stored : s.get .declaration space name = .ok (some d))
    (hspace : d.metadata.space = some space) (refused : d.spec.Refused) :
    (u.run (reconcile settings space name) ⟨s, []⟩).1 = .ok (.failed Fault.badParameter) ∧
      (∀ c ∈ (u.run (reconcile settings space name) ⟨s, []⟩).2.calls, c.Mild) ∧
      ∀ key, key.kind ≠ .declaration →
        (u.run (reconcile settings space name) ⟨s, []⟩).2.store.get? key = s.get? key := by
  obtain ⟨hget, hscene⟩ := calm.requested_declaration stored
  obtain ⟨fault, hplan, hcode⟩ :=
    Plan.ofDeclaration_refused settings.clusterDomain hspace refused
  have hensure : ∀ scene, u.pass (ensure settings.clusterDomain d.withDefaults) scene =
      (.error (.error (.fatal fault)), scene) := fun scene => by
    rw [ensure_of_error hplan, pass_ofExcept]
    rfl
  rw [u.run_reconcile_of_found hget, hscene, u.run_runPass_of_error (hensure _)]
  refine ⟨?_, fun c hc => ?_, fun key hkey =>
    run_mild_get? (calm.spares fun _ => True) trivial hkey (giveUp_mild _ _) _⟩
  · rw [u.run_giveUp_fatal, hcode]
  · obtain ⟨more, hmore, hmild⟩ := u.run_calls (giveUp_mild d.withDefaults
      (.error (.fatal fault))) ⟨s, [.request (.get .declaration space name)]⟩
    rw [hmore] at hc
    rcases List.mem_append.mp hc with hc | hc
    · cases List.mem_singleton.mp hc
      exact .inl rfl
    · exact hmild c hc

/-- A pass over a declaration that makes sense applies its children, which leaves the workload with
the declared number of replicas and all pods as they were, and goes on from there. -/
theorem reconcile_ensured (calm : u.Calm) {s : Store} (tidy : s.Tidy)
    {space name : String} (stored : s.get .declaration space name = .ok (some d))
    (hspace : d.metadata.space = some space) (hname : d.displayName = name)
    (accepted : ¬ d.spec.Refused)
    (children : ∀ p, Plan.ofDeclaration d.withDefaults settings.clusterDomain = .ok p →
      ∀ child ∈ p.children, ∃ found, s.get child.1.kind space
        (child.1.kind.metadata child.2).displayName = .ok found) :
    ∃ middle workload,
      u.run (reconcile settings space name) ⟨s, []⟩ =
          (.ok (u.run (afterEnsure settings d.phase d.withDefaults) middle).1,
            (u.run (afterEnsure settings d.phase d.withDefaults) middle).2) ∧
        middle.store.get .statefulSet space name = .ok (some workload) ∧
        StatefulSet.replicas? workload = some (d.spec.replicas.getD defaultReplicas) ∧
        ∀ pod, middle.store.get? ⟨.pod, space, pod⟩ = s.get? ⟨.pod, space, pod⟩ := by
  obtain ⟨hget, hscene⟩ := calm.requested_declaration stored
  obtain ⟨p, hplan⟩ := Plan.exists_ofDeclaration settings.clusterDomain hspace accepted
  obtain ⟨-, hpname, hpspace, -⟩ := Plan.ofDeclaration_eq_ok hplan
  have hpname : p.name = name := hpname.trans hname
  have hpspace : p.space = space := Option.some.inj (hpspace.symm.trans hspace)
  obtain ⟨applied, middle, workload, hensure, hworkload, hreplicas⟩ :=
    calm.ensure_workload ⟨s, [.request (.get .declaration space name)]⟩ tidy hplan
      (hpspace ▸ children p hplan)
  rw [hpspace, hpname] at hworkload
  refine ⟨middle, workload, ?_, hworkload, hreplicas, fun pod => ?_⟩
  · rw [u.run_reconcile_of_found hget, hscene, u.run_runPass_of_ok hensure]
  · have hframe := pass_ensure_get? (calm.spares fun _ => True) ⟨.pod, space, pod⟩ trivial
      (fun c => c.kind_ne_pod) settings.clusterDomain d.withDefaults
      ⟨s, [.request (.get .declaration space name)]⟩
    rwa [hensure] at hframe

/-- Preparing leaves a check to find the workload and the pods that were there. -/
theorem shows_prepared (calm : u.Calm) (previous : Phase) (status : Option Status)
    {workload : StatefulSet} {pods : List Pod} (shows : scene.store.Shows d workload pods) :
    (u.run (prepare settings previous d) scene).2.store.Shows { d with status } workload pods := by
  have hprepared : ∀ key, key.kind ≠ .declaration →
      (u.run (prepare settings previous d) scene).2.store.get? key = scene.store.get? key :=
    fun key hkey => run_mild_get? (calm.spares fun _ => True) trivial hkey
      (prepare_within (fun _ => (Call.allowsReports_mild d).write) fun _ => trivial) scene
  exact shows.congr rfl rfl rfl (hprepared _ nofun) fun pod => hprepared _ nofun

/-- A pass over a declaration that makes sense: the stored workload has the declared number of
replicas, and its pods decide. -/
theorem reconcile_accepted (calm : u.Calm) (returned : u.healed = .returned)
    (answers : ∀ address, (u.probe address).reply ≠ .panicked) {s : Store} (tidy : s.Tidy)
    {space name : String} (stored : s.get .declaration space name = .ok (some d))
    (hspace : d.metadata.space = some space) (hname : d.displayName = name)
    (accepted : ¬ d.spec.Refused)
    (children : ∀ p, Plan.ofDeclaration d.withDefaults settings.clusterDomain = .ok p →
      ∀ child ∈ p.children, ∃ found, s.get child.1.kind space
        (child.1.kind.metadata child.2).displayName = .ok found)
    (few : ∀ selector pods, s.list .pod space selector = .ok pods → Pod.Countable pods)
    (listed : ∀ workload, (u.run (reconcile settings space name) ⟨s, []⟩).2.store.get .statefulSet
      space name = .ok (some workload) →
        ∃ pods, s.list .pod space (some (StatefulSet.podSelector workload)) = .ok pods) :
    ∃ workload pods,
      (u.run (reconcile settings space name) ⟨s, []⟩).2.store.get .statefulSet space name =
          .ok (some workload) ∧
        StatefulSet.replicas? workload = some (d.spec.replicas.getD defaultReplicas) ∧
        s.list .pod space (some (StatefulSet.podSelector workload)) = .ok pods ∧
        ∃ outcome, (u.run (reconcile settings space name) ⟨s, []⟩).1 = .ok outcome ∧
          outcome.DecidedBy u.probe (d.spec.replicas.getD defaultReplicas)
            (List.filter Pod.isReady pods) := by
  obtain ⟨middle, workload, hfinal, hworkload, hreplicas, hpods⟩ :=
    calm.reconcile_ensured tidy stored hspace hname accepted children
  -- What follows the children writes at most the status.
  have hafter : (u.run (afterEnsure settings d.phase d.withDefaults) middle).2.store.get?
      ⟨.statefulSet, space, name⟩ = middle.store.get? ⟨.statefulSet, space, name⟩ :=
    run_mild_get? (calm.spares fun _ => True) trivial (by nofun) (afterEnsure_mild _ _ _) middle
  have hstored : (u.run (reconcile settings space name) ⟨s, []⟩).2.store.get .statefulSet space
      name = .ok (some workload) := by
    rw [hfinal]
    exact (Store.get_congr hafter).trans hworkload
  obtain ⟨pods, hlisted⟩ := listed workload hstored
  refine ⟨workload, pods, hstored, hreplicas, hlisted, _, congrArg Prod.fst hfinal, ?_⟩
  obtain ⟨status, hrun⟩ := u.run_afterEnsure settings returned d.phase d.withDefaults middle
  have hspaceOrEmpty : d.metadata.spaceOrEmpty = space := congrArg (Option.getD · "") hspace
  have shows : middle.store.Shows d.withDefaults workload pods := by
    refine ⟨?_, hreplicas, ?_⟩
    · show Store.get _ .statefulSet d.metadata.spaceOrEmpty d.displayName = _
      rw [hspaceOrEmpty, hname]
      exact hworkload
    · show Store.list _ .pod d.metadata.spaceOrEmpty _ = _
      rw [hspaceOrEmpty]
      exact (Store.list_congr hpods _).trans hlisted
  obtain ⟨hfew, hunwell, hwell⟩ := run_checkAndReport settings calm answers
    (calm.shows_prepared d.phase status shows)
  have hnonneg : 0 ≤ (d.spec.replicas.getD defaultReplicas).val :=
    (d.spec.not_refused_iff.mp accepted).2.2
  have hcount : (Pod.count (Pod.readyInOrder pods)).val = (pods.filter Pod.isReady).length :=
    (few _ _ hlisted).readyInOrder.count_val.trans (congrArg _ (Pod.length_readyInOrder pods))
  rw [hrun]
  refine Outcome.decidedBy_of_cases ?_ ?_ ?_
  · rw [← quorum_eq hnonneg, ← hcount]
    exact hfew
  · rw [← quorum_eq hnonneg, ← hcount]
    rintro henough ⟨p, hp, hnot⟩
    exact hunwell henough ⟨p, Pod.mem_readyInOrder.mpr hp, hnot⟩
  · rw [← quorum_eq hnonneg, ← hcount]
    exact fun henough hall => hwell henough fun p hp => hall p (Pod.mem_readyInOrder.mp hp)

/-- How a pass ends, over any declaration stored under its own name and namespace and any other
contents of the store that can be read, with fewer than `2 ^ 31` pods, any status and any replies of
the servers. A declaration that makes no sense is refused with a bad parameter, and nothing but its
status is written. Otherwise the stored workload has the declared number of replicas, and the pass
converges if more than half as many of its pods are ready and their servers are well; it loses the
quorum if fewer are ready, and reports an unreachable server if one of them has no address, cannot
be asked, or gives another code than that of a healthy server. It never finds another number of
replicas than the declared one, and is never aborted. -/
theorem reconcile_outcome (settings : Settings) (calm : u.Calm) (returned : u.healed = .returned)
    (answers : ∀ address, (u.probe address).reply ≠ .panicked) {s : Store} (tidy : s.Tidy)
    {space name : String} (stored : s.get .declaration space name = .ok (some d))
    (hspace : d.metadata.space = some space) (hname : d.displayName = name)
    (children : ∀ p, Plan.ofDeclaration d.withDefaults settings.clusterDomain = .ok p →
      ∀ child ∈ p.children, ∃ found, s.get child.1.kind space
        (child.1.kind.metadata child.2).displayName = .ok found)
    (few : ∀ selector pods, s.list .pod space selector = .ok pods → Pod.Countable pods)
    (listed : ∀ workload, (u.run (reconcile settings space name) ⟨s, []⟩).2.store.get .statefulSet
      space name = .ok (some workload) →
        ∃ pods, s.list .pod space (some (StatefulSet.podSelector workload)) = .ok pods) :
    let ended := u.run (reconcile settings space name) ⟨s, []⟩
    let replicas := d.spec.replicas.getD defaultReplicas
    (ended.1 = .ok (.failed Fault.badParameter) ↔ d.spec.Refused) ∧
      (d.spec.Refused → (∀ c ∈ ended.2.calls, c.Mild) ∧
        ∀ key, key.kind ≠ .declaration → ended.2.store.get? key = s.get? key) ∧
      (¬ d.spec.Refused → ∃ workload pods outcome,
        ended.2.store.get .statefulSet space name = .ok (some workload) ∧
        StatefulSet.replicas? workload = some replicas ∧
        s.list .pod space (some (StatefulSet.podSelector workload)) = .ok pods ∧
        ended.1 = .ok outcome ∧
        outcome.DecidedBy u.probe replicas (List.filter Pod.isReady pods)) ∧
      ∃ outcome, ended.1 = .ok outcome ∧ outcome ≠ .failed Fault.replicaMismatch ∧
        outcome ≠ .aborted := by
  intro ended replicas
  have haccepted := fun accepted => calm.reconcile_accepted returned answers tidy stored hspace
    hname accepted children few listed
  have hends : ¬ d.spec.Refused → ended.1 = .ok (.failed Fault.quorumLost) ∨
      ended.1 = .ok (.failed Fault.serverUnreachable) ∨ ended.1 = .ok .converged := by
    intro accepted
    obtain ⟨_, _, -, -, -, outcome, hended, hdecided⟩ := haccepted accepted
    rcases hdecided.cases with rfl | rfl | rfl
    · exact .inl hended
    · exact .inr (.inl hended)
    · exact .inr (.inr hended)
  refine ⟨⟨fun h => ?_, fun h => (calm.reconcile_refused stored hspace h).1⟩, fun refused =>
    (calm.reconcile_refused stored hspace refused).2, fun accepted => ?_, ?_⟩
  · refine Classical.byContradiction fun accepted => ?_
    rcases hends accepted with hended | hended | hended
    · exact absurd (Except.ok.inj (h.symm.trans hended)) (by decide)
    · exact absurd (Except.ok.inj (h.symm.trans hended)) (by decide)
    · exact absurd (Except.ok.inj (h.symm.trans hended)) (by decide)
  · obtain ⟨workload, pods, hstored, hreplicas, hlisted, outcome, hended, hdecided⟩ :=
      haccepted accepted
    exact ⟨workload, pods, outcome, hstored, hreplicas, hlisted, hended, hdecided⟩
  · by_cases refused : d.spec.Refused
    · exact ⟨_, (calm.reconcile_refused stored hspace refused).1, by decide, by decide⟩
    · rcases hends refused with hended | hended | hended
      · exact ⟨_, hended, by decide, by decide⟩
      · exact ⟨_, hended, by decide, by decide⟩
      · exact ⟨_, hended, by decide, by decide⟩

end Surroundings.Calm

/-! ### A declaration without pods -/

namespace Declaration

/-- A declaration that leaves everything open but its name and namespace. -/
def plainSample : Declaration where
  metadata := { name := some "nc", space := some "default" }

/-- The store in which it is the only object. -/
def plainStore : Store where
  objects := SortedMap.empty.insert ⟨.declaration, "default", "nc"⟩ (Document.write plainSample)

theorem plainStore_get : plainStore.get .declaration "default" "nc" =
    .ok (some (Document.reread plainSample)) :=
  Store.get_eq_ok_some.mpr
    ⟨_, SortedMap.get?_insert_self _ _ _, Document.read_write wellFormed plainSample⟩

theorem plainStore_get?_of_ne (key : Key) (h : key.kind ≠ .declaration) :
    plainStore.get? key = ({} : Store).get? key :=
  SortedMap.get?_insert_of_ne _ _ fun heq => h (congrArg Key.kind heq)

theorem plainStore_tidy : plainStore.Tidy :=
  Store.tidy_empty.insert _ (Kind.tidy_write .declaration plainSample) _

theorem plainStore_list (selector : Option String) :
    plainStore.list .pod "default" selector = .ok [] :=
  (Store.list_congr (fun name => plainStore_get?_of_ne ⟨.pod, "default", name⟩ nofun)
    selector).trans rfl

end Declaration

open Declaration in
theorem plainSample_loses_quorum :
    (Surroundings.well.run (reconcile {} "default" "nc") ⟨plainStore, []⟩).1 =
      .ok (.failed Fault.quorumLost) := by
  obtain ⟨-, -, haccepted, -⟩ := Surroundings.calm_well.reconcile_outcome {} rfl (fun _ => nofun)
    plainStore_tidy plainStore_get rfl rfl
    (fun p _ child _ => ⟨none, Store.get_eq_ok_none.mpr
      (plainStore_get?_of_ne _ child.1.kind_ne_declaration)⟩)
    (fun selector pods hlisted => by
      cases (plainStore_list selector).symm.trans hlisted
      exact Int.natCast_nonneg 2147483647)
    (fun workload _ => ⟨[], plainStore_list _⟩)
  have haccept : ¬ (Document.reread plainSample).spec.Refused :=
    (Spec.not_refused_iff _).mpr ⟨Mode.parse_eq_ok.mpr (.inl rfl),
      Backend.parse_eq_ok.mpr (.inl rfl), by decide⟩
  obtain ⟨workload, pods, outcome, -, -, hlisted, hended, hdecided⟩ := haccepted haccept
  cases (plainStore_list _).symm.trans hlisted
  exact hended.trans (congrArg _ (hdecided.quorumLost.mpr (by decide)))

end ClusterOperator
