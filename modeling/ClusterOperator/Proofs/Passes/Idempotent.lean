import ClusterOperator.Proofs.Passes.Reports

/-!
# Passes that have nothing left to do

After a pass that applied the children, another pass that asks for the same finds all of them
settled, and only looks them up. After a pass that converged and could write its status, another
pass that meets the same pods and replies converges too. It finds the status that it would write,
so it changes nothing at all, whenever it runs.

## Main results

* `Surroundings.Smooth.reconcile_settled`: a pass over settled children writes none of them.
* `Surroundings.reconcile_converged`: what is stored after a pass that converged.
* `Surroundings.Calm.reconcile_steady`: a pass that changes nothing.
* `History.reconcile_idempotent`: the pass after another one.
-/

namespace ClusterOperator

open Kubernetes

/-! ### Passes over settled children -/

namespace Surroundings

variable {u : Surroundings} {settings : Settings} {space name domain : String} {d : Declaration}
  {p : Plan} {s : Store}

/-- Settled children are only looked up. -/
theorem Smooth.ensure_settled (smooth : u.Smooth)
    (spares : u.Spares (Key.IsChildOf p.space p.name))
    (hplan : Plan.ofDeclaration d domain = .ok p) {scene : Scene}
    (settled : scene.store.Settled p) :
    ∃ applied left, u.pass (ensure domain d) scene = (.ok applied, left) ∧
      left.calls = scene.calls ++ p.children.map fun child =>
        .request (childGet p.space child) := by
  obtain ⟨left, hall, hcalls⟩ := smooth.applyAll_unchanged spares
    (fun _ => Plan.childKey_isChildOf) scene settled
  exact ⟨_, left, (ensure_of_plan hplan).symm ▸ hall, hcalls⟩

theorem reads_childGets {space : String} {children : List ((c : Child) × c.Object)} :
    ∀ c ∈ children.map fun child => Call.request (childGet space child), c.Reads := by
  intro c hc
  obtain ⟨child, -, rfl⟩ := List.mem_map.mp hc
  exact rfl

/-- The calls of a pass over settled children are those that look it and its children up, and those
of the steps after the children. -/
theorem Smooth.run_reconcile_settled (smooth : u.Smooth)
    (spares : u.Spares (Key.IsChildOf space name))
    (fetched : (u.answer (.get .declaration space name) ⟨s, []⟩).1 = .ok (some d))
    (named : d.IsNamed space name)
    (hplan : Plan.ofDeclaration d.withDefaults settings.clusterDomain = .ok p)
    (settled : s.Settled p) :
    ∃ left, left.calls = .request (.get .declaration space name) ::
        (p.children.map fun child => .request (childGet p.space child)) ∧
      (∃ applied, u.pass (ensure settings.clusterDomain d.withDefaults)
        (u.requested (.get .declaration space name) ⟨s, []⟩) = (.ok applied, left)) ∧
      u.run (reconcile settings space name) ⟨s, []⟩ =
        (.ok (u.run (afterEnsure settings d.phase d.withDefaults) left).1,
          (u.run (afterEnsure settings d.phase d.withDefaults) left).2) := by
  obtain ⟨rfl, rfl⟩ := named.withDefaults.plan_eq hplan
  have hsettled : (u.requested (.get .declaration p.space p.name) ⟨s, []⟩).store.Settled p :=
    settled.of_same fun _ hkey => answer_get? spares hkey (.inl rfl) _
  obtain ⟨applied, left, hensure, hcalls⟩ := smooth.ensure_settled spares hplan hsettled
  refine ⟨left, hcalls, ⟨applied, hensure⟩, ?_⟩
  rw [u.run_reconcile_of_found fetched, u.run_runPass_of_ok hensure]

/-- A pass over settled children writes none of them. -/
theorem Smooth.reconcile_settled (smooth : u.Smooth)
    (spares : u.Spares (Key.IsChildOf space name))
    (fetched : (u.answer (.get .declaration space name) ⟨s, []⟩).1 = .ok (some d))
    (named : d.IsNamed space name)
    (hplan : Plan.ofDeclaration d.withDefaults settings.clusterDomain = .ok p)
    (settled : s.Settled p) :
    (∀ c ∈ (u.run (reconcile settings space name) ⟨s, []⟩).2.calls, c.Mild) ∧
      Store.SameChildren space name s (u.run (reconcile settings space name) ⟨s, []⟩).2.store := by
  have hcalls : ∀ c ∈ (u.run (reconcile settings space name) ⟨s, []⟩).2.calls, c.Mild := by
    obtain ⟨left, hleft, -, hrun⟩ := smooth.run_reconcile_settled spares fetched named hplan settled
    obtain ⟨more, hmore, hmild⟩ :=
      u.run_calls (afterEnsure_mild settings d.phase d.withDefaults) left
    rw [hrun]
    intro c hc
    rw [hmore, hleft] at hc
    rcases List.mem_append.mp hc with hc | hc
    · rcases List.mem_cons.mp hc with rfl | hc
      · exact .inl rfl
      · exact (reads_childGets c hc).mild
    · exact hmild c hc
  exact ⟨hcalls, fun key hkey => run_get?_of_calls spares hkey (List.nil_append _).symm fun c hc =>
    (hcalls c hc).spares hkey.kind_ne.1⟩

/-! ### Passes that converged -/

variable {scene left : Scene} {previous : Phase} {status : Option Status}

theorem run_afterEnsure_converged
    (h : (u.run (afterEnsure settings previous d) scene).1 = .converged) :
    ∃ prepared middle ready checked,
      u.run (prepare settings previous d) scene = (some prepared, middle) ∧
      u.pass (check settings.healthConcurrency prepared) middle = (.ok ready, checked) ∧
      (u.run (afterEnsure settings previous d) scene).2 =
        (u.run (report .running prepared) checked).2 := by
  rw [afterEnsure, run_bind] at h ⊢
  rcases hprepare : u.run (prepare settings previous d) scene with ⟨_ | prepared, middle⟩
  · rw [hprepare] at h
    cases h
  · rw [hprepare] at h
    rcases hcheck : u.pass (check settings.healthConcurrency prepared) middle with
      ⟨stop | ready, checked⟩
    · have hgiveUp := (congrArg Prod.fst (u.run_checkAndReport_of_error hcheck)).symm.trans h
      exact absurd hgiveUp (u.run_giveUp_ne_converged prepared stop checked)
    · exact ⟨prepared, middle, ready, checked, rfl, hcheck,
        congrArg Prod.snd (u.run_checkAndReport_of_ok hcheck)⟩

/-- After a pass that converged the servers are healthy, and the recorded status says that the
deployment runs. -/
theorem converged_afterEnsure (spares : u.Spares (Key.IsChildOf space name))
    (sparesPods : u.Spares fun key => key.kind = .pod ∧ key.space = space)
    (keeps : u.KeepsStatus space name) (keepsTidy : u.KeepsTidy) (named : d.IsNamed space name)
    (tidy : scene.store.Tidy) (records : scene.store.Records space name d.status)
    (converged : (u.run (afterEnsure settings previous d) scene).1 = .converged)
    (written : ∀ earlier d', (u.run (afterEnsure settings previous d) scene).2.calls =
      earlier ++ [.request (.updateStatus d')] → u.failure earlier (.updateStatus d') = none) :
    (u.run (afterEnsure settings previous d) scene).2.store.Healthy d u.probe ∧
      ∃ steady : Status, steady.Steady ∧
        (u.run (afterEnsure settings previous d) scene).2.store.Records space name
          (some steady) := by
  obtain ⟨prepared, middle, ready, checked, hprepare, hcheck, hend⟩ :=
    run_afterEnsure_converged converged
  rw [hend] at written ⊢
  have hmiddle : middle = (u.run (prepare settings previous d) scene).2 := hprepare ▸ rfl
  have hchecked : checked = (u.pass (check settings.healthConcurrency prepared) middle).2 :=
    hcheck ▸ rfl
  have hmiddleTidy : middle.store.Tidy := hmiddle ▸ run_tidy keepsTidy _ tidy
  have hcheckedTidy : checked.store.Tidy := hchecked ▸ run_tidy keepsTidy _ hmiddleTidy
  obtain ⟨after, status, rfl, hrecords, hagrees⟩ :=
    records_prepare keeps keepsTidy named tidy records hprepare
  -- The keys of the children and of the pods are all that the check looks at.
  let keys (key : Key) : Prop := key.IsChildOf space name ∨ (key.kind = .pod ∧ key.space = space)
  have hspares : u.Spares keys := fun earlier r s key hkey =>
    hkey.elim (spares earlier r s key) (sparesPods earlier r s key)
  have hafter : ∀ key, keys key →
      (u.run (report .running { d with status := after }) checked).2.store.get? key =
        middle.store.get? key := fun key hkey => by
    have hkind : key.kind ≠ .declaration := by
      rcases hkey with hchild | ⟨hpod, -⟩
      · exact hchild.kind_ne.1
      · exact hpod ▸ nofun
    rw [run_mild_get? hspares hkey hkind (report_within (Call.allowsReports_mild _) _), hchecked]
    exact run_mild_get? hspares hkey hkind
      (Program.Within.mono check_within fun _ => Call.Reads.mild) middle
  have hworkload : keys ⟨.statefulSet, d.metadata.spaceOrEmpty, d.displayName⟩ := by
    rw [named.spaceOrEmpty, named.name]
    exact .inl (.inr (.inl rfl))
  have hpods : ∀ pod, keys ⟨.pod, d.metadata.spaceOrEmpty, pod⟩ := fun pod => by
    rw [named.spaceOrEmpty]
    exact .inr ⟨rfl, rfl⟩
  constructor
  · obtain ⟨workload, pods, shows, hquorum, hwell⟩ :=
      healthy_of_check hspares hworkload hpods (congrArg Prod.fst hcheck)
    exact ⟨workload, pods, shows.congr rfl rfl rfl (hafter _ hworkload) fun pod =>
      hafter _ (hpods pod), hquorum, hwell⟩
  · have hchecks : checked.store.Records space name status :=
      hchecked ▸ run_records keeps (Program.Within.mono check_within fun _ hc => hc.spares _)
        hrecords
    obtain ⟨now, recorded, hrecorded, hor⟩ := records_report keeps keepsTidy
      (named.withStatus after) hcheckedTidy hchecks hagrees .running written
    refine ⟨recorded, ?_, hrecorded⟩
    rcases hor with rfl | rfl
    · exact Status.steady_recordRunning _ _
    · exact (Status.steady_recordRunning _ _).reread

/-- After a pass that applied the children, and then converged and wrote its status, the servers are
healthy, and the recorded status says that the deployment runs. -/
theorem reconcile_converged (spares : u.Spares (Key.IsChildOf space name))
    (sparesPods : u.Spares fun key => key.kind = .pod ∧ key.space = space)
    (keeps : u.KeepsStatus space name) (keepsTidy : u.KeepsTidy) (tidy : s.Tidy)
    (fetched : (u.answer (.get .declaration space name) ⟨s, []⟩).1 = .ok (some d))
    (named : d.IsNamed space name) {children : List Applied}
    (applied : u.pass (ensure settings.clusterDomain d.withDefaults)
      (u.requested (.get .declaration space name) ⟨s, []⟩) = (.ok children, left))
    (converged : (u.run (reconcile settings space name) ⟨s, []⟩).1 = .ok .converged)
    (written : ∀ earlier d', (u.run (reconcile settings space name) ⟨s, []⟩).2.calls =
      earlier ++ [.request (.updateStatus d')] → u.failure earlier (.updateStatus d') = none) :
    (u.run (reconcile settings space name) ⟨s, []⟩).2.store.Healthy d.withDefaults u.probe ∧
      ∃ steady : Status, steady.Steady ∧
        (u.run (reconcile settings space name) ⟨s, []⟩).2.store.Records space name
          (some steady) := by
  have hleft : left = (u.pass (ensure settings.clusterDomain d.withDefaults)
      (u.requested (.get .declaration space name) ⟨s, []⟩)).2 := applied ▸ rfl
  have htidy : left.store.Tidy := hleft ▸ run_tidy keepsTidy _ (answer_tidy keepsTidy _ tidy)
  have hwithin : (ensure settings.clusterDomain d.withDefaults).Within
      (Call.Spares ⟨.declaration, space, name⟩) := ensure_spares fun _ _ child _ heq =>
    child.1.kind_ne_declaration (congrArg Key.kind heq)
  have hrecorded : left.store.Records space name d.status :=
    hleft ▸ run_records keeps hwithin (records_get fetched)
  rw [u.run_reconcile_of_found fetched, u.run_runPass_of_ok applied] at converged written ⊢
  exact converged_afterEnsure spares sparesPods keeps keepsTidy named.withDefaults htidy hrecorded
    (Except.ok.inj converged) written

/-! ### Passes that change nothing -/

/-- A check and its report over healthy servers and a status that says that the deployment runs end
well and only read. -/
theorem Calm.run_checkAndReport_steady (settings : Settings) (calm : u.Calm)
    (healthy : scene.store.Healthy d u.probe) {steady : Status} (hstatus : d.status = some steady)
    (hsteady : steady.Steady) :
    ∃ left more, u.run (checkAndReport settings d) scene = (.converged, left) ∧
      left.calls = scene.calls ++ more ∧ ∀ c ∈ more, c.Reads := by
  obtain ⟨ready, hready⟩ := Calm.check_healthy settings.healthConcurrency calm healthy
  have hwithin : (check settings.healthConcurrency d).Within Call.Reads := check_within
  obtain ⟨more, hmore, hreads⟩ := u.run_calls hwithin scene
  rcases hcheck : u.pass (check settings.healthConcurrency d) scene with ⟨result, checked⟩
  rw [hcheck] at hready
  cases hready
  have hchecked : checked.calls = scene.calls ++ more :=
    (congrArg (·.2.calls) hcheck).symm.trans hmore
  let change (status : Status) : Status := status.record (u.clock checked.calls) .running
  have hsame : (d.mapStatus change).status = d.status := by
    show some (change (d.status.getD {})) = d.status
    rw [hstatus]
    exact congrArg some (hsteady.recordRunning_eq _)
  refine ⟨checked.after .clock, more ++ [.clock], ?_, ?_, fun c hc => ?_⟩
  · rw [u.run_checkAndReport_of_ok hcheck, u.run_report]
    exact congrArg (fun out : Declaration × Scene => (Outcome.converged, out.2))
      (u.run_updateStatus_of_eq hsame)
  · rw [Scene.calls_after, hchecked, List.append_assoc]
  · rcases List.mem_append.mp hc with hc | hc
    · exact hreads c hc
    · cases List.mem_singleton.mp hc
      trivial

/-- A pass over settled children, healthy servers and a status that says that the deployment runs
converges and changes nothing. -/
theorem Calm.reconcile_steady (calm : u.Calm)
    (stored : s.get .declaration space name = .ok (some d)) (named : d.IsNamed space name)
    (hplan : Plan.ofDeclaration d.withDefaults settings.clusterDomain = .ok p)
    (settled : s.Settled p) (healthy : s.Healthy d.withDefaults u.probe) {steady : Status}
    (hstatus : d.status = some steady) (hsteady : steady.Steady) :
    (u.run (reconcile settings space name) ⟨s, []⟩).1 = .ok .converged ∧
      (∀ c ∈ (u.run (reconcile settings space name) ⟨s, []⟩).2.calls, c.Reads) ∧
      (u.run (reconcile settings space name) ⟨s, []⟩).2.store = s := by
  have hanswer : s.answer (.get .declaration space name) = (.ok (some d), s) :=
    congrArg (·, s) stored
  have hfetched : u.requested (.get .declaration space name) ⟨s, []⟩ =
      ⟨s, [.request (.get .declaration space name)]⟩ := calm.requested_of_ok hanswer
  obtain ⟨left, hleft, ⟨applied, hensure⟩, hrun⟩ := calm.smooth.run_reconcile_settled
    (calm.spares _) (congrArg Prod.fst (calm.answer_of_ok hanswer)) named hplan settled
  rw [hfetched] at hensure
  have hstore : left.store = s := by
    have hkept : (u.pass (ensure settings.clusterDomain d.withDefaults)
        ⟨s, [.request (.get .declaration space name)]⟩).2.store = s :=
      calm.run_store ((congrArg (·.2.calls) hensure).trans hleft) reads_childGets
    exact (congrArg (·.2.store) hensure).symm.trans hkept
  have hphase : d.phase = .running := by
    rw [Declaration.phase, hstatus]
    exact hsteady.phase
  have hafter : afterEnsure settings d.phase d.withDefaults =
      checkAndReport settings d.withDefaults := by
    rw [hphase]
    rfl
  obtain ⟨ended, more, hend, hmore, hreads⟩ := Calm.run_checkAndReport_steady settings calm
    (hstore.symm ▸ healthy : left.store.Healthy d.withDefaults u.probe) hstatus hsteady
  rw [hafter, hend] at hrun
  have hcalls : ∀ c ∈ (u.run (reconcile settings space name) ⟨s, []⟩).2.calls, c.Reads := by
    intro c hc
    rw [hrun, hmore, hleft] at hc
    rcases List.mem_append.mp hc with hc | hc
    · rcases List.mem_cons.mp hc with rfl | hc
      · exact rfl
      · exact reads_childGets c hc
    · exact hreads c hc
  exact ⟨congrArg Prod.fst hrun, hcalls, calm.run_store (List.nil_append _).symm hcalls⟩

end Surroundings

/-! ### The pass after another one -/

/-- The children that are settled after a pass are so for another declaration that asks for the
same. -/
theorem Store.Settled.following {s s' : Store} {space name domain : String} {d d' : Declaration}
    {p : Plan} (settled : s.Settled p) (named : d.IsNamed space name)
    (hplan : Plan.ofDeclaration d.withDefaults domain = .ok p)
    (same : Store.SameChildren space name s s') (named' : d'.IsNamed space name)
    (hspec : d'.spec = d.spec) :
    ∃ q, Plan.ofDeclaration d'.withDefaults domain = .ok q ∧ s'.Settled q := by
  obtain ⟨rfl, rfl⟩ := named.withDefaults.plan_eq hplan
  have hdefaults : d'.withDefaults.spec = d.withDefaults.spec := congrArg Spec.withDefaults hspec
  obtain ⟨q, hq, agrees⟩ := Plan.exists_agrees hplan hdefaults
    (named'.name.trans named.name.symm) (named'.space.trans named.space.symm)
  exact ⟨q, hq, (settled.of_same same).of_agrees agrees⟩

/-- After any history, a pass that applied the children leaves all of them settled. -/
theorem History.reconcile_settles {space name : String} {s : Store}
    (history : History space name s) {settings : Settings} {u : Surroundings}
    (spares : u.Spares (Key.IsChildOf space name)) {d : Declaration}
    (fetched : (u.answer (.get .declaration space name) ⟨s, []⟩).1 = .ok (some d))
    (named : d.IsNamed space name) {children : List Applied} {left : Scene}
    (applied : u.pass (ensure settings.clusterDomain d.withDefaults)
      (u.requested (.get .declaration space name) ⟨s, []⟩) = (.ok children, left)) :
    ∃ p, Plan.ofDeclaration d.withDefaults settings.clusterDomain = .ok p ∧
      (u.run (reconcile settings space name) ⟨s, []⟩).2.store.Settled p := by
  obtain ⟨p, hplan⟩ := Surroundings.exists_plan_of_ensure applied
  obtain ⟨rfl, rfl⟩ := named.withDefaults.plan_eq hplan
  have hfit : (u.requested (.get .declaration p.space p.name) ⟨s, []⟩).store.ChildrenFit p.space
      p.name := history.childrenFit.congr fun _ hkey =>
    Surroundings.answer_get? spares hkey (.inl rfl) _
  have hsettled := Surroundings.ensure_settled spares hplan hfit (by rw [applied]; rfl)
  rw [applied] at hsettled
  refine ⟨p, hplan, ?_⟩
  rw [u.run_reconcile_of_found fetched, u.run_runPass_of_ok applied]
  exact hsettled.of_same
    (Surroundings.run_mild_sameChildren spares (afterEnsure_mild _ _ _) left)

/-- Passes are idempotent, after any history of passes over the deployment. If a pass applied the
children, then another one that asks for the same and meets no failure creates, updates and deletes
nothing. If besides it converged and could write its status, then another one that meets the same
pods and the same replies converges too, only reads, and leaves the store as it is, at whatever
time it runs. -/
theorem History.reconcile_idempotent {space name : String} {s : Store}
    (history : History space name s) (settings : Settings) {u : Surroundings}
    (spares : u.Spares (Key.IsChildOf space name)) (keepsTidy : u.KeepsTidy) {d : Declaration}
    (fetched : (u.answer (.get .declaration space name) ⟨s, []⟩).1 = .ok (some d))
    (named : d.IsNamed space name)
    (applied : (u.pass (ensure settings.clusterDomain d.withDefaults)
      (u.requested (.get .declaration space name) ⟨s, []⟩)).1.isOk = true) :
    let ended := u.run (reconcile settings space name) ⟨s, []⟩
    (∀ (u' : Surroundings) (s' : Store) (d' : Declaration),
      u'.Smooth → u'.Spares (Key.IsChildOf space name) →
      Store.SameChildren space name ended.2.store s' →
      (u'.answer (.get .declaration space name) ⟨s', []⟩).1 = .ok (some d') →
      d'.IsNamed space name → d'.spec = d.spec →
        let following := u'.run (reconcile settings space name) ⟨s', []⟩
        (∀ c ∈ following.2.calls, c.Mild) ∧
          Store.SameChildren space name s' following.2.store) ∧
    (ended.1 = .ok .converged →
      u.Spares (fun key => key.kind = .pod ∧ key.space = space) → u.KeepsStatus space name →
      (∀ earlier d' later, ended.2.calls = earlier ++ .request (.updateStatus d') :: later →
        u.failure earlier (.updateStatus d') = none) →
      ∀ (u' : Surroundings) (s' : Store) (d' : Declaration),
        u'.Calm → (∀ address, (u'.probe address).reply = (u.probe address).reply) →
        Store.SameChildren space name ended.2.store s' →
        (∀ pod, s'.get? ⟨.pod, space, pod⟩ = ended.2.store.get? ⟨.pod, space, pod⟩) →
        s'.get .declaration space name = .ok (some d') →
        d'.IsNamed space name → d'.spec = d.spec →
        ended.2.store.Records space name d'.status →
          let following := u'.run (reconcile settings space name) ⟨s', []⟩
          following.1 = .ok .converged ∧ (∀ c ∈ following.2.calls, c.Reads) ∧
            following.2.store = s') := by
  intro ended
  rcases hensure : u.pass (ensure settings.clusterDomain d.withDefaults)
      (u.requested (.get .declaration space name) ⟨s, []⟩) with ⟨stop | children, left⟩
  · rw [hensure] at applied
    cases applied
  obtain ⟨p, hplan, hsettled⟩ := history.reconcile_settles spares fetched named hensure
  refine ⟨fun u' s' d' smooth spares' same fetched' named' hspec => ?_,
    fun converged sparesPods keeps written u' s' d' calm replies same samePods stored' named' hspec
      recorded => ?_⟩
  · obtain ⟨q, hq, hsettled'⟩ := hsettled.following named hplan same named' hspec
    exact smooth.reconcile_settled spares' fetched' named' hq hsettled'
  · obtain ⟨q, hq, hsettled'⟩ := hsettled.following named hplan same named' hspec
    obtain ⟨healthy, steady, hsteady, hrecords⟩ := Surroundings.reconcile_converged spares
      sparesPods keeps keepsTidy history.tidy fetched named hensure converged
      fun earlier d' hcalls => written earlier d' [] hcalls
    have hworkload : Key.IsChildOf space name
        ⟨.statefulSet, d.metadata.spaceOrEmpty, d.displayName⟩ := by
      rw [named.spaceOrEmpty, named.name]
      exact .inr (.inl rfl)
    have hpods : ∀ pod, s'.get? ⟨.pod, d.metadata.spaceOrEmpty, pod⟩ =
        ended.2.store.get? ⟨.pod, d.metadata.spaceOrEmpty, pod⟩ := fun pod => by
      rw [named.spaceOrEmpty]
      exact samePods pod
    have healthy' : s'.Healthy d'.withDefaults u'.probe :=
      healthy.congr (named'.spaceOrEmpty.trans named.spaceOrEmpty.symm)
        (named'.name.trans named.name.symm)
        (congrArg (fun spec => spec.withDefaults.replicas) hspec) (same _ hworkload) hpods replies
    exact calm.reconcile_steady stored' named' hq hsettled' healthy'
      (recorded.unique hrecords) hsteady

/-! ### A deployment that runs -/

namespace Declaration

/-- A declaration that says that the deployment runs. -/
def runningSample : Declaration where
  metadata := { name := some "nc", space := some "default" }
  status := some (Status.recordRunning {} Instant.epoch)

/-- A ready pod of the deployment. -/
def readyPodSample : Pod where
  metadata :=
    { name := some "nc-0", space := some "default", labels := some (Labels.ofName "nc") }
  status := some
    { conditions := some [{ status := "True", type := "Ready" }], podIP := some "10.0.0.1" }

/-- The store in which they are the only objects. -/
def runningStore : Store where
  objects := (SortedMap.empty.insert ⟨.declaration, "default", "nc"⟩
    (Document.write runningSample)).insert ⟨.pod, "default", "nc-0"⟩
      (Document.write readyPodSample)

theorem runningStore_get : runningStore.get .declaration "default" "nc" =
    .ok (some (Document.reread runningSample)) := by
  have hne : (⟨.declaration, "default", "nc"⟩ : Key) ≠ ⟨.pod, "default", "nc-0"⟩ := by decide
  have hstored : runningStore.get? ⟨.declaration, "default", "nc"⟩ =
      some (Document.write runningSample) :=
    (SortedMap.get?_insert_of_ne _ _ hne).trans (SortedMap.get?_insert_self _ _ _)
  exact Store.get_eq_ok_some.mpr ⟨_, hstored, Document.read_write wellFormed runningSample⟩

theorem runningStore_history : History "default" "nc" runningStore := by
  refine .start ?_ fun key hkey => ?_
  · exact (Store.tidy_empty.insert _ (Kind.tidy_write .declaration runningSample) 0).insert _
      (Kind.tidy_write .pod readyPodSample) 0
  · refine (SortedMap.get?_insert_of_ne _ _ fun heq => ?_).trans
      (SortedMap.get?_insert_of_ne _ _ fun heq => ?_)
    · exact hkey.kind_ne.2 (congrArg Key.kind heq)
    · exact hkey.kind_ne.1 (congrArg Key.kind heq)

end Declaration

open Declaration Surroundings in
theorem runningSample_stays_the_same :
    let ended := well.run (reconcile {} "default" "nc") ⟨runningStore, []⟩
    let following := well.run (reconcile {} "default" "nc") ⟨ended.2.store, []⟩
    following.1 = .ok .converged ∧ (∀ c ∈ following.2.calls, c.Reads) ∧
      following.2.store = ended.2.store := by
  have hanswer : runningStore.answer (.get .declaration "default" "nc") =
      (.ok (some (Document.reread runningSample)), runningStore) :=
    congrArg (·, runningStore) runningStore_get
  have hidempotent := runningStore_history.reconcile_idempotent {} (calm_well.spares _)
    calm_well.keepsTidy (congrArg Prod.fst (calm_well.answer_of_ok hanswer))
    ⟨rfl, rfl⟩ (by decide)
  -- The first pass converges, and no call of it writes the declaration.
  have hpass : (well.run (reconcile {} "default" "nc") ⟨runningStore, []⟩).1.toOption =
      some .converged ∧ ∀ c ∈ (well.run (reconcile {} "default" "nc") ⟨runningStore, []⟩).2.calls,
        c.Spares ⟨.declaration, "default", "nc"⟩ := by
    decide +kernel
  have hkept : (well.run (reconcile {} "default" "nc") ⟨runningStore, []⟩).2.store.get?
      ⟨.declaration, "default", "nc"⟩ = runningStore.get? ⟨.declaration, "default", "nc"⟩ :=
    run_get?_of_calls (calm_well.spares fun _ => True) trivial (List.nil_append _).symm hpass.2
  generalize well.run (reconcile {} "default" "nc") ⟨runningStore, []⟩ = ended at *
  intro _ following
  have hconverged : ended.1 = .ok .converged := toOption_eq_some.mp hpass.1
  have hstored : ended.2.store.get .declaration "default" "nc" =
      .ok (some (Document.reread runningSample)) :=
    (Store.get_congr hkept).trans runningStore_get
  exact hidempotent.2 hconverged (calm_well.spares _) (calm_well.keepsStatus _ _)
    (fun _ _ _ _ => rfl) well ended.2.store (Document.reread runningSample) calm_well
    (fun _ => rfl) (fun _ _ => rfl) (fun _ => rfl) hstored
    ⟨rfl, rfl⟩ rfl ⟨_, hstored, rfl⟩

end ClusterOperator
