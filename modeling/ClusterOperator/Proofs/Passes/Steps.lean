import ClusterOperator.Proofs.Children.Plans
import ClusterOperator.Proofs.Health.Check
import ClusterOperator.Reconcile

/-!
# The steps of a pass

A pass is taken apart into its steps: children are applied, the status is prepared, the health is
checked, and what was found is reported. Each step is followed in any surroundings, and for each it
is said which documents it leaves alone. No step after the first writes anything but a status.

## Main definitions

* `checkAndReport`, `afterEnsure`: the steps from the check on, and those after the children.
* `Call.AllowsReports`: kinds of calls that are enough for a report.

## Main results

* `Surroundings.run_runPass_of_error`, `Surroundings.run_runPass_of_ok`: what follows the children.
* `afterEnsure_within`, `ensure_spares`: which calls the steps can make.
* `Surroundings.prepare_of_known`, `Surroundings.exists_status_of_prepare`: what a pass goes on with
  once the status is prepared.
-/

namespace ClusterOperator

open Kubernetes

/-! ### The status -/

/-- A declaration with its status changed. -/
def Declaration.mapStatus (change : Status → Status) (d : Declaration) : Declaration :=
  { d with status := some (change (d.status.getD {})) }

/-! ### The steps after the children -/

/-- The steps from the check on. -/
def checkAndReport (settings : Settings) (d : Declaration) : Program Outcome := do
  match ← (check settings.healthConcurrency d).run with
  | .error stop => giveUp d stop
  | .ok _ =>
    let _ ← report .running d
    return .converged

/-- The steps after the children. -/
def afterEnsure (settings : Settings) (previous : Phase) (d : Declaration) : Program Outcome := do
  match ← prepare settings previous d with
  | none => return .aborted
  | some d => checkAndReport settings d

theorem runPass_eq (settings : Settings) (fetched : Declaration) :
    runPass settings fetched = (ensure settings.clusterDomain fetched.withDefaults).run >>=
      fun result =>
        match result with
        | .error stop => giveUp fetched.withDefaults stop
        | .ok _ => afterEnsure settings fetched.phase fetched.withDefaults := by
  unfold runPass
  refine congrArg ((ensure settings.clusterDomain fetched.withDefaults).run >>= ·)
    (funext fun result => ?_)
  cases result with
  | error stop => rfl
  | ok applied => rfl

/-! ### The calls of the steps -/

/-- Calls of a kind are enough to report on a deployment: to read the clock, and to write its
status. -/
structure Call.AllowsReports (P : Call → Prop) (d : Declaration) : Prop where
  clock : P .clock
  write : ∀ status, P (.request (.updateStatus { d with status }))

theorem Call.allowsReports_mild (d : Declaration) : AllowsReports Mild d :=
  ⟨trivial, fun _ => .inr (.inr rfl)⟩

section Calls

variable {P : Call → Prop} {d : Declaration} {settings : Settings} {previous : Phase}

theorem updateStatus_within {change : Status → Status}
    (write : P (.request (.updateStatus (d.mapStatus change)))) :
    (updateStatus change d).Within P := by
  unfold updateStatus
  simp only
  split
  · exact Program.within_pure _
  · exact Program.Within.bind ⟨write, fun _ => trivial⟩ fun _ => Program.within_pure _

theorem report_within (allows : Call.AllowsReports P d) (r : Report) : (report r d).Within P :=
  Program.Within.bind (Program.within_perform allows.clock) fun _ =>
    updateStatus_within (allows.write _)

theorem giveUp_within (allows : Call.AllowsReports P d) (stop : Stop) :
    (giveUp d stop).Within P := by
  unfold giveUp
  split
  · exact (report_within allows _).bind fun _ => Program.within_pure _
  · exact Program.within_pure _
  · exact Program.within_pure _

/-- Only a new deployment is reported on before its health is checked, and only one that had failed
is given a remedy. -/
theorem prepare_within
    (write : previous = .none → ∀ status, P (.request (.updateStatus { d with status })))
    (heal : previous = .failed → P (.heal settings.healTimeout d)) :
    (prepare settings previous d).Within P := by
  cases previous with
  | none => exact (updateStatus_within (write rfl _)).bind fun _ => Program.within_pure _
  | failed =>
    refine Program.Within.bind (Program.within_perform (heal rfl)) fun healed => ?_
    cases healed <;> exact Program.within_pure _
  | creating => exact Program.within_pure _
  | running => exact Program.within_pure _
  | scale => exact Program.within_pure _

theorem checkAndReport_within (reads : ∀ c : Call, c.Reads → P c)
    (allows : Call.AllowsReports P d) : (checkAndReport settings d).Within P := by
  refine Program.Within.bind (Program.Within.mono Surroundings.check_within reads) fun result => ?_
  cases result with
  | error stop => exact giveUp_within allows _
  | ok ready => exact (report_within allows _).bind fun _ => Program.within_pure _

theorem afterEnsure_within (reads : ∀ c : Call, c.Reads → P c)
    (allows : ∀ d, Call.AllowsReports P d)
    (heal : previous = .failed → P (.heal settings.healTimeout d)) :
    (afterEnsure settings previous d).Within P := by
  refine (prepare_within (fun _ => (allows d).write) heal).bind fun prepared => ?_
  cases prepared with
  | none => exact Program.within_pure _
  | some prepared => exact checkAndReport_within reads (allows prepared)

theorem giveUp_mild (d : Declaration) (stop : Stop) : (giveUp d stop).Within Call.Mild :=
  giveUp_within (Call.allowsReports_mild d) stop

theorem afterEnsure_mild (settings : Settings) (previous : Phase) (d : Declaration) :
    (afterEnsure settings previous d).Within Call.Mild :=
  afterEnsure_within (fun _ => Call.Reads.mild) Call.allowsReports_mild fun _ => trivial

end Calls

/-! ### The children -/

theorem ensure_of_plan {domain : String} {d : Declaration} {p : Plan}
    (h : Plan.ofDeclaration d domain = .ok p) : ensure domain d = applyAll p.space p.children := by
  rw [ensure, h]
  rfl

theorem ensure_of_error {domain : String} {d : Declaration} {e : Error}
    (h : Plan.ofDeclaration d domain = .error e) :
    ensure domain d = Pass.ofExcept (.error e) := by
  rw [ensure, h]
  rfl

/-- Children that were applied are those of a plan. -/
theorem Surroundings.exists_plan_of_ensure {u : Surroundings} {domain : String} {d : Declaration}
    {scene left : Scene} {applied : List Applied}
    (h : u.pass (ensure domain d) scene = (.ok applied, left)) :
    ∃ p, Plan.ofDeclaration d domain = .ok p := by
  cases hplan : Plan.ofDeclaration d domain with
  | error e =>
    rw [ensure_of_error hplan, pass_ofExcept] at h
    cases h
  | ok p => exact ⟨p, rfl⟩

theorem ensure_within {P : Call → Prop} {domain : String} {d : Declaration}
    (allows : ∀ p, Plan.ofDeclaration d domain = .ok p → ∀ child ∈ p.children,
      Call.AllowsChild P p.space child) : Pass.Within P (ensure domain d) := by
  cases hplan : Plan.ofDeclaration d domain with
  | error e =>
    rw [ensure_of_error hplan]
    exact Pass.within_ofExcept _
  | ok p =>
    rw [ensure_of_plan hplan]
    exact Surroundings.applyAll_within (allows p hplan)

/-- Applying children leaves the documents alone that are none of them. -/
theorem ensure_spares {domain : String} {d : Declaration} {key : Key}
    (h : ∀ p, Plan.ofDeclaration d domain = .ok p → ∀ child ∈ p.children,
      childKey p.space child ≠ key) : Pass.Within (Call.Spares key) (ensure domain d) :=
  ensure_within fun p hplan child hchild => Call.allowsChild_spares (h p hplan child hchild)

/-! ### Runs of the steps -/

namespace Surroundings

variable (u : Surroundings) {settings : Settings} {d : Declaration} {scene left : Scene}

theorem run_updateStatus_of_eq {change : Status → Status}
    (h : (d.mapStatus change).status = d.status) :
    u.run (updateStatus change d) scene = (d.mapStatus change, scene) :=
  congrArg (u.run · scene) (if_pos h)

/-- A status is written if it changed. -/
theorem run_updateStatus_of_ne {change : Status → Status}
    (h : (d.mapStatus change).status ≠ d.status) :
    u.run (updateStatus change d) scene =
      (d.mapStatus change, u.requested (.updateStatus (d.mapStatus change)) scene) :=
  congrArg (u.run · scene) (if_neg h)

theorem run_updateStatus_fst (change : Status → Status) (d : Declaration) (scene : Scene) :
    (u.run (updateStatus change d) scene).1 = d.mapStatus change := by
  by_cases h : (d.mapStatus change).status = d.status
  · rw [u.run_updateStatus_of_eq h]
  · rw [u.run_updateStatus_of_ne h]

theorem run_report (r : Report) (d : Declaration) (scene : Scene) :
    u.run (report r d) scene =
      u.run (updateStatus (·.record (u.clock scene.calls) r) d) (scene.after .clock) := rfl

theorem run_giveUp_fatal (d : Declaration) (fault : Fault) (scene : Scene) :
    u.run (giveUp d (.error (.fatal fault))) scene =
      (.failed fault.code, (u.run (report (.failure fault.code fault.message) d) scene).2) := by
  rw [giveUp, run_bind]
  rfl

/-- A pass that gives up has not converged. -/
theorem run_giveUp_ne_converged (d : Declaration) (stop : Stop) (scene : Scene) :
    (u.run (giveUp d stop) scene).1 ≠ .converged := by
  unfold giveUp
  split
  · next fault =>
    rw [run_bind]
    nofun
  · nofun
  · nofun

theorem run_runPass_of_error {stop : Stop}
    (h : u.pass (ensure settings.clusterDomain d.withDefaults) scene = (.error stop, left)) :
    u.run (runPass settings d) scene = u.run (giveUp d.withDefaults stop) left := by
  rw [runPass_eq, run_bind]
  exact congrArg (fun out : Except Stop (List Applied) × Scene => u.run
    (match out.1 with
      | .error stop => giveUp d.withDefaults stop
      | .ok _ => afterEnsure settings d.phase d.withDefaults) out.2) h

theorem run_runPass_of_ok {applied : List Applied}
    (h : u.pass (ensure settings.clusterDomain d.withDefaults) scene = (.ok applied, left)) :
    u.run (runPass settings d) scene =
      u.run (afterEnsure settings d.phase d.withDefaults) left := by
  rw [runPass_eq, run_bind]
  exact congrArg (fun out : Except Stop (List Applied) × Scene => u.run
    (match out.1 with
      | .error stop => giveUp d.withDefaults stop
      | .ok _ => afterEnsure settings d.phase d.withDefaults) out.2) h

theorem run_checkAndReport_of_error {stop : Stop}
    (h : u.pass (check settings.healthConcurrency d) scene = (.error stop, left)) :
    u.run (checkAndReport settings d) scene = u.run (giveUp d stop) left := by
  rw [checkAndReport, run_bind]
  exact congrArg (fun out : Except Stop (List Pod) × Scene => u.run
    (match out.1 with
      | .error stop => giveUp d stop
      | .ok _ => do let _ ← report .running d; return .converged) out.2) h

theorem run_checkAndReport_of_ok {ready : List Pod}
    (h : u.pass (check settings.healthConcurrency d) scene = (.ok ready, left)) :
    u.run (checkAndReport settings d) scene = (.converged, (u.run (report .running d) left).2) := by
  rw [checkAndReport, run_bind]
  refine (congrArg (fun out : Except Stop (List Pod) × Scene => u.run
    (match out.1 with
      | .error stop => giveUp d stop
      | .ok _ => do let _ ← report .running d; return .converged) out.2) h).trans ?_
  rw [run_bind]
  rfl

/-- A pass over an object that is found. -/
theorem run_reconcile_of_found {space name : String}
    (h : (u.answer (.get .declaration space name) scene).1 = .ok (some d)) :
    u.run (reconcile settings space name) scene =
      (.ok (u.run (runPass settings d) (u.requested (.get .declaration space name) scene)).1,
        (u.run (runPass settings d) (u.requested (.get .declaration space name) scene)).2) := by
  rw [reconcile, run_bind, run_request, h]
  exact u.run_bind (runPass settings d) (fun outcome => pure (Except.ok outcome)) _

/-- What was seen before is prepared without a change. -/
theorem prepare_of_known {u : Surroundings} {previous : Phase} {prepared : Declaration}
    (known : previous ≠ .none)
    (h : u.run (prepare settings previous d) scene = (some prepared, left)) :
    prepared = d ∧ left.store = scene.store := by
  cases previous with
  | none => exact absurd rfl known
  | failed =>
    rw [prepare, run_bind, run_heal] at h
    cases hhealed : u.healed with
    | returned =>
      rw [hhealed] at h
      cases h
      exact ⟨rfl, rfl⟩
    | panicked =>
      rw [hhealed] at h
      cases h
  | creating | running | scale =>
    cases h
    exact ⟨rfl, rfl⟩

/-- What a pass goes on with after preparing is the same deployment but for its status. -/
theorem exists_status_of_prepare {u : Surroundings} {previous : Phase} {prepared : Declaration}
    (h : (u.run (prepare settings previous d) scene).1 = some prepared) :
    ∃ status, prepared = { d with status } := by
  by_cases known : previous = .none
  · rw [known, prepare, run_bind, markCreating, run_updateStatus_fst] at h
    exact ⟨_, (Option.some.inj h).symm⟩
  · obtain ⟨rfl, -⟩ := prepare_of_known known (Prod.ext h rfl)
    exact ⟨prepared.status, rfl⟩

/-- Preparing changes at most the status, and comes to an end if the remedy does. -/
theorem run_prepare (settings : Settings) (returned : u.healed = .returned) (previous : Phase)
    (d : Declaration) (scene : Scene) :
    ∃ status, (u.run (prepare settings previous d) scene).1 = some { d with status } := by
  cases previous with
  | none =>
    refine ⟨some { d.status.getD {} with phase := .creating }, ?_⟩
    rw [prepare, run_bind]
    exact congrArg some (u.run_updateStatus_fst _ d scene)
  | failed =>
    refine ⟨d.status, ?_⟩
    rw [prepare, run_bind, run_heal, returned]
    rfl
  | creating => exact ⟨d.status, rfl⟩
  | running => exact ⟨d.status, rfl⟩
  | scale => exact ⟨d.status, rfl⟩

/-- What follows the children is a check of the same deployment, if the remedy comes to an end. -/
theorem run_afterEnsure (settings : Settings) (returned : u.healed = .returned) (previous : Phase)
    (d : Declaration) (scene : Scene) :
    ∃ status, u.run (afterEnsure settings previous d) scene =
      u.run (checkAndReport settings { d with status })
        (u.run (prepare settings previous d) scene).2 := by
  obtain ⟨status, hstatus⟩ := u.run_prepare settings returned previous d scene
  refine ⟨status, ?_⟩
  rw [afterEnsure, run_bind, hstatus]

/-! ### What the steps leave alone -/

variable {u} {keys : Key → Prop}

/-- Applying children leaves alone what is of no kind of children. -/
theorem pass_ensure_get? (spares : u.Spares keys) (key : Key) (hkey : keys key)
    (hkind : ∀ c : Child, c.kind ≠ key.kind) (domain : String) (d : Declaration) (scene : Scene) :
    (u.pass (ensure domain d) scene).2.store.get? key = scene.store.get? key :=
  run_get? spares hkey
    (ensure_spares fun _ _ child _ heq => hkind child.1 (congrArg Key.kind heq)) scene

theorem run_mild_get? {α : Type} (spares : u.Spares keys) {key : Key} (hkey : keys key)
    (hkind : key.kind ≠ .declaration) {p : Program α} (h : p.Within Call.Mild) (scene : Scene) :
    (u.run p scene).2.store.get? key = scene.store.get? key :=
  run_get? spares hkey (h.mono fun _ hc => hc.spares hkind) scene

end Surroundings

end ClusterOperator
