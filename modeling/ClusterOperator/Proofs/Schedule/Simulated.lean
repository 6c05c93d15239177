import ClusterOperator.Proofs.Schedule.Runs
import ClusterOperator.Simulation

/-!
# A simulated day is a run of the controller

What the controller goes through in a simulation is a run: what the script and the passes themselves
write is delivered, and a pass that is taken begins and ends, or is dropped. So what holds of every
run of the controller holds of every simulated day.

## Main definitions

* `Controller.Reached`: a run has led to a controller by a time.
* `Simulation.Hears`: within a second there are deliveries only.

## Main results

* `Simulation.hears_run`: a program that is run in a simulation causes deliveries only.
* `Simulation.isReached_run`: the controller of a simulated day is reached by a run.
-/

namespace ClusterOperator

namespace Controller

/-- A run has led to a controller by a time. -/
def Reached (settings : Settings) (now : Nat) (c : Controller) : Prop :=
  ∃ log last, last ≤ now ∧ Run settings 0 {} log last c

variable {settings : Settings} {now : Nat} {c : Controller}

theorem Reached.later (h : Reached settings now c) {time : Nat} (later : now ≤ time) :
    Reached settings time c := by
  obtain ⟨log, last, hle, run⟩ := h
  exact ⟨log, last, Nat.le_trans hle later, run⟩

theorem Reached.react (h : Reached settings now c) {o : Occurrence} (admits : c.Admits now o) :
    Reached settings now (c.react settings now o) := by
  obtain ⟨log, last, hle, run⟩ := h
  exact ⟨_, now, Nat.le_refl now, run.append (.cons hle admits (.nil now _))⟩

/-- The controller after several deliveries at a time. -/
def deliverAll (c : Controller) (now : Nat) (deliveries : List Delivery) : Controller :=
  deliveries.foldl (·.deliver now) c

theorem Reached.deliverAll (h : Reached settings now c) (deliveries : List Delivery) :
    Reached settings now (c.deliverAll now deliveries) := by
  induction deliveries generalizing c with
  | nil => exact h
  | cons delivery rest ih => exact ih (h.react (o := .delivered delivery) trivial)

theorem running_deliverAll (c : Controller) (now : Nat) (deliveries : List Delivery) :
    (c.deliverAll now deliveries).running = c.running := by
  induction deliveries generalizing c with
  | nil => rfl
  | cons delivery rest ih => exact (ih _).trans (c.running_deliver now delivery)

end Controller

namespace Simulation

/-- The controller of a simulation is reached by a run. -/
def IsReached (s : Simulation) : Prop := Controller.Reached s.settings s.now s.controller

/-- Within a second there are deliveries only from one simulation to the other one. -/
structure Hears (s s' : Simulation) : Prop where
  settings : s'.settings = s.settings
  now : s'.now = s.now
  controller : ∃ deliveries, s'.controller = s.controller.deliverAll s.now deliveries

variable {s s' s'' : Simulation}

namespace Hears

theorem refl (s : Simulation) : s.Hears s := ⟨rfl, rfl, [], rfl⟩

theorem trans (h : s.Hears s') (h' : s'.Hears s'') : s.Hears s'' := by
  obtain ⟨hsettings, hnow, deliveries, hcontroller⟩ := h
  obtain ⟨hsettings', hnow', deliveries', hcontroller'⟩ := h'
  refine ⟨hsettings'.trans hsettings, hnow'.trans hnow, deliveries ++ deliveries', ?_⟩
  rw [hcontroller', hnow, hcontroller]
  exact List.foldl_append.symm

theorem isReached (h : s.Hears s') (reached : s.IsReached) : s'.IsReached := by
  obtain ⟨hsettings, hnow, deliveries, hcontroller⟩ := h
  rw [IsReached, hsettings, hnow, hcontroller]
  exact reached.deliverAll deliveries

theorem running (h : s.Hears s') : s'.controller.running = s.controller.running := by
  obtain ⟨-, -, deliveries, hcontroller⟩ := h
  rw [hcontroller, Controller.running_deliverAll]

/-- What is done for each member of a list. -/
theorem foldl {α : Type} {f : Simulation → α → Simulation}
    (step : ∀ (s : Simulation) (a : α), s.Hears (f s a))
    (s : Simulation) (l : List α) : s.Hears (l.foldl f s) := by
  induction l generalizing s with
  | nil => exact refl s
  | cons a rest ih => exact (step s a).trans (ih (f s a))

end Hears

/-! ### Deliveries -/

theorem hears_deliver (s : Simulation) (key : Key) (gone : Bool) (document : Option Json) :
    s.Hears (s.deliver key gone document) := by
  unfold deliver
  split
  · next delivery _ =>
    split
    · exact ⟨rfl, rfl, [delivery], rfl⟩
    · exact .refl s
  · exact .refl s

theorem hears_announce (s : Simulation) (key : Key) : s.Hears (s.announce key) :=
  s.hears_deliver key false _

theorem hears_watch (s : Simulation) : s.Hears s.watch := by
  have hstarted : s.Hears { s with watching := true } := ⟨rfl, rfl, [], rfl⟩
  exact hstarted.trans (.foldl hears_announce _ _)

theorem hears_store (s : Simulation) (store : Store) : s.Hears { s with store } :=
  ⟨rfl, rfl, [], rfl⟩

/-- What the script does is delivered or makes no difference to the controller. -/
theorem hears_step (s : Simulation) (step : Step) : s.Hears (s.step step) := by
  cases step with
  | put key object => exact (s.hears_store _).trans (hears_announce _ key)
  | patch key merge => exact (s.hears_store _).trans (hears_announce _ key)
  | remove key => exact (s.hears_store _).trans (hears_deliver _ key true _)
  | vanish key => exact s.hears_store _
  | inject i => exact ⟨rfl, rfl, [], rfl⟩
  | clearInjections => exact ⟨rfl, rfl, [], rfl⟩

/-! ### Passes -/

theorem hears_deliverResult (s : Simulation) (r : Request) (before : Option Json) :
    s.Hears (s.deliverResult r before) := by
  unfold deliverResult
  split
  · exact s.hears_announce _
  · exact s.hears_announce _
  · exact s.hears_announce _
  · exact s.hears_deliver _ true before
  · exact .refl s
  · exact .refl s

theorem hears_answer (s : Simulation) (r : Request) : s.Hears (s.answer r).2 := by
  unfold answer
  split
  · exact ⟨rfl, rfl, [], rfl⟩
  · split
    · next result store _ =>
      have hstored : s.Hears { s.logged r none with store } := ⟨rfl, rfl, [], rfl⟩
      exact hstored.trans (hears_deliverResult _ r _)
    · exact ⟨rfl, rfl, [], rfl⟩

/-- A program that is run in a simulation causes deliveries only. -/
theorem hears_run {α : Type} (program : Program α) (s : Simulation) :
    s.Hears (program.run world s).2 := by
  induction program generalizing s with
  | done a => exact .refl s
  | call c next ih =>
    have hreplied : s.Hears (world.reply c s).2 := by
      cases c with
      | request r => exact s.hears_answer r
      | poll limit targets => exact .refl s
      | heal limit d => exact .refl s
      | clock => exact .refl s
    exact hreplied.trans (ih _ _)

/-- A pass that is running ends, and there are deliveries until then. -/
theorem isReached_pass {key : Key} (reached : s.IsReached)
    (running : s.controller.cache.contains key = true → key ∈ s.controller.running) :
    (s.pass key).IsReached := by
  unfold pass
  split
  · exact reached
  · next d hcached =>
    have hears := hears_run (reconcile s.settings d.metadata.spaceOrEmpty d.displayName) s
    have hrunning : key ∈ s.controller.running := running (congrArg Option.isSome hcached)
    have hended := (hears.isReached reached).react
      (o := .ended key ((reconcile s.settings d.metadata.spaceOrEmpty d.displayName).run world s).1)
      (show key ∈ _ from hears.running ▸ hrunning)
    exact hended

/-- The passes that are due begin and end, or are dropped. -/
theorem isReached_settle (passes : Nat) (reached : s.IsReached) : (settle passes s).IsReached := by
  induction passes generalizing s with
  | zero => exact reached
  | succ passes ih =>
    unfold settle
    split
    · exact reached
    · next key controller htake =>
      obtain ⟨o, hadmits, rfl, hends⟩ := Controller.admits_of_take? s.settings htake
      refine ih (isReached_pass (reached.react hadmits) fun hcached => ?_)
      rcases hends with ⟨rfl, -⟩ | ⟨rfl, hgone⟩
      · exact List.mem_cons_self
      · cases hcached.symm.trans hgone

/-! ### Time -/

theorem isReached_advance (last seconds : Nat) (script : List (Nat × Step))
    (reached : s.IsReached) : (advance last seconds script s).IsReached := by
  induction seconds generalizing script s with
  | zero => exact reached
  | succ seconds ih =>
    unfold advance
    have hsettled := isReached_settle passesPerSecond
      ((Hears.foldl hears_step s (split s.now script).1).isReached reached)
    simp only
    split
    · exact hsettled
    · split
      · exact hsettled
      · exact ih _ (hsettled.later (Nat.le_trans (Nat.le_succ _) (Nat.le_max_right _ _)))

/-- At the end of a simulated day the controller has been reached by a run, whatever the script. -/
theorem isReached_run (settings : Settings) (start : Instant) (script : List (Nat × Step))
    (last : Nat) : (run { settings, start } script last).IsReached := by
  have hstart : IsReached { settings, start } := ⟨[], 0, Nat.le_refl 0, .nil 0 {}⟩
  have hscript := (Hears.foldl hears_step { settings, start }
    ((script.filter (·.1 = 0)).map (·.2))).isReached hstart
  exact isReached_advance last _ _ ((hears_watch _).isReached hscript)

end Simulation

end ClusterOperator
