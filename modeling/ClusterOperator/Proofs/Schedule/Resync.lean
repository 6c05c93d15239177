import ClusterOperator.Proofs.Schedule.Edits

/-!
# No deployment is forgotten

At every moment of a run a deployment that has had a pass, and has been known since it ended, has a
next one: either a pass of it is running, or exactly one is due, no later than the pause after the
last one. Only a pass that did not find its deployment is not followed by another one, until there
is a delivery about the deployment or about a child of it.

## Main definitions

* `Controller.LastPass`: the last pass of a deployment, with what happened before, meanwhile and
  since.
* `Controller.Upcoming`: a pass is running, or one is due by a time.

## Main results

* `Controller.Run.exists_lastPass`: a deployment of which a pass has ended has a last one.
* `Controller.Run.running_iff`: a pass is running exactly if one has begun since.
* `Controller.Run.upcoming_of_pause`: after a pass with a pause there is a next one by its end.
* `Controller.Run.concerned_of_upcoming`: after a pass that found nothing there is a next one only
  because of a delivery.
* `Controller.Run.not_forgotten`: all of this, by the way the last pass ended.
-/

namespace ClusterOperator

/-- A list with a member of a kind has a last one. -/
theorem List.exists_last_of_mem {α : Type} {P : α → Prop} {l : List α} (h : ∃ x ∈ l, P x) :
    ∃ before x after, l = before ++ x :: after ∧ P x ∧ ∀ y ∈ after, ¬ P y := by
  induction l with
  | nil =>
    obtain ⟨x, hx, -⟩ := h
    cases hx
  | cons y rest ih =>
    by_cases hrest : ∃ x ∈ rest, P x
    · obtain ⟨before, x, after, rfl, hx, hafter⟩ := ih hrest
      exact ⟨y :: before, x, after, rfl, hx, hafter⟩
    · have hnone : ∀ z ∈ rest, ¬ P z := fun z hz hPz => hrest ⟨z, hz, hPz⟩
      obtain ⟨x, hx, hPx⟩ := h
      rcases List.mem_cons.mp hx with rfl | hx
      · exact ⟨[], x, rest, rfl, hPx, hnone⟩
      · exact absurd hPx (hnone x hx)

namespace Controller

/-- The last pass of a deployment, with what happened before, meanwhile and since. -/
structure LastPass where
  before : List (Nat × Occurrence)
  began : Nat
  meanwhile : List (Nat × Occurrence)
  ended : Nat
  result : Except Error Outcome
  since : List (Nat × Occurrence)

/-- What happened until the pass had ended. -/
def LastPass.untilEnd (p : LastPass) (key : Key) : List (Nat × Occurrence) :=
  p.before ++ (p.began, .begun key) :: p.meanwhile ++ [(p.ended, .ended key p.result)]

/-- The controller when the pass had ended. -/
def LastPass.left (p : LastPass) (settings : Settings) (key : Key) : Controller :=
  ({} : Controller).follow settings (p.untilEnd key)

/-- A pass is the last one of a deployment that has ended. -/
structure LastPass.IsLast (p : LastPass) (key : Key) (log : List (Nat × Occurrence)) : Prop where
  log_eq : log = p.untilEnd key ++ p.since
  meanwhile : ∀ e ∈ p.meanwhile, ¬ e.2.Ends key
  since : ∀ e ∈ p.since, ¬ e.2.Ends key

/-- A pass of a deployment is running, or exactly one is due, by a time at the latest. -/
def Upcoming (c : Controller) (key : Key) (latest : Nat) : Prop :=
  key ∈ c.running ∨ ∃ t ≤ latest, c.nextPasses key = [t]

variable {settings : Settings} {c c' : Controller} {now last : Nat} {key : Key} {o : Occurrence}
  {log : List (Nat × Occurrence)}

/-- A delivery makes the next pass of a deployment due earlier if at all. -/
theorem nextPasses_deliver (c : Controller) (now : Nat) (delivery : Delivery) {t : Nat}
    (h : c.nextPasses key = [t]) : ∃ t' ≤ t, (c.deliver now delivery).nextPasses key = [t'] := by
  rw [nextPasses_eq, Option.toList_eq_singleton_iff] at h
  simp only [nextPasses_eq, Option.toList_eq_singleton_iff, due_deliver, h]
  split
  · exact ⟨_, earlier_some_le t now, rfl⟩
  · exact ⟨t, Nat.le_refl t, rfl⟩

/-- A pass that has ended is not running. -/
theorem not_mem_running_of_ends (ends : o.Ends key) : key ∉ (c.react settings now o).running := by
  cases o with
  | ended other result =>
    obtain rfl : other = key := ends
    exact (c.unchanged_finish settings now other result).2.2.symm ▸ fun hmem =>
      of_decide_eq_true (List.mem_filter.mp hmem).2 rfl
  | _ => exact ends.elim

namespace Run

/-- A pass that is running and was not at the start has begun, and has not ended since. -/
theorem begun_of_running (run : Run settings now c log last c') (running : key ∈ c'.running) :
    (key ∈ c.running ∧ ∀ e ∈ log, ¬ e.2.Ends key) ∨
      ∃ before began meanwhile, log = before ++ (began, .begun key) :: meanwhile ∧
        ∀ e ∈ meanwhile, ¬ e.2.Ends key := by
  induction run with
  | nil => exact .inl ⟨running, fun e he => nomatch he⟩
  | @cons now time last c c' o log later admits rest ih =>
    rcases ih running with ⟨hmem, hlog⟩ | ⟨before, began, meanwhile, rfl, hmeanwhile⟩
    · by_cases begins : o.Begins key
      · cases o with
        | begun other =>
          obtain rfl : other = key := begins
          exact .inr ⟨[], time, log, rfl, hlog⟩
        | _ => exact begins.elim
      · have hrunning : key ∈ c.running :=
          Decidable.not_imp_not.mp (not_mem_running_react begins) hmem
        have hends : ¬ o.Ends key := fun ends => not_mem_running_of_ends ends hmem
        exact .inl ⟨hrunning, List.forall_mem_cons.mpr ⟨hends, hlog⟩⟩
    · exact .inr ⟨(time, o) :: before, began, meanwhile, rfl, hmeanwhile⟩

/-- A deployment of which a pass has ended has a last one. -/
theorem exists_lastPass (run : Run settings 0 {} log last c) (ended : ∃ e ∈ log, e.2.Ends key) :
    ∃ p : LastPass, p.IsLast key log := by
  obtain ⟨first, e, since, rfl, hends, hsince⟩ := List.exists_last_of_mem ended
  obtain ⟨time, o⟩ := e
  cases o with
  | ended other result =>
    obtain rfl : other = key := hends
    obtain ⟨middle, between, hfirst, hrest⟩ := run.split
    cases hrest with
    | cons later admits rest =>
      rcases hfirst.begun_of_running admits with ⟨hmem, -⟩ | ⟨before, began, meanwhile, rfl, h⟩
      · cases hmem
      · refine ⟨⟨before, began, meanwhile, time, result, since⟩, ?_, h, hsince⟩
        simp [LastPass.untilEnd]
  | _ => exact hends.elim

/-- When the last pass had begun, first came what happened meanwhile, then its end, and then what
happened since. -/
theorem parts {p : LastPass} (run : Run settings 0 {} log last c) (isLast : p.IsLast key log) :
    ∃ (first : Controller) (middle : Nat) (during : Controller),
      Run settings p.began (first.react settings p.began (.begun key)) p.meanwhile middle during ∧
      p.left settings key = during.finish settings p.ended key p.result ∧
      Run settings p.ended (p.left settings key) p.since last c := by
  obtain ⟨ending, afterwards, huntil, hsince⟩ := (isLast.log_eq ▸ run).split
  obtain ⟨middle, during, hduring, hended⟩ := huntil.split
  obtain ⟨_, first, -, hbegun⟩ := hduring.split
  have hleft : afterwards = p.left settings key := huntil.eq_follow
  cases hbegun with
  | cons later admits hmeanwhile =>
    cases hended with
    | cons later' admits' rest =>
      cases rest
      exact ⟨first, middle, during, hmeanwhile, hleft.symm, hleft ▸ hsince⟩

/-- When the last pass has ended, none is running. -/
theorem not_mem_running_left {p : LastPass} (run : Run settings 0 {} log last c)
    (isLast : p.IsLast key log) : key ∉ (p.left settings key).running := by
  obtain ⟨_, _, during, -, hleft, -⟩ := run.parts isLast
  rw [hleft]
  exact @not_mem_running_of_ends settings during p.ended key (.ended key p.result) rfl

/-- A pass is running exactly if one has begun since the last one ended. -/
theorem running_iff {p : LastPass} (run : Run settings 0 {} log last c)
    (isLast : p.IsLast key log) : key ∈ c.running ↔ ∃ e ∈ p.since, e.2.Begins key := by
  obtain ⟨_, _, _, -, -, hsince⟩ := run.parts isLast
  constructor
  · intro hrunning
    refine Classical.byContradiction fun hnone => ?_
    refine hsince.preserves (P := fun c => key ∉ c.running) (Q := fun o => ¬ o.Begins key) ?_
      (run.not_mem_running_left isLast) (fun e he hbegins => hnone ⟨e, he, hbegins⟩) hrunning
    exact fun c time o _ hbegins hidle => not_mem_running_react hbegins hidle
  · exact fun hbegun => hsince.running_of_begins isLast.since (.inr hbegun)

/-- After a pass with a pause there is a next one by its end, as long as the deployment is known. -/
theorem upcoming_of_pause {p : LastPass} (run : Run settings 0 {} log last c)
    (isLast : p.IsLast key log) {pause : Nat} (hpause : pause? settings p.result = some pause)
    (known : (p.left settings key).cache.contains key = true)
    (kept : ∀ e ∈ p.since, ¬ e.2.Deletes key) : c.Upcoming key (p.ended + pause) := by
  obtain ⟨_, _, during, -, hleft, hsince⟩ := run.parts isLast
  have hdue : (p.left settings key).due.get? key =
      some (earlier (during.due.get? key) (p.ended + pause)) := by
    rw [hleft, due_finish, hpause]
    exact if_pos rfl
  rcases hsince.begun_or_due known hdue kept with hbegun | ⟨-, t, hle, hdue⟩
  · exact .inl ((run.running_iff isLast).mpr hbegun)
  · refine .inr ⟨t, Nat.le_trans hle (earlier_le _ _), ?_⟩
    rw [nextPasses_eq, hdue]
    rfl

/-- After a pass that did not find the deployment there is a next one only because of a delivery
since that pass began. -/
theorem concerned_of_upcoming {p : LastPass} (run : Run settings 0 {} log last c)
    (isLast : p.IsLast key log) (absent : p.result = .ok .notFound)
    (next : key ∈ c.running ∨ c.nextPasses key ≠ []) :
    ∃ e ∈ p.meanwhile ++ p.since, e.2.Concerns key := by
  refine Classical.byContradiction fun hnone => ?_
  obtain ⟨hmeanwhile, hsince⟩ : (∀ e ∈ p.meanwhile, ¬ e.2.Concerns key) ∧
      ∀ e ∈ p.since, ¬ e.2.Concerns key :=
    List.forall_mem_append.mp fun e he hconcerns => hnone ⟨e, he, hconcerns⟩
  obtain ⟨_, _, during, hduring, hleft, hafter⟩ := run.parts isLast
  -- Nothing that happens makes a pass due, neither while the last one was running nor after it.
  have hdue : during.due.get? key = none := by
    refine hduring.preserves (P := fun c => c.due.get? key = none)
      (Q := fun o => ¬ o.Concerns key ∧ ¬ o.Ends key) ?_ (SortedMap.get?_erase_self _ _)
      fun e he => ⟨hmeanwhile e he, isLast.meanwhile e he⟩
    exact fun c time o _ h hnone => due_react_eq_none h.1 h.2 hnone
  have hundue : (p.left settings key).due.get? key = none := by
    rw [hleft, due_finish, absent]
    exact hdue
  obtain ⟨⟨hundue, hidle⟩, -⟩ :=
    hafter.stays_idle hundue (run.not_mem_running_left isLast) hsince
  rcases next with hrunning | hnext
  · exact hidle hrunning
  · exact hnext (by rw [nextPasses_eq, hundue]; rfl)

/-- No deployment is forgotten. Once a pass of it has ended there is a last one, and another one is
running exactly if it has begun since. If the last one came to an end or could not fetch the
deployment, and the deployment has been known since, then a next pass is running or exactly one is
due by the end of the pause. If it did not find the deployment, there is a next pass only because of
a delivery since it began. And a delivery makes a next pass due earlier if at all. -/
theorem not_forgotten (run : Run settings 0 {} log now c) (key : Key) :
    ((∃ e ∈ log, e.2.Ends key) → ∃ p : LastPass, p.IsLast key log) ∧
      (∀ p : LastPass, p.IsLast key log →
        (key ∈ c.running ↔ ∃ e ∈ p.since, e.2.Begins key) ∧
        ((p.left settings key).cache.contains key = true → (∀ e ∈ p.since, ¬ e.2.Deletes key) →
          (∀ outcome, p.result = .ok outcome → outcome ≠ .notFound →
            c.Upcoming key (p.ended + settings.resync)) ∧
          (∀ e, p.result = .error e → c.Upcoming key (p.ended + settings.errorRequeue))) ∧
        (p.result = .ok .notFound → key ∈ c.running ∨ c.nextPasses key ≠ [] →
          ∃ e ∈ p.meanwhile ++ p.since, e.2.Concerns key)) ∧
      ∀ time delivery, (c.deliver time delivery).running = c.running ∧
        ∀ t, c.nextPasses key = [t] →
          ∃ t' ≤ t, (c.deliver time delivery).nextPasses key = [t'] := by
  refine ⟨run.exists_lastPass, fun p isLast =>
    ⟨run.running_iff isLast, fun known kept => ⟨?_, ?_⟩, ?_⟩, ?_⟩
  · intro outcome hresult hfound
    refine run.upcoming_of_pause isLast ?_ known kept
    rw [hresult]
    cases outcome with
    | notFound => exact absurd rfl hfound
    | _ => rfl
  · intro e hresult
    exact run.upcoming_of_pause isLast (by rw [hresult]; rfl) known kept
  · exact run.concerned_of_upcoming isLast
  · intro time delivery
    exact ⟨c.running_deliver time delivery, fun t => c.nextPasses_deliver time delivery⟩

end Run

end Controller

namespace Declaration

open Controller

/-- The first pass of the sample, since which a child of it has changed. -/
def freshSamplePass : LastPass where
  before := [(0, .delivered (.applied (freshSample "u1")))]
  began := 0
  meanwhile := []
  ended := 5
  result := .ok .converged
  since :=
    [(12, .delivered (.touched
      { name := some "nc", space := some "default",
        ownerReferences := some (freshSample "u1").controllerReference?.toList }))]

/-- What happened until and since the first pass of the sample. -/
def freshSampleLog : List (Nat × Occurrence) :=
  freshSamplePass.untilEnd (freshSample "u1").key ++ freshSamplePass.since

theorem run_freshSampleLog :
    Run {} 0 {} freshSampleLog 12 (({} : Controller).follow {} freshSampleLog) :=
  .cons (by decide) (by decide) <| .cons (by decide) (by decide) <|
    .cons (by decide) (by decide) <| .cons (by decide) (by decide) <| .nil _ _

end Declaration

open Declaration Controller in
theorem Declaration.freshSample_upcoming : ∃ c, Run {} 0 {} freshSampleLog 12 c ∧
    c.Upcoming (freshSample "u1").key 35 ∧ c.nextPasses (freshSample "u1").key = [12] := by
  have hlast : freshSamplePass.IsLast (freshSample "u1").key freshSampleLog :=
    ⟨rfl, fun e he => (List.not_mem_nil he).elim, fun e he => (List.mem_singleton.mp he).symm ▸ id⟩
  have hkept : ∀ e ∈ freshSamplePass.since, ¬ e.2.Deletes (freshSample "u1").key :=
    fun e he => (List.mem_singleton.mp he).symm ▸ id
  obtain ⟨-, hafter, -⟩ :=
    (run_freshSampleLog.not_forgotten (freshSample "u1").key).2.1 freshSamplePass hlast
  exact ⟨_, run_freshSampleLog, (hafter (by decide) hkept).1 .converged rfl nofun, by decide⟩

end ClusterOperator
