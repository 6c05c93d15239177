import ClusterOperator.Proofs.Passes.Aborted
import ClusterOperator.Proofs.Passes.Course
import ClusterOperator.Proofs.Passes.Trouble
import ClusterOperator.Proofs.Status.Times
import ClusterOperator.Proofs.Surroundings.Remedies

/-!
# Passes with a remedy

A pass applies the remedy once, right after the children and before the check, if the deployment
had failed when it was fetched and its children could be applied, and not at all otherwise. A remedy
that panics ends the pass. Any other one, however long it takes, only moves the clock. The clock is
looked at only for the report at the end of a pass, so that the pass ends as it does without a
remedy, with the same calls and the same store but for the times in the status.

This is for a clock that has moved on since the last report. If it read the very time of the last
entry of the history, a report of the same failure would change nothing, and would not be written.
The stored times are whole seconds, so a clock that is never on the second has always moved on.

## Main definitions

* `Scene.SameButTimes`: two scenes that differ at most in the times of statuses.
* `Surroundings.IgnoresTimes`: failures and other clients do not depend on these times.
* `Surroundings.MovedOn`: a clock that never reads the time of the last entry.
* `Surroundings.ComesToRemedy`: passes that come to their remedy.

## Main results

* `Surroundings.report_sameButTimes`: a report at two times.
* `Surroundings.reconcile_sameButTimes`: a pass whose remedy takes some time.
* `Surroundings.run_reconcile_of_comes`, `Surroundings.run_reconcile_of_not_comes`: passes that come
  to their remedy, and passes that do not.
* `Course.movedOn`: a clock that is never on the second has moved on.
* `Surroundings.reconcile_withRemedy`: what a remedy does to a pass.
-/

namespace ClusterOperator

open Kubernetes

/-! ### Scenes that differ in times -/

/-- A declaration without the times in its status. -/
def Declaration.withoutTimes (d : Declaration) : Declaration :=
  { d with status := d.status.map Status.withoutTimes }

/-- A call without the times in a status that it writes. -/
def Call.withoutTimes : Call → Call
  | request (.updateStatus d) => request (.updateStatus d.withoutTimes)
  | c => c

/-- Two stores are the same but for the times in statuses that were written. -/
structure Store.SameButTimes (s s' : Store) : Prop where
  version : s.version = s'.version
  get? : ∀ key, s.get? key = s'.get? key ∨ key.kind = .declaration ∧
    ∃ (j : Json) (a b : Status), a.withoutTimes = b.withoutTimes ∧
      s.get? key = some (j.set "status" (Document.write a)) ∧
      s'.get? key = some (j.set "status" (Document.write b))

/-- Two scenes are the same but for the times in statuses that were written. -/
structure Scene.SameButTimes (a b : Scene) : Prop where
  calls : a.calls.map Call.withoutTimes = b.calls.map Call.withoutTimes
  store : a.store.SameButTimes b.store

theorem Store.SameButTimes.refl (s : Store) : s.SameButTimes s := ⟨rfl, fun _ => .inl rfl⟩

theorem Scene.SameButTimes.refl (scene : Scene) : scene.SameButTimes scene := ⟨rfl, .refl _⟩

/-- Two statuses that are the same but for times leave stores of this kind. -/
theorem Store.sameButTimes_updateStatus (s : Store) (d : Declaration) {a b : Status}
    (h : a.withoutTimes = b.withoutTimes) :
    (s.updateStatus { d with status := some a }).2.SameButTimes
      (s.updateStatus { d with status := some b }).2 := by
  cases hfound : s.get? (keyOf .declaration d.metadata.spaceOrEmpty d) with
  | none =>
    rw [updateStatus_missing (d := { d with status := some a }) hfound,
      updateStatus_missing (d := { d with status := some b }) hfound]
    exact .refl s
  | some j =>
    rw [updateStatus_stored (d := { d with status := some a }) hfound,
      updateStatus_stored (d := { d with status := some b }) hfound]
    refine ⟨rfl, fun key => ?_⟩
    by_cases hkey : key = keyOf .declaration d.metadata.spaceOrEmpty d
    · subst hkey
      exact .inr ⟨rfl, j, a, b, h, SortedMap.get?_insert_self _ _ _,
        SortedMap.get?_insert_self _ _ _⟩
    · exact .inl ((SortedMap.get?_insert_of_ne _ _ hkey).trans
        (SortedMap.get?_insert_of_ne _ _ hkey).symm)

/-! ### Steps without a remedy -/

/-- Candid programs only ask the orchestration API and the servers. -/
theorem Program.Candid.within_asks {α : Type} {Q : Fault → Prop} {p : Program (Except Stop α)}
    (h : p.Candid Q) : p.Within Call.Asks := by
  induction h with
  | ok a => trivial
  | fault h => trivial
  | request about stops goes ih =>
    refine ⟨trivial, fun reply => ?_⟩
    cases reply with
    | error e => exact stops e ▸ trivial
    | ok a => exact ih a
  | poll tells stops goes ih =>
    refine ⟨trivial, fun reply => ?_⟩
    cases reply with
    | error stop => exact stops stop ▸ trivial
    | ok result => exact ih

theorem ensure_within_asks (domain : String) (d : Declaration) :
    Pass.Within Call.Asks (ensure domain d) :=
  ensure_within fun _ _ _ _ => ⟨trivial, trivial, fun _ => trivial⟩

theorem check_within_asks (limit : Nat) (d : Declaration) :
    Pass.Within Call.Asks (check limit d) :=
  (candid_check limit d).within_asks

theorem Call.Reads.unhealing {c : Call} (h : c.Reads) : c.Unhealing := by
  cases c with
  | heal limit d => exact h.elim
  | _ => rfl

theorem Call.allowsReports_unhealing (d : Declaration) : AllowsReports Unhealing d :=
  ⟨rfl, fun _ => rfl⟩

/-- Only a deployment that had failed is given a remedy. -/
theorem afterEnsure_within_unhealing (settings : Settings) {previous : Phase}
    (h : previous ≠ .failed) (d : Declaration) :
    (afterEnsure settings previous d).Within Call.Unhealing :=
  afterEnsure_within (fun _ hc => hc.unhealing) Call.allowsReports_unhealing (absurd · h)

namespace Surroundings

variable {u : Surroundings} {settings : Settings} {space name : String} {s : Store}
  {d : Declaration} {scene ensured : Scene}

/-! ### A report at two times -/

/-- Neither failures nor other clients depend on the times in a status that is written. -/
structure IgnoresTimes (u : Surroundings) : Prop where
  failure : ∀ earlier d d', d.withoutTimes = d'.withoutTimes →
    u.failure earlier (.updateStatus d) = u.failure earlier (.updateStatus d')
  others : ∀ earlier d d' s, d.withoutTimes = d'.withoutTimes →
    u.others earlier (.updateStatus d) s = u.others earlier (.updateStatus d') s

/-- Two statuses that are the same but for times are written alike. -/
theorem IgnoresTimes.requested (ignores : u.IgnoresTimes) (d : Declaration) {a b : Status}
    (h : a.withoutTimes = b.withoutTimes) (scene : Scene) :
    (u.requested (.updateStatus { d with status := some a }) scene).SameButTimes
      (u.requested (.updateStatus { d with status := some b }) scene) := by
  have hsame : ({ d with status := some a } : Declaration).withoutTimes =
      ({ d with status := some b } : Declaration).withoutTimes :=
    congrArg (fun status => { d with status := some status }) h
  constructor
  · show (scene.calls ++ [_]).map _ = (scene.calls ++ [_]).map _
    rw [List.map_append, List.map_append]
    exact congrArg (fun d => _ ++ [Call.request (.updateStatus d)]) hsame
  · show (u.answer _ scene).2.SameButTimes (u.answer _ scene).2
    unfold answer
    rw [ignores.failure _ _ _ hsame, ignores.others _ _ _ _ hsame]
    have hwritten := Store.sameButTimes_updateStatus
      (u.others scene.calls (.updateStatus { d with status := some b }) scene.store) d h
    cases u.failure scene.calls (.updateStatus { d with status := some b }) with
    | none => exact hwritten
    | some f =>
      simp only
      split
      · exact hwritten
      · exact .refl _

/-- The clock has moved on since the last report: it never reads the time of the last entry in the
history of the deployment that is fetched. -/
def MovedOn (u : Surroundings) (space name : String) (s : Store) (clock : List Call → Instant) :
    Prop :=
  ∀ d, (u.answer (.get .declaration space name) ⟨s, []⟩).1 = .ok (some d) →
    ∀ earlier, ¬ (d.status.getD {}).ShowsAt (clock earlier)

/-- A report at two times leaves the same but for times, if the last entry shows none of them. -/
theorem report_sameButTimes (ignores : u.IgnoresTimes) (r : Report) (d : Declaration)
    (scene : Scene) (healed healed' : Healed) {c c' : List Call → Instant}
    (past : ¬ (d.status.getD {}).ShowsAt (c scene.calls))
    (past' : ¬ (d.status.getD {}).ShowsAt (c' scene.calls)) :
    ((u.healing healed c).run (report r d) scene).2.SameButTimes
      ((u.healing healed' c').run (report r d) scene).2 := by
  -- what is written depends on the clock, but how it is written does not
  have hrun : ∀ (healed : Healed) (c : List Call → Instant),
      (u.healing healed c).run (report r d) scene =
        u.run (updateStatus (·.record (c scene.calls) r) d) (scene.after .clock) :=
    fun healed c => (run_report _ r d scene).trans
      (u.run_of_asks (updateStatus_within trivial) healed c _)
  have hwrites : (d.mapStatus (·.record (c scene.calls) r)).status = d.status ↔
      (d.mapStatus (·.record (c' scene.calls) r)).status = d.status := by
    obtain ⟨metadata, spec, status⟩ := d
    cases status with
    | none => exact iff_of_false nofun nofun
    | some status => exact Option.some_inj.trans ((Status.record_eq_iff past past').trans
        Option.some_inj.symm)
  rw [hrun healed c, hrun healed' c']
  by_cases h : (d.mapStatus (·.record (c scene.calls) r)).status = d.status
  · rw [u.run_updateStatus_of_eq h, u.run_updateStatus_of_eq (hwrites.mp h)]
    exact .refl _
  · rw [u.run_updateStatus_of_ne h, u.run_updateStatus_of_ne fun h' => h (hwrites.mpr h')]
    exact ignores.requested d (Status.withoutTimes_record _ r _ _) _

/-- From the check on, passes with different clocks do the same but for times. -/
theorem checkAndReport_sameButTimes (ignores : u.IgnoresTimes) (settings : Settings)
    (d : Declaration) (scene : Scene) (healed healed' : Healed) {c c' : List Call → Instant}
    (past : ∀ earlier, ¬ (d.status.getD {}).ShowsAt (c earlier))
    (past' : ∀ earlier, ¬ (d.status.getD {}).ShowsAt (c' earlier)) :
    let a := (u.healing healed c).run (checkAndReport settings d) scene
    let b := (u.healing healed' c').run (checkAndReport settings d) scene
    b.1 = a.1 ∧ a.2.SameButTimes b.2 := by
  intro a b
  let v := u.healing healed c
  let w := u.healing healed' c'
  have hreport : ∀ r left, (v.run (report r d) left).2.SameButTimes (w.run (report r d) left).2 :=
    fun r left => report_sameButTimes ignores r d left healed healed' (past _) (past' _)
  have hcheck : v.pass (check settings.healthConcurrency d) scene =
      u.pass (check settings.healthConcurrency d) scene :=
    u.run_of_asks (check_within_asks _ _) healed c scene
  have hcheck' : w.pass (check settings.healthConcurrency d) scene =
      u.pass (check settings.healthConcurrency d) scene :=
    u.run_of_asks (check_within_asks _ _) healed' c' scene
  rcases hpass : u.pass (check settings.healthConcurrency d) scene with ⟨stop | ready, left⟩
  · have ha : a = v.run (giveUp d stop) left :=
      v.run_checkAndReport_of_error (hcheck.trans hpass)
    have hb : b = w.run (giveUp d stop) left :=
      w.run_checkAndReport_of_error (hcheck'.trans hpass)
    rw [ha, hb]
    by_cases hfault : stop.IsFault
    · obtain ⟨fault, rfl⟩ := hfault
      rw [run_giveUp_fatal, run_giveUp_fatal]
      exact ⟨rfl, hreport _ left⟩
    · rw [run_giveUp_of_aborted (run_giveUp_aborted_iff.mpr hfault),
        run_giveUp_of_aborted (run_giveUp_aborted_iff.mpr hfault)]
      exact ⟨rfl, .refl left⟩
  · have ha : a = (.converged, (v.run (report .running d) left).2) :=
      v.run_checkAndReport_of_ok (hcheck.trans hpass)
    have hb : b = (.converged, (w.run (report .running d) left).2) :=
      w.run_checkAndReport_of_ok (hcheck'.trans hpass)
    rw [ha, hb]
    exact ⟨rfl, hreport _ left⟩

/-! ### Passes that come to their remedy -/

/-- A pass comes to its remedy: it fetches a deployment that had failed, and applies its children,
which leaves a scene. -/
structure ComesToRemedy (u : Surroundings) (settings : Settings) (space name : String) (s : Store)
    (d : Declaration) (ensured : Scene) : Prop where
  fetched : (u.answer (.get .declaration space name) ⟨s, []⟩).1 = .ok (some d)
  failed : d.phase = .failed
  applied : ∃ children, u.pass (ensure settings.clusterDomain d.withDefaults)
    (u.requested (.get .declaration space name) ⟨s, []⟩) = (.ok children, ensured)

/-- Up to its remedy a pass asks only the orchestration API and the servers. -/
theorem ComesToRemedy.heals_eq (h : u.ComesToRemedy settings space name s d ensured) :
    ensured.heals = 0 := by
  obtain ⟨children, hensure⟩ := h.applied
  have hheals := u.heals_run (Program.Within.mono (ensure_within_asks settings.clusterDomain
    d.withDefaults) fun _ hc => hc.unhealing)
    (u.requested (.get .declaration space name) ⟨s, []⟩)
  exact (congrArg (fun out : Except Stop (List Applied) × Scene => out.2.heals) hensure).symm.trans
    hheals

/-- Up to its remedy a pass writes no status. -/
theorem ComesToRemedy.statusWrites_eq (h : u.ComesToRemedy settings space name s d ensured) :
    ensured.statusWrites = [] := by
  obtain ⟨children, hensure⟩ := h.applied
  have hwrites := u.statusWrites_run (ensure_within_sparesDeclarations settings.clusterDomain
    d.withDefaults) (u.requested (.get .declaration space name) ⟨s, []⟩)
  exact (congrArg (fun out : Except Stop (List Applied) × Scene => out.2.statusWrites)
    hensure).symm.trans hwrites

/-- A pass that comes to its remedy applies it right after the children. -/
theorem run_reconcile_of_comes (comes : u.ComesToRemedy settings space name s d ensured)
    (healed : Healed) (clock : List Call → Instant) :
    let w := u.healing healed clock
    w.run (reconcile settings space name) ⟨s, []⟩ =
      (.ok (w.run (afterEnsure settings .failed d.withDefaults) ensured).1,
        (w.run (afterEnsure settings .failed d.withDefaults) ensured).2) := by
  intro w
  obtain ⟨children, hensure⟩ := comes.applied
  have hpass : w.pass (ensure settings.clusterDomain d.withDefaults)
      (w.requested (.get .declaration space name) ⟨s, []⟩) = (.ok children, ensured) :=
    (u.run_of_asks (ensure_within_asks _ _) healed clock _).trans hensure
  rw [w.run_reconcile_of_found comes.fetched, w.run_runPass_of_ok hpass, comes.failed]

/-- A pass goes on with the check after its remedy, if this returns. -/
theorem run_reconcile_of_returned (comes : u.ComesToRemedy settings space name s d ensured)
    {healed : Healed} (returned : healed = .returned) (clock : List Call → Instant) :
    let w := u.healing healed clock
    let after := ensured.after (.heal settings.healTimeout d.withDefaults)
    w.run (reconcile settings space name) ⟨s, []⟩ =
      (.ok (w.run (checkAndReport settings d.withDefaults) after).1,
        (w.run (checkAndReport settings d.withDefaults) after).2) := by
  intro w after
  have hhealed : w.healed = .returned := returned
  rw [run_reconcile_of_comes comes, afterEnsure, run_bind, prepare, run_bind, run_heal, hhealed]
  rfl

/-- A pass is over with its remedy, if this panics. -/
theorem run_reconcile_of_panicked (comes : u.ComesToRemedy settings space name s d ensured)
    {healed : Healed} (panicked : healed = .panicked) (clock : List Call → Instant) :
    let w := u.healing healed clock
    w.run (reconcile settings space name) ⟨s, []⟩ =
      (.ok .aborted, ensured.after (.heal settings.healTimeout d.withDefaults)) := by
  intro w
  have hhealed : w.healed = .panicked := panicked
  rw [run_reconcile_of_comes comes, afterEnsure, run_bind, prepare, run_bind, run_heal, hhealed]
  rfl

/-- A pass that does not come to its remedy applies none, and does what it does without one. -/
theorem run_reconcile_of_not_comes
    (h : ∀ d ensured, ¬ u.ComesToRemedy settings space name s d ensured) (limit : Nat)
    (remedy : TimedRemedy) (late : List Call → Instant) :
    (u.withRemedy limit remedy late).run (reconcile settings space name) ⟨s, []⟩ =
        u.run (reconcile settings space name) ⟨s, []⟩ ∧
      (u.run (reconcile settings space name) ⟨s, []⟩).2.heals = 0 := by
  let v := u.withRemedy limit remedy late
  cases hget : (u.answer (.get .declaration space name) ⟨s, []⟩).1 with
  | error e =>
    rw [run_reconcile_of_error hget, run_reconcile_of_error (u := v) hget]
    exact ⟨rfl, rfl⟩
  | ok found =>
    cases found with
    | none =>
      rw [run_reconcile_of_absent hget, run_reconcile_of_absent (u := v) hget]
      exact ⟨rfl, rfl⟩
    | some d =>
      let begun := u.requested (.get .declaration space name) ⟨s, []⟩
      have hasks := ensure_within_asks settings.clusterDomain d.withDefaults
      have hsame : v.pass (ensure settings.clusterDomain d.withDefaults) begun =
          u.pass (ensure settings.clusterDomain d.withDefaults) begun :=
        u.run_of_asks hasks _ _ begun
      have hheals : (u.pass (ensure settings.clusterDomain d.withDefaults) begun).2.heals = 0 :=
        u.heals_run (hasks.mono fun _ hc => hc.unhealing) begun
      have hfound : v.run (reconcile settings space name) ⟨s, []⟩ =
          (.ok (v.run (runPass settings d) begun).1, (v.run (runPass settings d) begun).2) :=
        v.run_reconcile_of_found hget
      rw [u.run_reconcile_of_found hget, hfound]
      -- what follows the children applies no remedy either
      have hrest : ∀ {p : Program Outcome} {left : Scene}, p.Within Call.Unhealing →
          left.heals = 0 → v.run p left = u.run p left ∧ (u.run p left).2.heals = 0 :=
        fun hp hleft =>
          ⟨u.run_withRemedy hp limit remedy late hleft, (u.heals_run hp _).trans hleft⟩
      rcases hensure : u.pass (ensure settings.clusterDomain d.withDefaults) begun with
        ⟨stop | children, left⟩
      · rw [hensure] at hheals hsame
        rw [u.run_runPass_of_error hensure, v.run_runPass_of_error hsame]
        obtain ⟨hrun, hzero⟩ := hrest (giveUp_within
          (Call.allowsReports_unhealing d.withDefaults) stop) hheals
        rw [hrun]
        exact ⟨rfl, hzero⟩
      · have hphase : d.phase ≠ .failed := fun hfailed => h d left ⟨hget, hfailed, _, hensure⟩
        rw [hensure] at hheals hsame
        rw [u.run_runPass_of_ok hensure, v.run_runPass_of_ok hsame]
        obtain ⟨hrun, hzero⟩ :=
          hrest (afterEnsure_within_unhealing settings hphase d.withDefaults) hheals
        rw [hrun]
        exact ⟨rfl, hzero⟩

/-- If the clock has moved on before a remedy and after it, it has moved on in the whole pass. -/
theorem MovedOn.withRemedy {late : List Call → Instant} (before : u.MovedOn space name s u.clock)
    (after : u.MovedOn space name s late) (limit : Nat) (remedy : TimedRemedy) :
    u.MovedOn space name s (u.withRemedy limit remedy late).clock := by
  intro d hd earlier
  show ¬ (d.status.getD {}).ShowsAt
    (if earlier.any Call.isHeal then late earlier else u.clock earlier)
  split
  · exact after d hd earlier
  · exact before d hd earlier

/-- A pass with a remedy that returns ends as with one that does nothing, and its scene differs in
times only. -/
theorem reconcile_sameButTimes (ignores : u.IgnoresTimes) {remedy : TimedRemedy}
    {late : List Call → Instant} (before : u.MovedOn space name s u.clock)
    (after : u.MovedOn space name s late)
    (returned : remedy.healed settings.healTimeout = .returned) :
    let v := u.withRemedy settings.healTimeout .idle u.clock
    let w := u.withRemedy settings.healTimeout remedy late
    let idle := v.run (reconcile settings space name) ⟨s, []⟩
    let ended := w.run (reconcile settings space name) ⟨s, []⟩
    ended.1 = idle.1 ∧ idle.2.SameButTimes ended.2 := by
  intro v w idle ended
  by_cases hcomes : ∃ d ensured, u.ComesToRemedy settings space name s d ensured
  · obtain ⟨d, ensured, comes⟩ := hcomes
    have hidle : idle = _ := run_reconcile_of_returned comes (TimedRemedy.healed_idle _) v.clock
    have hended : ended = _ := run_reconcile_of_returned comes returned w.clock
    obtain ⟨houtcome, hsame⟩ := checkAndReport_sameButTimes ignores settings d.withDefaults
      (ensured.after (.heal settings.healTimeout d.withDefaults)) v.healed w.healed
      (before.withRemedy before _ _ d comes.fetched) (before.withRemedy after _ _ d comes.fetched)
    rw [hidle, hended]
    exact ⟨congrArg Except.ok houtcome, hsame⟩
  · have stays : ∀ d ensured, ¬ u.ComesToRemedy settings space name s d ensured :=
      fun d ensured comes => hcomes ⟨d, ensured, comes⟩
    have hidle := (run_reconcile_of_not_comes stays settings.healTimeout .idle u.clock).1
    have hended := (run_reconcile_of_not_comes stays settings.healTimeout remedy late).1
    rw [show ended = idle from hended.trans hidle.symm]
    exact ⟨rfl, .refl _⟩

/-- A pass that comes to its remedy applies it once, and no status is written before. -/
theorem ComesToRemedy.applies_once (comes : u.ComesToRemedy settings space name s d ensured)
    (remedy : TimedRemedy) (late : List Call → Instant) :
    let w := u.withRemedy settings.healTimeout remedy late
    let healed := ensured.after (.heal settings.healTimeout d.withDefaults)
    (w.run (reconcile settings space name) ⟨s, []⟩).2.heals = 1 ∧ healed.statusWrites = [] := by
  intro w healed
  have hheals : healed.heals = 1 :=
    (Scene.heals_after _ _).trans (congrArg (· + 1) comes.heals_eq)
  refine ⟨?_, List.filterMap_append.trans (congrArg (· ++ []) comes.statusWrites_eq)⟩
  cases hremedy : remedy.healed settings.healTimeout with
  | returned =>
    have hended := run_reconcile_of_returned comes hremedy w.clock
    exact (congrArg (fun out => Scene.heals out.2) hended).trans
      ((w.heals_run (checkAndReport_within (fun _ hc => hc.unhealing)
        (Call.allowsReports_unhealing d.withDefaults)) healed).trans hheals)
  | panicked =>
    have hended := run_reconcile_of_panicked comes hremedy w.clock
    exact (congrArg (fun out => Scene.heals out.2) hended).trans hheals

/-- A pass applies its remedy once if the deployment had failed when it was fetched and its children
could be applied, and not at all otherwise; it does so right after the children, and then goes on
with the check. A remedy that panics ends the pass there, with no status written. After any other
one, after whatever time, the pass ends as it does with a remedy that does nothing, with the same
calls and the same store but for times. Before the remedy and after it, the clock never reads the
time of the last entry of the fetched history. -/
theorem reconcile_withRemedy (u : Surroundings) (settings : Settings) (space name : String)
    (s : Store) (remedy : TimedRemedy) (late : List Call → Instant) :
    let limit := settings.healTimeout
    let v := u.withRemedy limit .idle u.clock
    let w := u.withRemedy limit remedy late
    let idle := v.run (reconcile settings space name) ⟨s, []⟩
    let ended := w.run (reconcile settings space name) ⟨s, []⟩
    (u.IgnoresTimes → u.MovedOn space name s u.clock → u.MovedOn space name s late →
      remedy.healed limit = .returned → ended.1 = idle.1 ∧ idle.2.SameButTimes ended.2) ∧
    (∀ d ensured, u.ComesToRemedy settings space name s d ensured →
      let healed := ensured.after (.heal limit d.withDefaults)
      ended.2.heals = 1 ∧
      (remedy.healed limit = .returned →
        ended = ((.ok (w.run (checkAndReport settings d.withDefaults) healed).1),
          (w.run (checkAndReport settings d.withDefaults) healed).2)) ∧
      (remedy.healed limit = .panicked →
        ended = (.ok .aborted, healed) ∧ ended.2.statusWrites = [])) ∧
    ((∀ d ensured, ¬ u.ComesToRemedy settings space name s d ensured) → ended.2.heals = 0) := by
  intro limit v w idle ended
  refine ⟨fun ignores before after returned => reconcile_sameButTimes ignores before after returned,
    fun d ensured comes => ?_, fun stays => ?_⟩
  · obtain ⟨honce, hwrites⟩ := comes.applies_once remedy late
    refine ⟨honce, fun returned => run_reconcile_of_returned comes returned w.clock,
      fun panicked => ?_⟩
    have hended : ended = _ := run_reconcile_of_panicked comes panicked w.clock
    exact ⟨hended, hended ▸ hwrites⟩
  · obtain ⟨hrun, hheals⟩ := run_reconcile_of_not_comes stays limit remedy late
    exact (congrArg (fun out => Scene.heals out.2) hrun).trans hheals

end Surroundings

/-- In the course of a deployment a clock that is never on the second has moved on, since the times
in the stored status are whole seconds. -/
theorem Course.movedOn {space name : String} {s : Store} (course : Course space name s)
    {u : Surroundings} (keeps : u.KeepsStatus space name) {clock : List Call → Instant}
    (off : ∀ earlier, (clock earlier).nano ≠ 0) : u.MovedOn space name s clock := by
  rintro d hd earlier ⟨last, hlast, htime⟩
  obtain ⟨status, hrecords, -, hkept⟩ := course.records_lawful
  obtain rfl : d.status = status :=
    (Surroundings.records_get hd).unique (Surroundings.records_answer keeps (.inl rfl) hrecords)
  have hread := hkept last (List.mem_of_getLast? hlast)
  have hwhole := congrArg Event.lastTransitionTime (last.reread_eq.symm.trans hread)
  simp only [htime, Option.map_some, Option.some_inj] at hwhole
  exact off earlier (congrArg Instant.nano hwhole).symm

/-! ### A remedy that hangs -/

namespace Declaration

/-- A moment in a second of the first minute of the year 1970. -/
def secondSample (second : Fin 61) : Instant := Instant.offSecond { Instant.epoch with second }

/-- Surroundings in which all goes well, in a second. -/
def wellAt (second : Fin 61) : Surroundings :=
  { Surroundings.well with clock := fun _ => secondSample second }

/-- A second pass over a declaration whose servers are not there yet, in a second and with a remedy
that takes until another second. -/
def secondPass (before after : Fin 61) (remedy : TimedRemedy) : Except Error Outcome × Scene :=
  ((wellAt before).withRemedy ({} : Settings).healTimeout remedy fun _ => secondSample after).run
    (reconcile {} "default" "nc") ⟨plainStoreAfter, []⟩

/-- A remedy that hangs. -/
def hangingSample : TimedRemedy := { remedy := .hangs }

/-- A remedy that panics after three seconds. -/
def panickingSample : TimedRemedy := { remedy := .panics, delay := 3000 }

theorem calm_wellAt (second : Fin 61) : (wellAt second).Calm :=
  ⟨fun _ _ => rfl, fun _ _ _ => rfl⟩

theorem movedOn_wellAt (second second' : Fin 61) :
    (wellAt second).MovedOn "default" "nc" plainStoreAfter fun _ => secondSample second' :=
  plainStoreAfter_course.movedOn ((calm_wellAt second).keepsStatus _ _) fun _ =>
    Instant.nano_offSecond_ne _

end Declaration

open Declaration Surroundings in
theorem hangingSample_makes_no_difference :
    (∃ d ensured, (wellAt 0).ComesToRemedy {} "default" "nc" plainStoreAfter d ensured) ∧
      (secondPass 0 10 hangingSample).1 = (secondPass 0 0 .idle).1 ∧
      (secondPass 0 0 .idle).2.SameButTimes (secondPass 0 10 hangingSample).2 ∧
      (secondPass 0 10 hangingSample).2.heals = 1 ∧
      (secondPass 0 3 panickingSample).1 = .ok .aborted ∧
      (secondPass 0 3 panickingSample).2.statusWrites = [] := by
  have hheals : (secondPass 0 10 hangingSample).2.heals ≠ 0 := by decide +kernel
  have ignores : (wellAt 0).IgnoresTimes := ⟨fun _ _ _ _ => rfl, fun _ _ _ _ _ => rfl⟩
  obtain ⟨hreturned, hcomes, hstays⟩ := reconcile_withRemedy (wellAt 0) {} "default" "nc"
    plainStoreAfter hangingSample fun _ => secondSample 10
  obtain ⟨-, hcomes', -⟩ := reconcile_withRemedy (wellAt 0) {} "default" "nc"
    plainStoreAfter panickingSample fun _ => secondSample 3
  obtain ⟨d, ensured, comes⟩ : ∃ d ensured,
      (wellAt 0).ComesToRemedy {} "default" "nc" plainStoreAfter d ensured :=
    Classical.byContradiction fun hnone =>
      hheals (hstays fun d ensured hd => hnone ⟨d, ensured, hd⟩)
  obtain ⟨houtcome, hsame⟩ := hreturned ignores (movedOn_wellAt 0 0) (movedOn_wellAt 0 10)
    (TimedRemedy.healed_eq_returned nofun)
  obtain ⟨hended, hwrites⟩ := (hcomes' d ensured comes).2.2 rfl
  exact ⟨⟨d, ensured, comes⟩, houtcome, hsame, (hcomes d ensured comes).1,
    congrArg Prod.fst hended, hwrites⟩

end ClusterOperator
