import ClusterOperator.Proofs.Passes.History
import ClusterOperator.Proofs.Passes.Outcome
import ClusterOperator.Proofs.Status.Lawful
import ClusterOperator.Proofs.Surroundings.Moments

/-!
# The course of a deployment

A pass reads the status once and keeps its own copy of it. It writes the status at most twice: that
a new deployment is being created, and what is reported at the end. Each of these writes may be
lost. Both go by what was read at the start, so at every moment of a pass the stored status is the
one that the pass found or one that it leads to. Over any number of passes, cut short or not, with
any edits in between, the status stays lawful, the phase moves only between running and failed once
it was one of them, and the history goes on.

## Main definitions

* `Surroundings.Throughout`: what holds of the stored status at every moment of a run.
* `Surroundings.Recalls`: a copy of the status that leads to the same as the original.
* `Course`: the stores in which passes over a new deployment can leave it.

## Main results

* `Surroundings.reconcile_throughout`: the stored status during a pass.
* `Course.status_lawful`: the status of a deployment whose passes are its only writers.
-/

namespace ClusterOperator

namespace Surroundings

variable {α β : Type} {u : Surroundings} {space name : String} {P : Option Status → Prop}
  {scene : Scene} {status : Option Status}

/-- At every moment of a run the stored status is of a kind. -/
def Throughout (u : Surroundings) (space name : String) (P : Option Status → Prop) (p : Program α)
    (scene : Scene) : Prop :=
  ∀ m ∈ u.moments p scene, ∃ status, m.store.Records space name status ∧ P status

/-- The status is of its kind at the end of a run. -/
theorem Throughout.run {p : Program α} (h : u.Throughout space name P p scene) :
    ∃ status, (u.run p scene).2.store.Records space name status ∧ P status :=
  h _ (u.run_mem_moments p scene)

theorem throughout_pure (records : scene.store.Records space name status) (h : P status) (a : α) :
    u.Throughout space name P (pure a : Program α) scene := fun _ hm =>
  ⟨status, List.mem_singleton.mp hm ▸ records, h⟩

theorem Throughout.bind {p : Program α} {f : α → Program β}
    (h : u.Throughout space name P p scene)
    (hf : u.Throughout space name P (f (u.run p scene).1) (u.run p scene).2) :
    u.Throughout space name P (p >>= f) scene := fun m hm =>
  (mem_moments_bind hm).elim (h m) (hf m)

/-- A run that does not write the declaration leaves the status as it is throughout. -/
theorem throughout_of_within (keeps : u.KeepsStatus space name)
    (records : scene.store.Records space name status) (h : P status) {p : Program α}
    (hp : p.Within (Call.Spares ⟨.declaration, space, name⟩)) :
    u.Throughout space name P p scene := fun m hm =>
  have hrecords := moments_preserve (fun _ _ hr hold => records_answer keeps hr hold) hp records
  ⟨status, hrecords m hm, h⟩

/-- A copy of the status that leads to the same as the original, whatever is reported. -/
def Recalls (old copy : Option Status) : Prop :=
  ∀ now r, (copy.getD {}).record now r = (old.getD {}).record now r

theorem Recalls.refl (old : Option Status) : Recalls old old := fun _ _ => rfl

/-- That a deployment is being created counts for nothing once there is a report. -/
theorem recalls_creating :
    Recalls none (some { phase := .creating, events := [], conditions := [] }) := fun _ r => by
  cases r <;> rfl

/-! ### The steps of a pass -/

section Steps

variable {d : Declaration} {old : Option Status} (keeps : u.KeepsStatus space name)
  (keepsTidy : u.KeepsTidy) (named : d.IsNamed space name)

include keeps keepsTidy named

/-- A change of the status leaves the stored one or writes the new one. -/
theorem throughout_updateStatus (scene : Scene) (tidy : scene.store.Tidy)
    (records : scene.store.Records space name status) (h : P status) {change : Status → Status}
    (hchanged : P (some (Document.reread (change (d.status.getD {}))))) :
    u.Throughout space name P (updateStatus change d) scene := by
  by_cases hsame : (d.mapStatus change).status = d.status
  · have hpure : updateStatus change d = pure (d.mapStatus change) := if_pos hsame
    exact hpure ▸ throughout_pure records h _
  · have hwrite : updateStatus change d = (do
        let _ ← Program.request (.updateStatus (d.mapStatus change))
        return d.mapStatus change) := if_neg hsame
    obtain ⟨left, hleft, hor, -⟩ := records_requested (d := d.mapStatus change) keeps keepsTidy
      (named.withStatus _) rfl scene tidy records
    have hP : P left := by
      rcases hor with rfl | rfl
      · exact h
      · exact hchanged
    rw [hwrite]
    refine Throughout.bind (fun m hm => ?_) (throughout_pure hleft hP _)
    rcases List.mem_cons.mp hm with rfl | hm
    · exact ⟨status, records, h⟩
    · exact ⟨left, List.mem_singleton.mp hm ▸ hleft, hP⟩

/-- A report leaves the stored status or writes what it makes of the one that was found. -/
theorem throughout_report (recalls : Recalls old d.status) (tidy : scene.store.Tidy)
    (records : scene.store.Records space name status) (h : Status.Left old status) (r : Report) :
    u.Throughout space name (Status.Left old) (report r d) scene := by
  have hchanged : Status.Left old
      (some (Document.reread ((d.status.getD {}).record (u.clock scene.calls) r))) :=
    recalls .. ▸ .recorded _ r
  have hupdate : u.Throughout space name (Status.Left old)
      (updateStatus (·.record (u.clock scene.calls) r) d) (scene.after .clock) :=
    throughout_updateStatus keeps keepsTidy named (scene.after .clock) tidy records h hchanged
  have hclock : (Program.perform .clock).Within (Call.Spares ⟨.declaration, space, name⟩) :=
    Program.within_perform trivial
  exact (throughout_of_within keeps records h hclock).bind hupdate

theorem throughout_giveUp (recalls : Recalls old d.status) (tidy : scene.store.Tidy)
    (records : scene.store.Records space name status) (h : Status.Left old status) (stop : Stop) :
    u.Throughout space name (Status.Left old) (giveUp d stop) scene := by
  unfold giveUp
  split
  · have hreport := throughout_report keeps keepsTidy named recalls tidy records h
    obtain ⟨left, hleft, hP⟩ := (hreport _).run
    exact (hreport _).bind (throughout_pure hleft hP _)
  · exact throughout_pure records h _
  · exact throughout_pure records h _

theorem throughout_checkAndReport (settings : Settings) (recalls : Recalls old d.status)
    (tidy : scene.store.Tidy) (records : scene.store.Records space name status)
    (h : Status.Left old status) :
    u.Throughout space name (Status.Left old) (checkAndReport settings d) scene := by
  have hwithin : Program.Within (Call.Spares ⟨.declaration, space, name⟩)
      (check settings.healthConcurrency d).run :=
    Program.Within.mono check_within fun _ hc => hc.spares _
  refine Throughout.bind (throughout_of_within keeps records h hwithin) ?_
  have hrecords := run_records keeps hwithin records
  have htidy := run_tidy keepsTidy (check settings.healthConcurrency d).run tidy
  cases (u.run (check settings.healthConcurrency d).run scene).1 with
  | error stop => exact throughout_giveUp keeps keepsTidy named recalls htidy hrecords h stop
  | ok ready =>
    have hreport := throughout_report keeps keepsTidy named recalls htidy hrecords h .running
    obtain ⟨left, hleft, hP⟩ := hreport.run
    exact hreport.bind (throughout_pure hleft hP _)

/-- Preparing leaves the stored status or writes that a new deployment is being created, and what it
goes on with recalls the status that was found. -/
theorem throughout_prepare (settings : Settings) (lawful : Status.Lawful d.status)
    (tidy : scene.store.Tidy) (records : scene.store.Records space name d.status) :
    u.Throughout space name (Status.Left d.status) (prepare settings d.phase d) scene ∧
      ∀ prepared, (u.run (prepare settings d.phase d) scene).1 = some prepared →
        prepared.IsNamed space name ∧ Recalls d.status prepared.status := by
  by_cases hphase : d.phase = .none
  · have hnone : d.status = none := lawful.eq_none_of_phase hphase
    let change (s : Status) : Status := { s with phase := .creating }
    have hcreating : change (d.status.getD {}) =
        { phase := .creating, events := [], conditions := [] } := by rw [hnone]; rfl
    have hwritten : Status.Left d.status (some (Document.reread (change (d.status.getD {})))) := by
      rw [hcreating]
      exact .creating hnone
    have hupdate : u.Throughout space name (Status.Left d.status) (markCreating d) scene :=
      throughout_updateStatus keeps keepsTidy named scene tidy records .same hwritten
    obtain ⟨left, hleft, hP⟩ := hupdate.run
    rw [hphase]
    refine ⟨hupdate.bind (throughout_pure hleft hP _), fun prepared h => ?_⟩
    rw [prepare, run_bind] at h
    have hprepared : d.mapStatus change = prepared :=
      (u.run_updateStatus_fst change d scene).symm.trans (Option.some.inj h)
    refine hprepared ▸ ⟨named.withStatus _, ?_⟩
    rw [Declaration.mapStatus, hcreating, hnone]
    exact recalls_creating
  · have hwithin : (prepare settings d.phase d).Within
        (Call.Spares ⟨.declaration, space, name⟩) :=
      prepare_within (absurd · hphase) fun _ => trivial
    refine ⟨throughout_of_within keeps records .same hwithin, fun prepared h => ?_⟩
    obtain ⟨rfl, -⟩ := prepare_of_known hphase (Prod.ext h rfl)
    exact ⟨named, .refl _⟩

theorem throughout_afterEnsure (settings : Settings) (lawful : Status.Lawful d.status)
    (tidy : scene.store.Tidy) (records : scene.store.Records space name d.status) :
    u.Throughout space name (Status.Left d.status) (afterEnsure settings d.phase d) scene := by
  obtain ⟨hprepare, hrecalls⟩ :=
    throughout_prepare keeps keepsTidy named settings lawful tidy records
  obtain ⟨left, hleft, hP⟩ := hprepare.run
  have htidy := run_tidy keepsTidy (prepare settings d.phase d) tidy
  refine hprepare.bind ?_
  cases hprepared : (u.run (prepare settings d.phase d) scene).1 with
  | none => exact throughout_pure hleft hP _
  | some prepared =>
    obtain ⟨hnamed, hrecall⟩ := hrecalls prepared hprepared
    exact throughout_checkAndReport keeps keepsTidy hnamed settings hrecall htidy hleft hP

theorem throughout_runPass (settings : Settings) (scene : Scene)
    (lawful : Status.Lawful d.status) (tidy : scene.store.Tidy)
    (records : scene.store.Records space name d.status) :
    u.Throughout space name (Status.Left d.status) (runPass settings d) scene := by
  have hwithin : Program.Within (Call.Spares ⟨.declaration, space, name⟩)
      (ensure settings.clusterDomain d.withDefaults).run := ensure_spares fun _ _ child _ heq =>
    child.1.kind_ne_declaration (congrArg Key.kind heq)
  have hrecords := run_records keeps hwithin records
  have htidy := run_tidy keepsTidy (ensure settings.clusterDomain d.withDefaults).run tidy
  rw [runPass_eq]
  refine (throughout_of_within keeps records .same hwithin).bind ?_
  cases (u.run (ensure settings.clusterDomain d.withDefaults).run scene).1 with
  | error stop =>
    exact throughout_giveUp keeps keepsTidy named.withDefaults (.refl _) htidy hrecords .same stop
  | ok applied =>
    exact throughout_afterEnsure keeps keepsTidy named.withDefaults settings lawful htidy hrecords

end Steps

/-- At every moment of a pass the stored status is the one that the pass found, or one that the pass
leads to from there. -/
theorem reconcile_throughout (keeps : u.KeepsStatus space name) (keepsTidy : u.KeepsTidy)
    (settings : Settings) {s : Store} {old : Option Status} (tidy : s.Tidy)
    (records : s.Records space name old) (lawful : Status.Lawful old)
    (named : ∀ d, (u.answer (.get .declaration space name) ⟨s, []⟩).1 = .ok (some d) →
      d.IsNamed space name) :
    u.Throughout space name (Status.Left old) (reconcile settings space name) ⟨s, []⟩ := by
  have hget : (Program.request (.get .declaration space name)).Within
      (Call.Spares ⟨.declaration, space, name⟩) := Program.within_perform (.inl rfl)
  have hrecords : (u.answer (.get .declaration space name) ⟨s, []⟩).2.Records space name old :=
    records_answer keeps (.inl rfl) records
  have htidy : (u.answer (.get .declaration space name) ⟨s, []⟩).2.Tidy :=
    answer_tidy keepsTidy _ tidy
  refine (throughout_of_within keeps records .same hget).bind ?_
  rw [run_request]
  cases hanswer : (u.answer (.get .declaration space name) ⟨s, []⟩).1 with
  | error e => exact throughout_pure hrecords .same _
  | ok found =>
    cases found with
    | none => exact throughout_pure hrecords .same _
    | some d =>
      obtain rfl := (records_get hanswer).unique hrecords
      have hpass := throughout_runPass keeps keepsTidy (named d hanswer) settings
        (u.requested (.get .declaration space name) ⟨s, []⟩) lawful htidy hrecords
      obtain ⟨left, hleft, hP⟩ := hpass.run
      exact hpass.bind (throughout_pure hleft hP _)

end Surroundings

/-! ### Passes and edits -/

/-- The stores in which passes over a deployment can leave it. To begin with it is declared and has
no status. Then anything but the status may be edited, and passes may run in any surroundings that
leave the status to them, to their end or to any moment before it. -/
inductive Course (space name : String) : Store → Prop
  | start {s : Store} (tidy : s.Tidy) (fresh : s.Records space name none) : Course space name s
  | edit {s s' : Store} (before : Course space name s) (tidy : s'.Tidy)
      (kept : ∀ status, s.Records space name status → s'.Records space name status) :
      Course space name s'
  | pass {s : Store} (before : Course space name s) (settings : Settings) (u : Surroundings)
      (keeps : u.KeepsStatus space name) (keepsTidy : u.KeepsTidy)
      (named : ∀ d, (u.answer (.get .declaration space name) ⟨s, []⟩).1 = .ok (some d) →
        d.IsNamed space name) {m : Scene}
      (moment : m ∈ u.moments (reconcile settings space name) ⟨s, []⟩) : Course space name m.store

namespace Course

variable {space name : String} {s : Store}

theorem tidy (h : Course space name s) : s.Tidy := by
  induction h with
  | start tidy fresh => exact tidy
  | edit before tidy kept => exact tidy
  | pass before settings u keeps keepsTidy named moment ih =>
    exact Surroundings.moments_tidy keepsTidy _ ih _ moment

/-- The status that is stored in the course of a deployment is lawful and was read back. -/
theorem records_lawful (h : Course space name s) :
    ∃ status, s.Records space name status ∧ Status.Lawful status ∧ Status.Kept status := by
  induction h with
  | start tidy fresh => exact ⟨none, fresh, .absent, fun e he => absurd he List.not_mem_nil⟩
  | edit before tidy kept ih =>
    obtain ⟨status, hrecords, hlawful, hkept⟩ := ih
    exact ⟨status, kept status hrecords, hlawful, hkept⟩
  | pass before settings u keeps keepsTidy named moment ih =>
    obtain ⟨status, hrecords, hlawful, hkept⟩ := ih
    obtain ⟨left, hleft, hP⟩ := Surroundings.reconcile_throughout keeps keepsTidy settings
      before.tidy hrecords hlawful named _ moment
    exact ⟨left, hleft, (hP.succeeds hlawful hkept).lawful, hP.kept hkept⟩

/-- In the course of a deployment the stored status is always lawful, and at every moment of a pass
it succeeds the one that the pass found: the phase has not moved or has moved on, and the history
goes on from the old one. -/
theorem status_lawful (h : Course space name s) :
    ∃ status, s.Records space name status ∧ Status.Lawful status ∧
      ∀ (settings : Settings) (u : Surroundings), u.KeepsStatus space name → u.KeepsTidy →
        (∀ d, (u.answer (.get .declaration space name) ⟨s, []⟩).1 = .ok (some d) →
          d.IsNamed space name) →
        ∀ m ∈ u.moments (reconcile settings space name) ⟨s, []⟩,
          ∃ new, m.store.Records space name new ∧ Status.Succeeds status new := by
  obtain ⟨status, hrecords, hlawful, hkept⟩ := h.records_lawful
  refine ⟨status, hrecords, hlawful, fun settings u keeps keepsTidy named m hm => ?_⟩
  obtain ⟨new, hnew, hP⟩ := Surroundings.reconcile_throughout keeps keepsTidy settings h.tidy
    hrecords hlawful named m hm
  exact ⟨new, hnew, hP.succeeds hlawful hkept⟩

end Course

/-! ### A deployment that has no server yet -/

namespace Declaration

/-- The store after a pass over a declaration whose servers are not there yet. -/
def plainStoreAfter : Store :=
  (Surroundings.well.run (reconcile {} "default" "nc") ⟨plainStore, []⟩).2.store

theorem plainStoreAfter_course : Course "default" "nc" plainStoreAfter := by
  have hget : plainStore.answer (.get .declaration "default" "nc") =
      (.ok (some (Document.reread plainSample)), plainStore) :=
    congrArg (·, plainStore) plainStore_get
  have hnamed : ∀ d, (Surroundings.well.answer (.get .declaration "default" "nc")
      ⟨plainStore, []⟩).1 = .ok (some d) → d.IsNamed "default" "nc" := fun d hd => by
    cases (congrArg Prod.fst (Surroundings.calm_well.answer_of_ok hget)).symm.trans hd
    exact ⟨rfl, rfl⟩
  exact .pass (.start plainStore_tidy ⟨_, plainStore_get, rfl⟩) {} Surroundings.well
    (Surroundings.calm_well.keepsStatus _ _) Surroundings.calm_well.keepsTidy hnamed
    (Surroundings.well.run_mem_moments _ _)

/-- Whether a status that is stored says that the deployment failed. -/
def showsFailed (s : Store) : Bool :=
  match s.get .declaration "default" "nc" with
  | .ok (some d) => decide (d.status.map Status.phase = some .failed)
  | _ => false

end Declaration

open Declaration in
theorem plainSample_status_lawful :
    Course "default" "nc" plainStoreAfter ∧ showsFailed plainStoreAfter = true ∧
      ∃ status, plainStoreAfter.Records "default" "nc" status ∧ Status.Lawful status ∧
        ∀ (settings : Settings) (u : Surroundings), u.KeepsStatus "default" "nc" → u.KeepsTidy →
          (∀ d, (u.answer (.get .declaration "default" "nc") ⟨plainStoreAfter, []⟩).1 =
            .ok (some d) → d.IsNamed "default" "nc") →
          ∀ m ∈ u.moments (reconcile settings "default" "nc") ⟨plainStoreAfter, []⟩,
            ∃ new, m.store.Records "default" "nc" new ∧ Status.Succeeds status new := by
  have hfailed : showsFailed plainStoreAfter = true := by decide +kernel
  exact ⟨plainStoreAfter_course, hfailed, plainStoreAfter_course.status_lawful⟩

end ClusterOperator
