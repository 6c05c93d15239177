import ClusterOperator.Proofs.Passes.History
import ClusterOperator.Proofs.Status.Lawful

/-!
# What a report leaves

A pass that is over reports what it found, and writes this unless its copy of the status says so
already. Its copy is the recorded status, but that a new deployment is being created may not have
been written; no report says this. So the recorded status is then what the report makes of the
copy.

## Main definitions

* `Status.ShowsFailure`: a status that says that the deployment failed, and why.

## Main results

* `Status.showsFailure_recordFailure`, `Status.ShowsFailure.reread`: the status after the report of
  a failure.
* `Surroundings.records_prepare`, `Surroundings.records_report`: the recorded status before and
  after a report.
-/

namespace ClusterOperator

namespace Status

variable {code : Signed32} {message : String}

/-- A status that says that the deployment failed: in its phase, in the last entry of its history
and in its condition. -/
structure ShowsFailure (code : Signed32) (message : String) (s : Status) : Prop where
  phase : s.phase = .failed
  event : ∃ earlier last, s.events = earlier ++ [last] ∧ last.code = code
  condition : Condition.Shows "False" (failureReason code) (some message) s.conditions

/-- After the report of a failure the status says so. -/
theorem showsFailure_recordFailure (s : Status) (code : Signed32) (message : String)
    (now : Instant) : (s.recordFailure code message now).ShowsFailure code message where
  phase := rfl
  event := by
    rcases Event.fail_cases code message now s.events with
      ⟨earlier, last, -, hcode, hfail⟩ | ⟨-, hfail⟩
    · exact ⟨earlier, _, hfail, hcode⟩
    · exact ⟨s.events, _, hfail, rfl⟩
  condition := Condition.shows_reportAll _ _ _ now s.conditions

/-- A status that says so says so when it is read back. -/
theorem ShowsFailure.reread {s : Status} (h : s.ShowsFailure code message) :
    (Document.reread s).ShowsFailure code message := by
  obtain ⟨phase, events, conditions⟩ := s
  obtain ⟨hphase, ⟨earlier, last, hevents, hcode⟩, hcondition⟩ := h
  have hevents : events = earlier ++ [last] := hevents
  rw [reread_mk]
  refine ⟨hphase, ⟨earlier.map Document.reread, Document.reread last, ?_, ?_⟩, hcondition.reread⟩
  · rw [hevents, List.map_append]
    rfl
  · rw [Event.reread_eq]
    exact hcode

end Status

namespace Surroundings

variable {u : Surroundings} {settings : Settings} {space name : String} {d : Declaration}
  {scene left : Scene} {previous : Phase} {status : Option Status}

/-- What preparing leaves of the declaration: it is the same but for its status, which is the
recorded one unless it says that the deployment is being created. -/
theorem records_prepare (keeps : u.KeepsStatus space name) (keepsTidy : u.KeepsTidy)
    (named : d.IsNamed space name) (tidy : scene.store.Tidy)
    (records : scene.store.Records space name d.status) {prepared : Declaration}
    (h : u.run (prepare settings previous d) scene = (some prepared, left)) :
    ∃ after status, prepared = { d with status := after } ∧
      left.store.Records space name status ∧
        (status = after ∨ ∀ s, after = some s → s.phase = .creating) := by
  by_cases known : previous = .none
  · subst known
    let change (s : Status) : Status := { s with phase := .creating }
    have hprepared : prepared = d.mapStatus change ∧
        left = (u.run (updateStatus change d) scene).2 := by
      rw [prepare, run_bind, markCreating] at h
      cases h
      exact ⟨u.run_updateStatus_fst change d scene, rfl⟩
    obtain ⟨rfl, rfl⟩ := hprepared
    by_cases hsame : (d.mapStatus change).status = d.status
    · rw [u.run_updateStatus_of_eq hsame]
      exact ⟨_, d.status, rfl, records, .inl hsame.symm⟩
    · rw [u.run_updateStatus_of_ne hsame]
      obtain ⟨status, hrecords, -⟩ := records_requested (d := d.mapStatus change) keeps keepsTidy
        (named.withStatus _) rfl scene tidy records
      refine ⟨_, status, rfl, hrecords, .inr fun s hs => ?_⟩
      obtain rfl := Option.some.inj hs
      rfl
  · obtain ⟨rfl, hstore⟩ := prepare_of_known known h
    exact ⟨prepared.status, prepared.status, rfl, hstore ▸ records, .inl rfl⟩

/-- After a report, which is written unless the status says so already, the recorded status is what
the report makes of it. -/
theorem records_report (keeps : u.KeepsStatus space name) (keepsTidy : u.KeepsTidy)
    (named : d.IsNamed space name) (tidy : scene.store.Tidy)
    (records : scene.store.Records space name status)
    (agrees : status = d.status ∨ ∀ s, d.status = some s → s.phase = .creating) (r : Report)
    (written : ∀ earlier d', (u.run (report r d) scene).2.calls =
      earlier ++ [.request (.updateStatus d')] → u.failure earlier (.updateStatus d') = none) :
    ∃ now recorded, (u.run (report r d) scene).2.store.Records space name (some recorded) ∧
      (recorded = (d.status.getD {}).record now r ∨
        recorded = Document.reread ((d.status.getD {}).record now r)) := by
  let change (s : Status) : Status := s.record (u.clock scene.calls) r
  have hreport := u.run_report r d scene
  by_cases hsame : (d.mapStatus change).status = d.status
  · rw [hreport, u.run_updateStatus_of_eq hsame]
    refine ⟨u.clock scene.calls, change (d.status.getD {}), ?_, .inl rfl⟩
    rcases agrees with rfl | hcreating
    · exact (congrArg (Store.Records space name · scene.store) hsame).mpr records
    · have hphase : (change (d.status.getD {})).phase = .creating := hcreating _ hsame.symm
      cases r <;> cases hphase
  · rw [u.run_updateStatus_of_ne hsame] at hreport
    obtain ⟨last, hrecords, -, hlast⟩ := records_requested (d := d.mapStatus change) keeps keepsTidy
      (named.withStatus _) rfl (scene.after .clock) tidy records
    have hnone := written (scene.after .clock).calls (d.mapStatus change) (hreport ▸ rfl)
    refine ⟨u.clock scene.calls, _, ?_, .inr rfl⟩
    rw [hreport, ← hlast hnone]
    exact hrecords

end Surroundings

end ClusterOperator
