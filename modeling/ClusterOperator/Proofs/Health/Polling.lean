import ClusterOperator.Health.Polling

/-!
# What polling finds

However long the servers take and however many are asked at a time, polling ends well exactly if
every pod is healthy. If nobody panics, it finds what asking one server after the other finds: the
fault of the first pod that is unwell.

## Main definitions

* `Target.Well`: the server of a pod is reached and reports that it is healthy.

## Main results

* `Polling.run_eq_ok`: polling ends well exactly if every pod is healthy.
* `Polling.run_eq_oneByOne`: without a panic, delays and the limit make no difference.
* `Target.outcome_eq_healthy`, `Target.code_of_unwell`: what a reply says about a pod.
-/

namespace ClusterOperator

namespace Polling

/-! ### Times make no difference -/

theorem map_outcome_timeline (limit : Nat) (before : List Nat) (jobs : List Job) :
    (timeline limit before jobs).map Slot.outcome = jobs.map Job.outcome := by
  induction jobs generalizing before with
  | nil => rfl
  | cons job rest ih => exact congrArg (job.outcome :: ·) (ih _)

theorem conclude_eq_ok {slots : List Slot} :
    conclude slots = .ok () ↔ ∀ slot ∈ slots, slot.outcome = .healthy := by
  induction slots with
  | nil => exact iff_of_true rfl fun _ h => nomatch h
  | cons slot rest ih =>
    rw [conclude, List.forall_mem_cons]
    cases hslot : slot.outcome with
    | healthy => exact ih.trans (iff_and_self.mpr fun _ => rfl)
    | panicked => exact iff_of_false nofun fun h => nomatch h.1
    | unwell fault =>
      refine iff_of_false (fun h => ?_) fun h => nomatch h.1
      simp only at h
      split at h <;> cases h

/-- Polling ends well exactly if every pod is healthy. -/
theorem run_eq_ok {limit : Nat} {jobs : List Job} :
    run limit jobs = .ok () ↔ ∀ job ∈ jobs, job.outcome = .healthy := by
  have hmap := map_outcome_timeline (max 1 limit) [] jobs
  have hslots : (∀ slot ∈ timeline (max 1 limit) [] jobs, slot.outcome = .healthy) ↔
      ∀ o ∈ (timeline (max 1 limit) [] jobs).map Slot.outcome, o = .healthy := by simp
  rw [run, conclude_eq_ok, hslots, hmap]
  simp

theorem conclude_timeline {jobs : List Job} (h : ∀ job ∈ jobs, job.outcome ≠ .panicked)
    (limit : Nat) (before : List Nat) : conclude (timeline limit before jobs) = oneByOne jobs := by
  induction jobs generalizing before with
  | nil => rfl
  | cons job rest ih =>
    obtain ⟨hjob, hrest⟩ := List.forall_mem_cons.mp h
    rw [timeline, oneByOne]
    simp only [conclude]
    cases houtcome : job.outcome with
    | healthy => exact ih hrest _
    | panicked => exact absurd houtcome hjob
    | unwell fault =>
      -- Later requests can only interfere by a panic.
      refine if_neg fun hany => ?_
      obtain ⟨later, hlater, hpanicked⟩ := List.any_eq_true.mp hany
      have houtcomes := List.mem_map_of_mem (f := Slot.outcome) hlater
      rw [map_outcome_timeline] at houtcomes
      obtain ⟨job', hjob', heq⟩ := List.mem_map.mp houtcomes
      exact hrest job' hjob' (heq.trans (of_decide_eq_true hpanicked).1)

/-- Without a panic, delays and the limit make no difference. -/
theorem run_eq_oneByOne {jobs : List Job} (h : ∀ job ∈ jobs, job.outcome ≠ .panicked)
    (limit : Nat) : run limit jobs = oneByOne jobs :=
  conclude_timeline h _ _

/-- Without a panic, polling that does not end well finds the fault of a pod. -/
theorem exists_unwell {jobs : List Job} (h : ∀ job ∈ jobs, job.outcome ≠ .panicked)
    (hunwell : ∃ job ∈ jobs, job.outcome ≠ .healthy) :
    ∃ job ∈ jobs, ∃ fault, job.outcome = .unwell fault ∧
      oneByOne jobs = .error (.error (.fatal fault)) := by
  induction jobs with
  | nil => exact absurd hunwell fun ⟨_, h, _⟩ => nomatch h
  | cons job rest ih =>
    obtain ⟨hjob, hrest⟩ := List.forall_mem_cons.mp h
    rw [oneByOne]
    cases houtcome : job.outcome with
    | healthy =>
      have hlater : ∃ job ∈ rest, job.outcome ≠ .healthy := by
        obtain ⟨job', hmem, hne⟩ := hunwell
        rcases List.mem_cons.mp hmem with rfl | hmem
        · exact absurd houtcome hne
        · exact ⟨job', hmem, hne⟩
      obtain ⟨job', hmem, fault, hfault, hone⟩ := ih hrest hlater
      exact ⟨job', List.mem_cons_of_mem _ hmem, fault, hfault, hone⟩
    | panicked => exact absurd houtcome hjob
    | unwell fault => exact ⟨job, List.mem_cons_self, fault, houtcome, rfl⟩

end Polling

/-! ### What a reply says about a pod -/

namespace Target

variable {probe : String → TimedReply} {t : Target}

/-- The server of a pod is reached and reports that it is healthy. -/
def Well (probe : String → TimedReply) (t : Target) : Prop :=
  ∃ address r, t.address = some address ∧ (probe address).reply = .report r ∧
    r.code = NodeReport.healthy

theorem verdict_eq_healthy {pod address : String} {reply : ProbeReply} :
    verdict pod address reply = .healthy ↔
      ∃ r, reply = .report r ∧ r.code = NodeReport.healthy := by
  cases reply with
  | report r =>
    rw [verdict]
    split
    · next hcode => exact iff_of_true rfl ⟨r, rfl, hcode⟩
    · next hcode =>
      exact iff_of_false nofun fun ⟨_, h, hcode'⟩ => hcode (ProbeReply.report.inj h ▸ hcode')
  | failed e => exact iff_of_false nofun fun ⟨_, h, _⟩ => nomatch h
  | panicked => exact iff_of_false nofun fun ⟨_, h, _⟩ => nomatch h

theorem outcome_eq_healthy : (t.job probe).outcome = .healthy ↔ t.Well probe := by
  unfold job Well
  cases t.address with
  | none => exact iff_of_false nofun fun ⟨_, _, h, _⟩ => nomatch h
  | some address =>
    refine verdict_eq_healthy.trans ⟨fun ⟨r, hreply, hcode⟩ => ⟨address, r, rfl, hreply, hcode⟩, ?_⟩
    rintro ⟨_, r, h, hreply, hcode⟩
    cases h
    exact ⟨r, hreply, hcode⟩

/-- A pod that is unwell is so for a server that cannot be reached or is unwell. -/
theorem code_of_unwell {fault : Fault} (h : (t.job probe).outcome = .unwell fault) :
    fault.code = Fault.serverUnreachable := by
  unfold job at h
  split at h
  · cases h
    rfl
  · next address _ =>
    unfold verdict at h
    split at h
    · split at h
      · cases h
      · cases h
        rfl
    · cases h
      rfl
    · cases h

theorem outcome_ne_panicked (h : ∀ address, (probe address).reply ≠ .panicked) :
    (t.job probe).outcome ≠ .panicked := by
  intro hpanicked
  unfold job at hpanicked
  split at hpanicked
  · cases hpanicked
  · next address _ =>
    unfold verdict at hpanicked
    split at hpanicked
    · split at hpanicked <;> cases hpanicked
    · cases hpanicked
    · next hreply => exact h address hreply

end Target

end ClusterOperator
