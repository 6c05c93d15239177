import Mathlib.Data.List.DropRight
import ClusterOperator.Error
import ClusterOperator.Proofs.Status.Events

/-!
# The condition `Ready`

The condition `Ready` says what the last report said, and its two times say since when: since when
the reports had this value, and since when they had this value and this reason. The reports that
agree with the last one are the longest such row at the end of the reports, and the times are those
of the first report of the row. The other conditions are left alone.

## Main definitions

* `Report.value`, `Report.reason`, `Report.message?`, `Report.outcome`: what a report comes to in
  the condition.
* `Report.lastRow`: the longest row of last reports that are alike.
* `Condition.TellsOf`: a condition that tells of some reports.

## Main results

* `Condition.tellsOf_first`, `Condition.TellsOf.report`: what one report does to the condition.
* `Status.ready_recordAll`: the condition after any reports.
-/

namespace ClusterOperator

namespace Report

/-- The value of the condition after a report. -/
def value : Report → String
  | .running => "True"
  | .failure _ _ => "False"

/-- The reason of the condition after a report. -/
def reason : Report → String
  | .running => Status.healthyReason
  | .failure code _ => Status.failureReason code

/-- The message of the condition after a report. -/
def message? : Report → Option String
  | .running => none
  | .failure _ message => some message

/-- What a report found: the value and the reason of the condition, without the message. -/
def outcome (r : Report) : String × String := (r.value, r.reason)

variable {κ : Type} [DecidableEq κ] {kind : Report → κ} {reports : List (Instant × Report)}
  {last r : Instant × Report}

/-- The longest row of last reports that are of the kind of the very last one. -/
def lastRow (kind : Report → κ) (reports : List (Instant × Report)) : List (Instant × Report) :=
  match reports.getLast? with
  | none => []
  | some last => reports.rtakeWhile fun r => kind r.2 = kind last.2

theorem lastRow_singleton (kind : Report → κ) (r : Instant × Report) : lastRow kind [r] = [r] :=
  List.rtakeWhile_concat_pos _ [] r (decide_eq_true rfl)

/-- A report of the same kind joins the row. -/
theorem lastRow_concat_same (hlast : reports.getLast? = some last) (same : kind r.2 = kind last.2) :
    lastRow kind (reports ++ [r]) = lastRow kind reports ++ [r] := by
  rw [lastRow, lastRow, List.getLast?_concat, hlast]
  exact (List.rtakeWhile_concat_pos _ _ r (decide_eq_true rfl)).trans (by rw [same])

/-- A report of another kind starts a row. -/
theorem lastRow_concat_changed (hlast : reports.getLast? = some last)
    (changed : kind r.2 ≠ kind last.2) : lastRow kind (reports ++ [r]) = [r] := by
  obtain ⟨earlier, rfl⟩ := List.getLast?_eq_some_iff.mp hlast
  rw [lastRow, List.getLast?_concat]
  refine (List.rtakeWhile_concat_pos _ _ r (decide_eq_true rfl)).trans ?_
  rw [List.rtakeWhile_concat_neg _ _ last (mt of_decide_eq_true changed.symm)]
  rfl

/-- The first report of the row stays the first one when another one of the same kind joins it. -/
theorem head?_lastRow_concat_same (hlast : reports.getLast? = some last)
    (same : kind r.2 = kind last.2) {first : Instant × Report}
    (hfirst : (lastRow kind reports).head? = some first) :
    (lastRow kind (reports ++ [r])).head? = some first := by
  rw [lastRow_concat_same hlast same, List.head?_append, hfirst]
  rfl

end Report

namespace Condition

variable {cs others : List Condition} {c : Condition} {reports : List (Instant × Report)}
  {r : Instant × Report}

/-- A report on conditions none of which is the one that the operator keeps adds it. -/
theorem reportAll_unready (unready : ∀ c ∈ cs, c.type ≠ ready) (value reason : String)
    (message : Option String) (now : Instant) :
    reportAll value reason message now cs = cs ++ [first value reason message now] := by
  induction cs with
  | nil => rfl
  | cons c rest ih =>
    obtain ⟨hc, hrest⟩ := List.forall_mem_cons.mp unready
    rw [reportAll, if_neg hc, ih hrest]
    rfl

/-- A report changes the first condition that the operator keeps, wherever it stands. -/
theorem reportAll_ready (unready : ∀ c ∈ others, c.type ≠ ready) (hc : c.type = ready)
    (value reason : String) (message : Option String) (now : Instant) (rest : List Condition) :
    reportAll value reason message now (others ++ c :: rest) =
      others ++ c.report value reason message now :: rest := by
  induction others with
  | nil => exact if_pos hc
  | cons other others ih =>
    obtain ⟨hother, hothers⟩ := List.forall_mem_cons.mp unready
    rw [List.cons_append, reportAll, if_neg hother, ih hothers]
    rfl

/-- A condition tells of some reports: it says what the last of them said, its transition time is
that of the first report of the last row with one value, and its probe time is that of the first
report of the last row with one value and one reason. -/
structure TellsOf (reports : List (Instant × Report)) (c : Condition) : Prop where
  type : c.type = ready
  last : ∃ r, reports.getLast? = some r ∧ c.status = r.2.value ∧ c.reason = some r.2.reason ∧
    c.message = r.2.message?
  changed : ∃ r, (Report.lastRow Report.value reports).head? = some r ∧
    c.lastTransitionTime = some r.1
  probed : ∃ r, (Report.lastRow Report.outcome reports).head? = some r ∧
    c.lastProbeTime = some r.1

/-- The condition of a first report tells of it. -/
theorem tellsOf_first (r : Instant × Report) :
    TellsOf [r] (first r.2.value r.2.reason r.2.message? r.1) where
  type := rfl
  last := ⟨r, rfl, rfl, rfl, rfl⟩
  changed := ⟨r, by rw [Report.lastRow_singleton]; rfl, rfl⟩
  probed := ⟨r, by rw [Report.lastRow_singleton]; rfl, rfl⟩

/-- A report with the outcome of the last one changes the message alone. -/
theorem TellsOf.report_same (h : TellsOf reports c) {last : Instant × Report}
    (hlast : reports.getLast? = some last) (same : r.2.outcome = last.2.outcome) :
    c.report r.2.value r.2.reason r.2.message? r.1 = { c with message := r.2.message? } := by
  obtain ⟨_, hlast', hstatus, hreason, -⟩ := h.last
  obtain rfl := Option.some.inj (hlast.symm.trans hlast')
  obtain ⟨hvalue, hwhy⟩ := Prod.mk.inj same
  exact if_pos ⟨hstatus.trans hvalue.symm, hreason.trans (congrArg some hwhy.symm)⟩

/-- After one more report the condition tells of it too. -/
theorem TellsOf.report (h : TellsOf reports c) (r : Instant × Report) :
    TellsOf (reports ++ [r]) (c.report r.2.value r.2.reason r.2.message? r.1) := by
  obtain ⟨last, hlast, hstatus, hreason, -⟩ := h.last
  obtain ⟨since, hsince, hchanged⟩ := h.changed
  obtain ⟨start, hstart, hprobed⟩ := h.probed
  have hlast' : (reports ++ [r]).getLast? = some r := List.getLast?_concat
  by_cases same : r.2.outcome = last.2.outcome
  · rw [h.report_same hlast same]
    obtain ⟨hvalue, hwhy⟩ := Prod.mk.inj same
    refine ⟨h.type, ⟨r, hlast', hstatus.trans hvalue.symm,
      hreason.trans (congrArg some hwhy.symm), rfl⟩, ⟨since, ?_, hchanged⟩, ⟨start, ?_, hprobed⟩⟩
    · exact Report.head?_lastRow_concat_same hlast hvalue hsince
    · exact Report.head?_lastRow_concat_same hlast same hstart
  have differs : ¬(c.status = r.2.value ∧ c.reason = some r.2.reason) := by
    rintro ⟨hvalue, hwhy⟩
    exact same (Prod.ext (hvalue.symm.trans hstatus)
      (Option.some.inj (hwhy.symm.trans hreason)))
  rw [Condition.report, if_neg differs]
  refine ⟨h.type, ⟨r, hlast', rfl, rfl, rfl⟩, ?_, ⟨r, ?_, rfl⟩⟩
  · -- the reason alone can change, and then the transition time stays
    by_cases hvalue : r.2.value = last.2.value
    · exact ⟨since, Report.head?_lastRow_concat_same hlast hvalue hsince,
        (if_pos (hstatus.trans hvalue.symm)).trans hchanged⟩
    · refine ⟨r, ?_, if_neg fun hc => hvalue (hc.symm.trans hstatus)⟩
      rw [Report.lastRow_concat_changed hlast hvalue]
      rfl
  · rw [Report.lastRow_concat_changed hlast same]
    rfl

end Condition

namespace Status

variable {s : Status} {reports : List (Instant × Report)}

/-- The conditions after a report. -/
theorem conditions_record (s : Status) (now : Instant) (r : Report) :
    (s.record now r).conditions =
      Condition.reportAll r.value r.reason r.message? now s.conditions := by
  cases r <;> rfl

theorem recordAll_concat (s : Status) (reports : List (Instant × Report)) (r : Instant × Report) :
    s.recordAll (reports ++ [r]) = (s.recordAll reports).record r.1 r.2 :=
  List.foldl_concat ..

/-- Reports add the condition that tells of them, after the conditions that were there. -/
theorem conditions_recordAll (unready : ∀ c ∈ s.conditions, c.type ≠ Condition.ready)
    (nonempty : reports ≠ []) :
    ∃ c, (s.recordAll reports).conditions = s.conditions ++ [c] ∧ c.TellsOf reports := by
  induction reports using List.reverseRecOn with
  | nil => exact absurd rfl nonempty
  | append_singleton reports r ih =>
    rw [recordAll_concat, conditions_record]
    by_cases hnil : reports = []
    · subst hnil
      exact ⟨_, Condition.reportAll_unready unready .., Condition.tellsOf_first r⟩
    · obtain ⟨c, hconditions, htells⟩ := ih hnil
      rw [hconditions, Condition.reportAll_ready unready htells.type]
      exact ⟨_, rfl, htells.report r⟩

/-- After any reports on a status without the condition that the operator keeps there is exactly
one: it tells of the reports and stands after the conditions that were there, which are left as they
were. One more report with the outcome of the last one changes its message alone. -/
theorem ready_recordAll (unready : ∀ c ∈ s.conditions, c.type ≠ Condition.ready)
    (nonempty : reports ≠ []) :
    ∃ c, (s.recordAll reports).conditions = s.conditions ++ [c] ∧
      (s.recordAll reports).conditions.filter (·.type = Condition.ready) = [c] ∧
      c.TellsOf reports ∧
      ∀ r : Instant × Report, (∀ last ∈ reports.getLast?, r.2.outcome = last.2.outcome) →
        (s.recordAll (reports ++ [r])).conditions =
          s.conditions ++ [{ c with message := r.2.message? }] := by
  obtain ⟨c, hconditions, htells⟩ := conditions_recordAll unready nonempty
  refine ⟨c, hconditions, ?_, htells, fun r same => ?_⟩
  · have hothers : s.conditions.filter (·.type = Condition.ready) = [] :=
      List.filter_eq_nil_iff.mpr fun c hc => mt of_decide_eq_true (unready c hc)
    have hc : [c].filter (·.type = Condition.ready) = [c] :=
      List.filter_cons_of_pos (decide_eq_true htells.type)
    rw [hconditions, List.filter_append, hothers, hc]
    rfl
  · obtain ⟨last, hlast, -⟩ := htells.last
    rw [recordAll_concat, conditions_record, hconditions,
      Condition.reportAll_ready unready htells.type, htells.report_same hlast (same last hlast)]

end Status

/-- A status with a condition of another client. -/
def Status.watchedSample : Status where
  conditions := [⟨"Degraded", "False", none, some Instant.epoch, none, none⟩]

/-- Three failures a minute apart: the second one has another code than the first one, and the third
one another message than the second one. -/
def Report.changingSample : List (Instant × Report) :=
  [(.ofFields ⟨2024, 3, 1, by decide⟩ 0 0 0 0, .failure Fault.quorumLost "down"),
    (.ofFields ⟨2024, 3, 1, by decide⟩ 0 1 0 0, .failure Fault.serverUnreachable "unreachable"),
    (.ofFields ⟨2024, 3, 1, by decide⟩ 0 2 0 0, .failure Fault.serverUnreachable "unhealthy")]

/-- The condition is false since the first failure, for its reason since the second one, and has the
message of the third one. -/
theorem Report.changingSample_ready :
    (∀ c ∈ Status.watchedSample.conditions, c.type ≠ Condition.ready) ∧ changingSample ≠ [] ∧
      ∃ c, (Status.watchedSample.recordAll changingSample).conditions =
          Status.watchedSample.conditions ++ [c] ∧ c.TellsOf changingSample ∧
        c.lastTransitionTime = some (.ofFields ⟨2024, 3, 1, by decide⟩ 0 0 0 0) ∧
        c.lastProbeTime = some (.ofFields ⟨2024, 3, 1, by decide⟩ 0 1 0 0) ∧
        c.reason = some "Fatal503" ∧ c.message = some "unhealthy" := by
  have hunready : ∀ c ∈ Status.watchedSample.conditions, c.type ≠ Condition.ready := by decide
  have hnonempty : changingSample ≠ [] := List.cons_ne_nil _ _
  obtain ⟨c, hconditions, -, htells, -⟩ := Status.ready_recordAll hunready hnonempty
  refine ⟨hunready, hnonempty, c, hconditions, htells, ?_⟩
  have hc : (Status.watchedSample.recordAll changingSample).conditions.getLast? = some c :=
    hconditions ▸ List.getLast?_concat
  obtain rfl := Option.some.inj hc
  exact ⟨rfl, rfl, rfl, rfl⟩

end ClusterOperator
