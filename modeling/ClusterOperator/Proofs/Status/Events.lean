import Mathlib.Data.List.SplitBy
import ClusterOperator.Declaration.Report

/-!
# The history of failures

The history sums up the failures that were reported. It has one entry for each longest row of
failures with one code, and reports that the deployment runs do not end a row. Only a first row with
the code of the last entry that was there before adds no entry: that entry then lasts until the end
of the row.

## Main definitions

* `Incident`, `incidents`: the failures among the reports.
* `Event.SumsUp`: the entry for a row of failures.
* `Event.Continues`: a history that continues an older one by rows of failures.

## Main results

* `Event.fail_append_same`, `Event.fail_fresh`: what one failure does to the history.
* `Event.failAll_rows`: rows of failures are summed up one by one.
* `Status.events_recordAll`: the history after any reports.
-/

namespace ClusterOperator

/-- A failure that was reported, and when. -/
structure Incident where
  code : Signed32
  message : String
  time : Instant

/-- The failures among the reports, in their order. -/
def incidents (reports : List (Instant × Report)) : List Incident :=
  reports.filterMap fun (time, report) =>
    match report with
    | .running => none
    | .failure code message => some { code, message, time }

namespace Status

/-- The status after some reports, one after the other. -/
def recordAll (s : Status) (reports : List (Instant × Report)) : Status :=
  reports.foldl (fun s (now, report) => s.record now report) s

end Status

namespace Event

variable {code : Signed32} {message : String} {now : Instant} {last : Event} {old : List Event}
  {row : List Incident} {rows : List (List Incident)}

/-- A failure with the code of the last entry extends this entry. -/
theorem fail_append_same (earlier : List Event) (h : last.code = code) (message : String)
    (now : Instant) :
    fail code message now (earlier ++ [last]) =
      earlier ++ [{ last with lastTransitionTime := some now }] := by
  induction earlier with
  | nil => exact if_pos h
  | cons e rest ih =>
    cases rest with
    | nil => exact congrArg (e :: ·) ih
    | cons e' rest => exact congrArg (e :: ·) ih

/-- A failure with another code than the last entry adds an entry. -/
theorem fail_fresh (h : ∀ last ∈ old.getLast?, last.code ≠ code) :
    fail code message now old = old ++ [first code message now] := by
  induction old with
  | nil => rfl
  | cons e rest ih =>
    cases rest with
    | nil => exact if_neg (h e rfl)
    | cons e' rest => exact congrArg (e :: ·) (ih h)

/-- The history after some failures, one after the other. -/
def failAll (old : List Event) (failures : List Incident) : List Event :=
  failures.foldl (fun events i => fail i.code i.message i.time events) old

theorem failAll_append (old : List Event) (before after : List Incident) :
    failAll old (before ++ after) = failAll (failAll old before) after :=
  List.foldl_append

/-- A row of failures with the code of the last entry extends this entry to its end. -/
theorem failAll_same (earlier : List Event) (h : ∀ i ∈ row, i.code = last.code) {i : Incident}
    (hi : row.getLast? = some i) :
    failAll (earlier ++ [last]) row =
      earlier ++ [{ last with lastTransitionTime := some i.time }] := by
  induction row generalizing last with
  | nil => cases hi
  | cons j rest ih =>
    have hj := fail_append_same earlier (h j List.mem_cons_self).symm j.message j.time
    have hstep : failAll (earlier ++ [last]) (j :: rest) =
        failAll (earlier ++ [{ last with lastTransitionTime := some j.time }]) rest :=
      congrArg (failAll · rest) hj
    rw [hstep]
    cases rest with
    | nil => exact Option.some.inj hi ▸ rfl
    | cons k rest => exact ih (fun i hi => h i (List.mem_cons_of_mem j hi)) hi

/-- An entry sums up a row of failures: it has their code, the message and the time of the first one
and the time of the last one. -/
structure SumsUp (row : List Incident) (e : Event) : Prop where
  code : ∀ i ∈ row, i.code = e.code
  status : e.status = "false"
  first : ∃ i, row.head? = some i ∧ e.message = i.message ∧ e.firstAppearTime = some i.time
  last : ∃ i, row.getLast? = some i ∧ e.lastTransitionTime = some i.time

/-- A row of failures with another code than the last entry adds the entry that sums it up. -/
theorem failAll_fresh (old : List Event) {i : Incident} {rest : List Incident}
    (h : ∀ j ∈ rest, j.code = i.code)
    (fresh : ∀ last ∈ old.getLast?, last.code ≠ i.code) :
    ∃ e, failAll old (i :: rest) = old ++ [e] ∧ SumsUp (i :: rest) e := by
  have hstep : failAll old (i :: rest) = failAll (old ++ [.first i.code i.message i.time]) rest :=
    congrArg (failAll · rest) (fail_fresh fresh)
  have hcode : ∀ j ∈ i :: rest, j.code = i.code := List.forall_mem_cons.mpr ⟨rfl, h⟩
  cases hlast : rest.getLast? with
  | none =>
    obtain rfl : rest = [] := List.getLast?_eq_none_iff.mp hlast
    exact ⟨_, hstep, hcode, rfl, ⟨i, rfl, rfl, rfl⟩, i, rfl, rfl⟩
  | some j =>
    rw [failAll_same old h hlast] at hstep
    refine ⟨_, hstep, hcode, rfl, ⟨i, rfl, rfl, rfl⟩, j, ?_, rfl⟩
    rw [List.getLast?_cons, hlast]
    rfl

/-- Rows of failures, each with one code, and this another one than the row before. -/
structure Rows (rows : List (List Incident)) : Prop where
  nonempty : [] ∉ rows
  uniform : ∀ row ∈ rows, ∀ i ∈ row, ∀ j ∈ row, i.code = j.code
  distinct : rows.IsChain fun row next => ∀ i ∈ row, ∀ j ∈ next, i.code ≠ j.code

namespace Rows

theorem tail (h : Rows (row :: rows)) : Rows rows where
  nonempty hnil := h.nonempty (List.mem_cons_of_mem row hnil)
  uniform next hnext := h.uniform next (List.mem_cons_of_mem row hnext)
  distinct := h.distinct.tail

theorem head_ne (h : Rows (row :: rows)) {i : Incident} (hi : i ∈ row) :
    ∀ next ∈ rows.head?, ∀ j ∈ next, j.code ≠ i.code := fun next hnext j hj =>
  ((List.isChain_cons.mp h.distinct).1 next hnext i hi j hj).symm

theorem exists_cons (h : Rows (row :: rows)) :
    ∃ i rest, row = i :: rest ∧ ∀ j ∈ rest, j.code = i.code := by
  cases row with
  | nil => exact absurd List.mem_cons_self h.nonempty
  | cons i rest =>
    exact ⟨i, rest, rfl, fun j hj =>
      h.uniform _ List.mem_cons_self j (List.mem_cons_of_mem i hj) i List.mem_cons_self⟩

end Rows

/-- Rows of failures, the first one with another code than the last entry, add the entries that sum
them up. -/
theorem failAll_rows (hrows : Rows rows)
    (fresh : ∀ last ∈ old.getLast?, ∀ row ∈ rows.head?, ∀ i ∈ row, i.code ≠ last.code) :
    ∃ added, failAll old rows.flatten = old ++ added ∧ List.Forall₂ SumsUp rows added := by
  induction rows generalizing old with
  | nil => exact ⟨[], (List.append_nil old).symm, .nil⟩
  | cons row rows ih =>
    obtain ⟨i, rest, rfl, hcodes⟩ := hrows.exists_cons
    obtain ⟨e, he, hsum⟩ := failAll_fresh old hcodes fun last hlast =>
      (fresh last hlast _ rfl i List.mem_cons_self).symm
    -- the entry just added is the last one now, and the next row has another code
    have hnext : ∀ last ∈ (old ++ [e]).getLast?, ∀ next ∈ rows.head?, ∀ j ∈ next,
        j.code ≠ last.code := by
      intro last hlast
      obtain rfl : e = last := Option.some.inj (List.getLast?_concat.symm.trans hlast)
      exact hsum.code i List.mem_cons_self ▸ hrows.head_ne List.mem_cons_self
    obtain ⟨added, hadded, hsums⟩ := ih hrows.tail hnext
    refine ⟨e :: added, ?_, .cons hsum hsums⟩
    rw [List.flatten_cons, failAll_append, he, hadded, List.append_assoc]
    rfl

/-- A history grows by rows of failures. Each row adds the entry that sums it up, but a first row
with the code of the last entry extends this one. -/
inductive GrowsBy : List Event → List (List Incident) → List Event → Prop
  | added {old added : List Event} {rows : List (List Incident)}
      (fresh : ∀ last ∈ old.getLast?, ∀ row ∈ rows.head?, ∀ i ∈ row, i.code ≠ last.code)
      (sums : List.Forall₂ SumsUp rows added) : GrowsBy old rows (old ++ added)
  | extended {earlier added : List Event} {last : Event} {row : List Incident}
      {rows : List (List Incident)} {i : Incident} (same : ∀ i ∈ row, i.code = last.code)
      (latest : row.getLast? = some i) (sums : List.Forall₂ SumsUp rows added) :
      GrowsBy (earlier ++ [last]) (row :: rows)
        (earlier ++ { last with lastTransitionTime := some i.time } :: added)

/-- Rows of failures with one code each make the history grow by them. -/
theorem growsBy_failAll (old : List Event) (hrows : Rows rows) :
    GrowsBy old rows (failAll old rows.flatten) := by
  by_cases hfresh : ∀ last ∈ old.getLast?, ∀ row ∈ rows.head?, ∀ i ∈ row, i.code ≠ last.code
  · obtain ⟨added, hadded, hsums⟩ := failAll_rows hrows hfresh
    exact hadded ▸ .added hfresh hsums
  push Not at hfresh
  obtain ⟨last, hlast, row, hrow, i, hi, hcode⟩ := hfresh
  obtain ⟨earlier, rfl⟩ := List.getLast?_eq_some_iff.mp hlast
  obtain ⟨rest, rfl⟩ := List.head?_eq_some_iff.mp hrow
  have hsame : ∀ j ∈ row, j.code = last.code := fun j hj =>
    (hrows.uniform row List.mem_cons_self j hj i hi).trans hcode
  obtain ⟨latest, hlatest⟩ : ∃ latest, row.getLast? = some latest :=
    ⟨_, List.getLast?_eq_some_getLast (List.ne_nil_of_mem hi)⟩
  have hextended := failAll_same earlier hsame hlatest
  have hnext : ∀ e ∈ (earlier ++ [{ last with lastTransitionTime := some latest.time }]).getLast?,
      ∀ next ∈ rest.head?, ∀ j ∈ next, j.code ≠ e.code := by
    intro e he
    obtain rfl := Option.some.inj (List.getLast?_concat.symm.trans he)
    exact hcode ▸ hrows.head_ne hi
  obtain ⟨added, hadded, hsums⟩ := failAll_rows hrows.tail hnext
  rw [List.flatten_cons, failAll_append, hextended, hadded, List.append_assoc]
  exact .extended hsame hlatest hsums

end Event

/-- The longest rows of failures with one code. -/
def Incident.rows (failures : List Incident) : List (List Incident) :=
  failures.splitBy fun i j => i.code == j.code

theorem Incident.rows_rows (failures : List Incident) : Event.Rows (rows failures) := by
  have hnonempty : [] ∉ rows failures := List.nil_notMem_splitBy _ failures
  have huniform : ∀ row ∈ rows failures, ∀ i ∈ row, ∀ j ∈ row, i.code = j.code := by
    intro row hrow
    have hchain : row.IsChain fun i j => i.code = j.code :=
      (List.isChain_of_mem_splitBy hrow).imp fun _ _ h => eq_of_beq h
    have : IsTrans Incident fun i j => i.code = j.code := ⟨fun _ _ _ => Eq.trans⟩
    have : Std.Symm fun i j : Incident => i.code = j.code := ⟨fun _ _ => Eq.symm⟩
    have hall := List.Pairwise.forall_of_forall (R := fun i j : Incident => i.code = j.code)
      (fun _ _ => rfl) hchain.pairwise
    exact fun i hi j hj => hall hi hj
  refine ⟨hnonempty, huniform, ?_⟩
  -- only the last failure of a row and the first one of the next row are known to differ
  refine (List.isChain_getLast_head_splitBy _ failures).imp_of_mem_imp ?_
  intro row next hrow hnext ⟨hlast, hhead, hdiffer⟩ i hi j hj hij
  have hi' := huniform row hrow i hi _ (List.getLast_mem hlast)
  have hj' := huniform next hnext j hj _ (List.head_mem hhead)
  exact ne_of_beq_false hdiffer (hi'.symm.trans (hij.trans hj'))

namespace Status

/-- The history after some reports depends on the failures among them. -/
theorem events_recordAll_eq (s : Status) (reports : List (Instant × Report)) :
    (s.recordAll reports).events = Event.failAll s.events (incidents reports) := by
  induction reports generalizing s with
  | nil => rfl
  | cons r rest ih =>
    obtain ⟨now, report⟩ := r
    cases report with
    | running => exact ih (s.recordRunning now)
    | failure code message => exact ih (s.recordFailure code message now)

/-- The history after any reports is the one before them, grown by the longest rows of failures with
one code among the reports. -/
theorem events_recordAll (s : Status) (reports : List (Instant × Report)) :
    Event.GrowsBy s.events (Incident.rows (incidents reports)) (s.recordAll reports).events := by
  have hrows := Event.growsBy_failAll s.events (Incident.rows_rows (incidents reports))
  rw [Incident.rows, List.flatten_splitBy] at hrows
  rw [events_recordAll_eq]
  exact hrows

end Status

end ClusterOperator
