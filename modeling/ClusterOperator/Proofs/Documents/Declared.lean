import ClusterOperator.Proofs.Documents.Objects
import ClusterOperator.Proofs.Documents.Texts
import ClusterOperator.Proofs.Status.Lawful

/-!
# Declared and observed states lose nothing

A declared state is read back from its document as it is, and an observed one up to the fractions
of its times. Whatever document or text a state was decoded from, in whichever of the accepted
forms: once it is encoded, decoding and encoding change it no more.

## Main definitions

* `Status.times`: the times in an observed state.
* `Status.wholeSeconds`: an observed state with its times cut to whole seconds.
* `Document.Keeps`: decoding an encoded value gives the value back, up to a cut.

## Main results

* `Status.reread_eq`: an observed state is read back with its times cut.
* `Document.spec_and_status_kept`: declared and observed states are kept.
-/

namespace ClusterOperator

open Document

/-! ### Declared states -/

namespace Spec

theorem wellFormed : (shape Spec).wellFormed = true := by rfl

/-- Everything about a declared state is written. -/
theorem exact : (shape Spec).exact = true := by rfl

theorem plain : (shape Spec).plain = true := by rfl

/-- Different declared states are written differently. -/
theorem write_inj {s s' : Spec} (h : write s = write s') : s = s' := by
  have hread := read_write wellFormed s
  rw [h, read_write wellFormed, reread_of_exact exact, reread_of_exact exact] at hread
  exact (Except.ok.inj hread).symm

end Spec

/-! ### Times -/

/-- The times in an entry of the failure history. -/
def Event.times (e : Event) : List Instant :=
  e.firstAppearTime.toList ++ e.lastTransitionTime.toList

/-- The times in a condition. -/
def Condition.times (c : Condition) : List Instant :=
  c.lastProbeTime.toList ++ c.lastTransitionTime.toList

/-- The times in an observed state. -/
def Status.times (t : Status) : List Instant :=
  t.events.flatMap Event.times ++ t.conditions.flatMap Condition.times

/-- An entry of the failure history with its times cut to whole seconds. -/
def Event.wholeSeconds (e : Event) : Event :=
  { e with
    firstAppearTime := e.firstAppearTime.map Instant.wholeSeconds
    lastTransitionTime := e.lastTransitionTime.map Instant.wholeSeconds }

/-- A condition with its times cut to whole seconds. -/
def Condition.wholeSeconds (c : Condition) : Condition :=
  { c with
    lastProbeTime := c.lastProbeTime.map Instant.wholeSeconds
    lastTransitionTime := c.lastTransitionTime.map Instant.wholeSeconds }

/-- An observed state with its times cut to whole seconds. -/
def Status.wholeSeconds (t : Status) : Status :=
  { t with
    events := t.events.map Event.wholeSeconds
    conditions := t.conditions.map Condition.wholeSeconds }

theorem Instant.wholeSeconds_eq {t : Instant} (h : t.nano = 0) : t.wholeSeconds = t := by
  rw [wholeSeconds, ← h]

theorem Instant.map_wholeSeconds_eq {t : Option Instant} (h : ∀ time ∈ t.toList, time.nano = 0) :
    t.map wholeSeconds = t := by
  cases t with
  | none => rfl
  | some time => exact congrArg some (wholeSeconds_eq (h time (List.mem_singleton_self time)))

theorem Event.wholeSeconds_eq {e : Event} (h : ∀ time ∈ e.times, time.nano = 0) :
    e.wholeSeconds = e := by
  obtain ⟨hfirst, hlast⟩ := List.forall_mem_append.mp h
  rw [wholeSeconds, Instant.map_wholeSeconds_eq hfirst, Instant.map_wholeSeconds_eq hlast]

theorem Condition.wholeSeconds_eq {c : Condition} (h : ∀ time ∈ c.times, time.nano = 0) :
    c.wholeSeconds = c := by
  obtain ⟨hprobe, hlast⟩ := List.forall_mem_append.mp h
  rw [wholeSeconds, Instant.map_wholeSeconds_eq hprobe, Instant.map_wholeSeconds_eq hlast]

/-- A condition is read back with its times cut. -/
theorem Condition.reread_eq (c : Condition) : reread c = c.wholeSeconds := by
  obtain ⟨type, status, probed, changed, reason, message⟩ := c
  cases probed <;> cases changed <;> cases reason <;> cases message <;> rfl

namespace Status

theorem plain : (shape Status).plain = true := by rfl

/-- Where all times are whole seconds, nothing is cut. -/
theorem wholeSeconds_eq {t : Status} (h : ∀ time ∈ t.times, time.nano = 0) :
    t.wholeSeconds = t := by
  obtain ⟨hevents, hconditions⟩ := List.forall_mem_append.mp h
  have hevents : t.events.map Event.wholeSeconds = t.events :=
    (List.map_congr_left fun e he => Event.wholeSeconds_eq fun time htime =>
      hevents time (List.mem_flatMap.mpr ⟨e, he, htime⟩)).trans (List.map_id _)
  have hconditions : t.conditions.map Condition.wholeSeconds = t.conditions :=
    (List.map_congr_left fun c hc => Condition.wholeSeconds_eq fun time htime =>
      hconditions time (List.mem_flatMap.mpr ⟨c, hc, htime⟩)).trans (List.map_id _)
  rw [wholeSeconds, hevents, hconditions]

/-- An observed state is read back with its times cut. -/
theorem reread_eq (t : Status) : reread t = t.wholeSeconds := by
  obtain ⟨phase, events, conditions⟩ := t
  rw [reread_mk, funext Event.reread_eq, funext Condition.reread_eq]
  rfl

end Status

/-! ### Encoding what was decoded -/

namespace Document

/-- Whatever a value was decoded from, be it a document or a text: encoded, decoded and encoded
again it gives the same encoding, and what was decoded the second time is the value with the cut. -/
structure Stable (α : Type) [Document α] (cut : α → α) : Prop where
  document : ∀ (j : Json) (a : α), read α j = .ok a →
    ∃ b, read α (write a) = .ok b ∧ write b = write a ∧ b = cut a
  text : ∀ (text : String) (a : α), readText α text = .ok a →
    ∃ b, readText α (write a).render = .ok b ∧ (write b).render = (write a).render ∧ b = cut a

/-- Types of well-formed plain shapes are stable up to what is read back. -/
theorem stable {α : Type} [Document α] (h : (shape α).wellFormed = true)
    (plain : (shape α).plain = true) : Stable α reread where
  document _ a _ := ⟨reread a, read_write h a, write_reread plain a, rfl⟩
  text _ a _ :=
    ⟨reread a, readText_render h plain a, congrArg Json.render (write_reread plain a), rfl⟩

/-- Declared states are read back from their documents and texts as they are, and observed states
of whole seconds are. An unset number of replicas is not written as zero, nor an unset configuration
as an empty one. What was decoded from any document or text is stable, but for the fractions of the
times of an observed state. -/
theorem spec_and_status_kept :
    (∀ s : Spec, read Spec (write s) = .ok s ∧ readText Spec (write s).render = .ok s) ∧
    (∀ t : Status, (∀ time ∈ t.times, time.nano = 0) →
      read Status (write t) = .ok t ∧ readText Status (write t).render = .ok t) ∧
    (∀ s : Spec,
      write { s with replicas := none } ≠ write { s with replicas := some ⟨0, by decide⟩ } ∧
      write { s with config := none } ≠ write { s with config := some "" }) ∧
    Stable Spec id ∧ Stable Status Status.wholeSeconds := by
  have hspec : (reread : Spec → Spec) = id := funext (reread_of_exact Spec.exact)
  have hstatus : (reread : Status → Status) = Status.wholeSeconds := funext Status.reread_eq
  refine ⟨fun s => ?_, fun t hwhole => ?_, fun s => ⟨fun h => ?_, fun h => ?_⟩, ?_, ?_⟩
  · have hs : reread s = s := reread_of_exact Spec.exact s
    rw [read_write Spec.wellFormed, readText_render Spec.wellFormed Spec.plain, hs]
    exact ⟨rfl, rfl⟩
  · have ht : reread t = t := t.reread_eq.trans (Status.wholeSeconds_eq hwhole)
    rw [read_write Status.wellFormed, readText_render Status.wellFormed Status.plain, ht]
    exact ⟨rfl, rfl⟩
  · cases congrArg Spec.replicas (Spec.write_inj h)
  · cases congrArg Spec.config (Spec.write_inj h)
  · exact hspec ▸ stable Spec.wellFormed Spec.plain
  · exact hstatus ▸ stable Status.wellFormed Status.plain

end Document

/-- An observed state as lists, with a phase that is an object and a time of another zone. -/
def Status.listedText : String :=
  "[\x7b\"Failed\":null\x7d,[[502,\"down\",\"false\",\"2024-01-31T23:30:00.5-01:00\",null]],[]]"

/-- What the text of lists stands for. -/
def Status.listedSample : Status where
  phase := .failed
  events := [⟨Fault.quorumLost, "down", "false",
    some (Instant.ofFields ⟨2024, 2, 1, by decide⟩ 0 30 0 500000000), none⟩]

/-- A declared state in another order, with an unknown member and a null. -/
def Spec.sparseText : String :=
  "\x7b\"replicas\":0,\"unknown\":[1],\"resources\":null,\"config\":\"\"\x7d"

/-- What the text stands for that leaves most out. -/
def Spec.sparseSample : Spec where
  replicas := some ⟨0, by decide⟩
  config := some ""

/-- The text of lists and the text that leaves most out are decoded, and what they stand for is
kept; the observed state without its fraction is read back as it is. -/
theorem Document.listed_and_sparse_kept :
    (readText Status Status.listedText = .ok Status.listedSample ∧
      ∃ t, readText Status (write Status.listedSample).render = .ok t ∧
        (write t).render = (write Status.listedSample).render ∧
        t = Status.listedSample.wholeSeconds) ∧
    ((∀ time ∈ Status.listedSample.wholeSeconds.times, time.nano = 0) ∧
      read Status (write Status.listedSample.wholeSeconds) =
        .ok Status.listedSample.wholeSeconds) ∧
    (readText Spec Spec.sparseText = .ok Spec.sparseSample ∧
      ∃ s, readText Spec (write Spec.sparseSample).render = .ok s ∧
        (write s).render = (write Spec.sparseSample).render ∧ s = Spec.sparseSample) := by
  obtain ⟨-, hwhole, -, hspec, hstatus⟩ := spec_and_status_kept
  have hlisted : readText Status Status.listedText = .ok Status.listedSample := by
    with_unfolding_all rfl
  have hsparse : readText Spec Spec.sparseText = .ok Spec.sparseSample := by
    with_unfolding_all rfl
  have hnano : ∀ time ∈ Status.listedSample.wholeSeconds.times, time.nano = 0 := by decide
  exact ⟨⟨hlisted, hstatus.text _ _ hlisted⟩, ⟨hnano, (hwhole _ hnano).1⟩,
    ⟨hsparse, hspec.text _ _ hsparse⟩⟩

end ClusterOperator
