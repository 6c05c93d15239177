import ClusterOperator.Health.NodeProbe
import ClusterOperator.Health.Polling
import ClusterOperator.Proofs.Documents.Outlines

/-!
# What the body of an answer says about a server

The code in the body of an answer decides whether a server is healthy, provided that the body is
legible: of the members that a report has besides its code, the message must be a text or null and
the data a list of members, if they are there at all, and neither may be there twice. All other
members, whatever they are, make no difference. A body that is not legible counts as no answer,
whatever its code: a server that gives null as its data is taken for unreachable.

## Main definitions

* `Outline.States`: the code that a body states.
* `Outline.Legible`: a body whose message and data can be read.
* `ProbeReply.ofResult`: the reply of a server that was asked.

## Main results

* `NodeReport.ofBody_of_legible`, `NodeReport.legible_of_ofBody`: which bodies are reports.
* `NodeProbe.verdict_of_code`: the verdict on a server from the body of its answer.
-/

namespace ClusterOperator

open Cursor

/-- Where null stands no list is read. -/
theorem Shape.scan_sequence_ne_ok {item : Shape} {c d e : Cursor} {v : (Shape.sequence item).Val}
    (null : c.null? = .ok (some d)) : (Shape.sequence item).scan c ≠ .ok (v, e) := by
  intro h
  rw [Shape.scan] at h
  obtain ⟨c₁, hstart, h⟩ := bind_eq_ok.mp h
  cases start_eq hstart
  unfold null? at null
  dsimp only at null
  split at null
  · next hpeek =>
    rw [hpeek, if_neg (by decide)] at h
    cases h
  · cases null

namespace Outline

/-- An object states a code: it has one member of this name, a whole number of 32 bits. -/
def States (ms : Outline) (code : Signed32) : Prop :=
  ∃ c c', ms.named "code" = [c] ∧
    Slot.scan false (Document.shape Signed32).scan c = .ok (.filled code, c')

/-- The message of an object is legible: there is none, or one that is a text or null. -/
def LegibleMessage (ms : Outline) : Prop :=
  ∃ slot, Slot.OfPlaces (Slot.scan true (Document.shape String).scan) (ms.named "message") slot

/-- The data of an object is legible: there is none, or one that is a list of members. -/
def LegibleData (ms : Outline) : Prop :=
  ∃ slot, Slot.OfPlaces (Slot.scan false (Document.shape (List Member)).scan) (ms.named "data") slot

/-- An object whose message and data can be read. -/
structure Legible (ms : Outline) : Prop where
  message : ms.LegibleMessage
  data : ms.LegibleData

variable {ms : Outline}

/-- A member whose value is null. -/
def NullAt (c : Cursor) : Prop := ∃ d e, c.colon = .ok d ∧ d.null? = .ok (some e)

/-- Null is no list of members: where it is the data, the object is not legible. -/
theorem not_legible_of_null {c : Cursor} (hc : c ∈ ms.named "data") (null : NullAt c) :
    ¬ ms.Legible := by
  rintro ⟨-, slot, hslot⟩
  have hone : ms.named "data" = [c] := by
    cases hnamed : ms.named "data" with
    | nil => rw [hnamed] at hc; cases hc
    | cons d more =>
      cases more with
      | nil => rw [hnamed] at hc; rw [List.mem_singleton.mp hc]
      | cons _ _ => rw [hnamed] at hslot; exact hslot.elim
  rw [hone] at hslot
  obtain ⟨c', hscan⟩ := hslot
  obtain ⟨d, e, hcolon, hnull⟩ := null
  obtain ⟨d', hcolon', hscan⟩ := bind_eq_ok.mp hscan
  cases hcolon.symm.trans hcolon'
  obtain ⟨null, hnone, hscan⟩ := bind_eq_ok.mp hscan
  cases hnone
  obtain ⟨⟨data, f⟩, hdata, -⟩ := bind_eq_ok.mp hscan
  exact Shape.scan_sequence_ne_ok hnull hdata

end Outline

namespace NodeReport

variable {body : String} {ms : Outline} {code : Signed32}

/-- The members that a report has. -/
def fields : Fields :=
  .cons "code" .required (Document.shape Signed32) <|
    .cons "message" .nullable (Document.shape String) <|
      .cons "data" .defaulted (Document.shape (List Member)) .nil

/-- A report is read from the outline of a body, each of its members where it stands. -/
theorem readText_eq_ok (h : Outline.ofText body = .ok ms) (v : fields.Val) :
    (Document.shape NodeReport).readText body = .ok v ↔
      ∃ slots, fields.Filled ms slots ∧ fields.finish slots = .ok v :=
  (Shape.readText_record rfl (by rfl) h v).trans
    (exists_congr fun _ => and_congr_left fun _ => Fields.fill_eq_ok (by decide))

/-- A legible body that states a code is a report with this code. -/
theorem ofBody_of_legible (h : Outline.ofText body = .ok ms) (states : ms.States code)
    (legible : ms.Legible) : ∃ r, ofBody body = .ok r ∧ r.code = code := by
  obtain ⟨c, c', hnamed, hscan⟩ := states
  obtain ⟨message, hmessage⟩ := legible.message
  obtain ⟨data, hdata⟩ := legible.data
  have hcode : Slot.OfPlaces (Slot.scan false (Document.shape Signed32).scan) (ms.named "code")
      (.filled code) := by
    rw [hnamed]
    exact ⟨c', hscan⟩
  have hread := (readText_eq_ok h (code, message.value?, data.value?.getD [], ())).mpr
    ⟨(.filled code, message, data, ()), ⟨hcode, hmessage, hdata, trivial⟩, rfl⟩
  exact ⟨_, mapError_eq_ok.mpr (map_eq_ok.mpr ⟨_, hread, rfl⟩), rfl⟩

/-- A body that is read as a report is legible, and the report has the code that it states. -/
theorem legible_of_ofBody (h : Outline.ofText body = .ok ms) (states : ms.States code)
    {r : NodeReport} (hr : ofBody body = .ok r) : ms.Legible ∧ r.code = code := by
  obtain ⟨v, hv, rfl⟩ := map_eq_ok.mp (mapError_eq_ok.mp hr)
  obtain ⟨⟨found, message, data, u⟩, ⟨hfound, hmessage, hdata, -⟩, hfinish⟩ :=
    (readText_eq_ok h v).mp hv
  obtain ⟨c, c', hnamed, hscan⟩ := states
  rw [hnamed] at hfound
  obtain ⟨c'', hscan'⟩ := hfound
  cases hscan.symm.trans hscan'
  refine ⟨⟨⟨message, hmessage⟩, data, hdata⟩, ?_⟩
  cases hfinish
  rfl

end NodeReport

/-- The reply of a server that was asked. -/
def ProbeReply.ofResult : Except Error NodeReport → ProbeReply
  | .ok r => .report r
  | .error e => .failed e

namespace NodeProbe

/-- The host and the port that stand in the URL for an address. -/
def placeOf (address : String) : List Char × List Char :=
  Web.Url.splitHost false <| Web.Url.afterUser <|
    (((afterScheme address).toList.filter fun c => !Web.Url.isDropped c).dropWhile
      Web.Url.isSlash).takeWhile fun c => !Web.Url.endsAuthority c

/-- An address has a URL if its host and its port can be read. -/
theorem url_eq_ok {address : String} {host : Web.Url.Host} {port : Option Nat}
    (hhost : Web.Url.parseHost (placeOf address).1 = .ok host)
    (hport : Web.Url.parsePort ((placeOf address).2.drop 1) = .ok port) :
    ∃ u, url address = .ok u := by
  unfold placeOf at hhost hport
  unfold url Web.Url.parse
  dsimp only
  rw [hhost, hport]
  exact ⟨_, rfl⟩

/-- The verdict on a server that states a code: it is healthy by the right code alone. -/
def judge (pod address : String) (code : Signed32) : Polling.Outcome :=
  if code = NodeReport.healthy then .healthy else .unwell (.unhealthy pod address code)

/-- A server that answers with an object that states a code is judged by the code if the object is
legible, whatever its message, its data and its other members say. If it is not legible the server
counts as unreachable, whatever the code is, and this is so wherever the data is null. -/
theorem verdict_of_code {fetch : Web.Url → Except HttpProblem String} {address : String}
    {u : Web.Url} {body : String} {ms : Outline} {code : Signed32}
    (hurl : url address = .ok u) (hfetch : fetch u = .ok body) (h : Outline.ofText body = .ok ms)
    (states : ms.States code) (pod : String) :
    (ms.Legible → Target.verdict pod address (.ofResult (ask fetch address)) =
      judge pod address code) ∧
    (¬ ms.Legible → ∃ reason, Target.verdict pod address (.ofResult (ask fetch address)) =
      .unwell (.unreachable pod address reason)) ∧
    ((∃ c ∈ ms.named "data", Outline.NullAt c) → ¬ ms.Legible) := by
  have hask : ask fetch address = NodeReport.ofBody body := by
    rw [ask, hurl]
    show ((fetch u).mapError .http >>= NodeReport.ofBody) = _
    rw [hfetch]
    rfl
  rw [hask]
  refine ⟨fun legible => ?_, fun illegible => ?_, fun ⟨c, hc, null⟩ =>
    Outline.not_legible_of_null hc null⟩
  · obtain ⟨r, hr, rfl⟩ := NodeReport.ofBody_of_legible h states legible
    rw [hr]
    rfl
  · cases hr : NodeReport.ofBody body with
    | ok r => exact absurd (NodeReport.legible_of_ofBody h states hr).1 illegible
    | error e => exact ⟨e.message, rfl⟩

/-- An answer with members that nobody asks for and numbers that nothing could hold. -/
def talkativeBody : String :=
  "\x7b\"code\":200,\"message\":null,\"data\":[\x7b\"ip\":\"10.0.0.1\",\"extra\":[null,1e999]\x7d],\"x\":\x7b\x7d\x7d"

/-- An answer with the same code that gives null as its data. -/
def nullDataBody : String := "\x7b\"code\":200,\"data\":null\x7d"

/-- The same body at every URL. -/
def always (body : String) (_ : Web.Url) : Except HttpProblem String := .ok body

/-- The letters of an address. -/
def addressSample : List Char := ['1', '0', '.', '0', '.', '0', '.', '1']

theorem parseHost_addressSample :
    Web.Url.parseHost addressSample = .ok (.ipv4 167772161) := by
  have hmapped : addressSample.flatMap Web.Domain.mapped = addressSample := by decide
  have hallowed : addressSample.any Web.Domain.isForbidden = false := by
    simp [addressSample, Web.Domain.isForbidden, String.contains_char_eq]
  have hname : Web.Domain.normalize addressSample = .ok addressSample := by
    unfold Web.Domain.normalize
    rw [hmapped]
    dsimp only
    rw [hallowed]
    rfl
  -- The address does not start as one of the other kind, so that it is read as a name first.
  have hread : Web.Url.parseHost addressSample = (do
      let name ← Web.Domain.normalize addressSample
      if name.isEmpty then .error .emptyHost
      else if Web.Ipv4.endsInNumber name then return .ipv4 (← Web.Ipv4.parse name)
      else return .domain (String.ofList name)) := rfl
  rw [hread, hname]
  rfl

theorem url_addressSample : ∃ u, url "10.0.0.1" = .ok u := by
  have hplace : placeOf "10.0.0.1" = (addressSample, [':', '8', '8', '4', '8']) := by
    decide +kernel
  have hport : Web.Url.parsePort ((placeOf "10.0.0.1").2.drop 1) = .ok (some 8848) := by
    rw [hplace]
    rfl
  exact url_eq_ok (by rw [hplace]; exact parseHost_addressSample) hport

/-- One of the two answers says that the server is well, and the other one does not. -/
theorem null_data_unreachable :
    ∃ u, url "10.0.0.1" = .ok u ∧ ∃ ms ms', Outline.ofText talkativeBody = .ok ms ∧
      Outline.ofText nullDataBody = .ok ms' ∧ ms.States NodeReport.healthy ∧
      ms'.States NodeReport.healthy ∧ ms.Legible ∧ ¬ ms'.Legible ∧
      Target.verdict "nc-0" "10.0.0.1" (.ofResult (ask (always talkativeBody) "10.0.0.1")) =
        .healthy ∧
      ∃ reason, Target.verdict "nc-0" "10.0.0.1"
        (.ofResult (ask (always nullDataBody) "10.0.0.1")) =
          .unwell (.unreachable "nc-0" "10.0.0.1" reason) := by
  obtain ⟨u, hu⟩ := url_addressSample
  have hms : ∃ ms, Outline.ofText talkativeBody = .ok ms ∧ ms.States NodeReport.healthy :=
    ⟨_, by with_unfolding_all rfl, _, _, by with_unfolding_all rfl, by with_unfolding_all rfl⟩
  have hms' : ∃ ms, Outline.ofText nullDataBody = .ok ms ∧ ms.States NodeReport.healthy ∧
      ∃ c ∈ ms.named "data", Outline.NullAt c :=
    ⟨_, by with_unfolding_all rfl,
      ⟨_, _, by with_unfolding_all rfl, by with_unfolding_all rfl⟩,
      _, List.mem_singleton.mpr rfl, _, _, by with_unfolding_all rfl, by with_unfolding_all rfl⟩
  have hread : ∃ r, NodeReport.ofBody talkativeBody = .ok r := ⟨_, by with_unfolding_all rfl⟩
  obtain ⟨r, hr⟩ := hread
  obtain ⟨ms, hof, states⟩ := hms
  obtain ⟨ms', hof', states', null⟩ := hms'
  have hfetch : ∀ body, always body u = .ok body := fun _ => rfl
  have hwell := verdict_of_code hu (hfetch talkativeBody) hof states "nc-0"
  have hlost := verdict_of_code hu (hfetch nullDataBody) hof' states' "nc-0"
  have legible := (NodeReport.legible_of_ofBody hof states hr).1
  have illegible := hlost.2.2 null
  exact ⟨u, hu, ms, ms', hof, hof', states, states', legible, illegible, hwell.1 legible,
    hlost.2.1 illegible⟩

end NodeProbe

end ClusterOperator
