import ClusterOperator.Client
import ClusterOperator.Proofs.Documents.Declared
import ClusterOperator.Proofs.Stores.Frame

/-!
# A status written as a patch

A status is sent as a merge patch, which leaves alone what it does not name and merges objects into
objects. In a status everything that can be left out stands inside a list, and the members outside
the lists are always written. So a patch with a status has the effect of putting it in the place of
the old one: whatever the old status was, it is read back as the new one. Only what no status has
can be left of the old one.

## Main definitions

* `Json.patched`: what a patch makes of a member.
* `Json.Replaces`: a value that a patch puts in the place of any other one.
* `Json.Restated`: a document that got a status in the place of an old one.

## Main results

* `Json.get?_mergePatch`: a patch works member by member.
* `Status.read_mergePatch`: a patch with a status is read back as this status.
* `Client.statusPatch_restates`: the patch that is sent and the replacement in the store agree.
-/

namespace ClusterOperator

open SortedMap.Entries (lookup)

open Document (read write)

namespace Json

/-! ### Members and patches -/

theorem lookup_filter_name (name other : String) (ms : List (String × Json)) :
    lookup other (ms.filter fun m => decide (m.1 ≠ name)) =
      if other = name then none else lookup other ms := by
  induction ms with
  | nil => exact (ite_self _).symm
  | cons m ms ih =>
    obtain ⟨n, v⟩ := m
    by_cases hn : n = name
    · subst hn
      rw [List.filter_cons_of_neg (by simp), ih, lookup]
      split
      · rfl
      · rfl
    · rw [List.filter_cons_of_pos (by simpa using hn), lookup, lookup, ih]
      split
      · next h => exact (if_neg (h ▸ hn)).symm
      · rfl

theorem filter_setMember (name : String) (value : Json) (ms : List (String × Json)) :
    (setMember name value ms).filter (fun m => decide (m.1 ≠ name)) =
      ms.filter fun m => decide (m.1 ≠ name) := by
  induction ms with
  | nil => simp [setMember]
  | cons m ms ih =>
    obtain ⟨n, v⟩ := m
    by_cases h : name = n
    · simp [setMember, h]
    · rw [setMember, if_neg h, List.filter_cons, List.filter_cons, ih]

/-- Another value of a member leaves the others as they are, in their order. -/
theorem erase_set (ms : List (String × Json)) (name : String) (value : Json) :
    ((object ms).set name value).erase name = (object ms).erase name :=
  congrArg object (filter_setMember name value ms)

/-- What a patch makes of a member: one that it does not name stays, null removes the member, and
any other value is merged into the old one. -/
def patched (old : Option Json) : Option Json → Option Json
  | none => old
  | some change => if change.isNull then none else some (mergePatch (old.getD null) change)

theorem mergeMembers_cons {change : Json} (h : change.isNull = false) (name : String)
    (ms rest : List (String × Json)) :
    mergeMembers ms ((name, change) :: rest) =
      mergeMembers (setMember name (mergePatch ((lookup name ms).getD null) change) ms) rest := by
  cases change with
  | null => cases h
  | _ => rfl

/-- A patch works member by member. -/
theorem lookup_mergeMembers (name : String) : ∀ (changes ms : List (String × Json)),
    NamesOnce changes → lookup name (mergeMembers ms changes) =
      patched (lookup name ms) (lookup name changes)
  | [], _, _ => rfl
  | (n, change) :: rest, ms, once => by
    obtain ⟨hn, once⟩ := List.nodup_cons.mp once
    cases hnull : change.isNull with
    | true =>
      have hchange : change = null := by
        cases change with
        | null => rfl
        | _ => cases hnull
      rw [hchange, mergeMembers, lookup_mergeMembers name rest _ once, lookup_filter_name, lookup]
      split
      · next h => rw [h, lookup_eq_none_iff.mpr hn]; rfl
      · rfl
    | false =>
      rw [mergeMembers_cons hnull, lookup_mergeMembers name rest _ once, lookup]
      split
      · next h =>
        subst h
        rw [lookup_eq_none_iff.mpr hn, lookup_setMember_self, patched, patched, hnull]
        rfl
      · next h => rw [lookup_setMember_of_ne _ h]

theorem get?_mergePatch (j : Json) {changes : List (String × Json)} (once : NamesOnce changes)
    (name : String) :
    (j.mergePatch (object changes)).get? name = patched (j.get? name) (lookup name changes) := by
  rw [get?_eq_lookup j, mergePatch]
  exact lookup_mergeMembers name changes j.members once

theorem NamesOnce.mergeMembers {ms : List (String × Json)} (once : NamesOnce ms)
    (changes : List (String × Json)) : NamesOnce (mergeMembers ms changes) := by
  induction changes generalizing ms with
  | nil => exact once
  | cons m rest ih =>
    obtain ⟨n, change⟩ := m
    cases change with
    | null => exact ih (once.sublist (List.filter_sublist.map _))
    | _ => exact ih (once.setMember n _)

/-- A value that a patch puts in the place of any other one: neither null nor an object. -/
def Replaces (change : Json) : Prop :=
  change.isNull = false ∧ ∀ target, mergePatch target change = change

theorem patched_eq_or {old found : Option Json} (h : ∀ change ∈ found, change.Replaces) :
    patched old found = found.or old := by
  cases found with
  | none => rfl
  | some change =>
    obtain ⟨hnull, hmerge⟩ := h change rfl
    rw [patched, hnull, hmerge]
    rfl

end Json

/-! ### A status as a patch -/

namespace Status

/-- All members of a status are written, whatever it is. -/
theorem names_write (t : Status) :
    (write t).members.map Prod.fst = ["phase", "events", "conditions"] := rfl

theorem namesOnce_write (t : Status) : Json.NamesOnce (write t).members := by
  rw [Json.NamesOnce, names_write]
  decide

/-- Every member of a status is a text or a list, which a patch puts in the place of the old one. -/
theorem replaces_write (t : Status) : ∀ m ∈ (write t).members, m.2.Replaces := by
  have hmembers : ∃ phase events conditions, (write t).members =
      [("phase", .string phase), ("events", .array events), ("conditions", .array conditions)] :=
    ⟨_, _, _, rfl⟩
  obtain ⟨phase, events, conditions, h⟩ := hmembers
  rw [h]
  simp only [List.forall_mem_cons]
  exact ⟨⟨rfl, fun _ => rfl⟩, ⟨rfl, fun _ => rfl⟩, ⟨rfl, fun _ => rfl⟩, fun _ h => nomatch h⟩

/-- What a patch with a status leaves: the members of the status, and of the old value those that a
status has not. -/
theorem get?_mergePatch (t : Status) (old : Json) (name : String) :
    (old.mergePatch (write t)).get? name = ((write t).get? name).or (old.get? name) := by
  refine (Json.get?_mergePatch old t.namesOnce_write name).trans ?_
  exact Json.patched_eq_or fun change hchange =>
    t.replaces_write _ (SortedMap.mem_of_lookup hchange)

/-- A member that a status has is, after a patch with the status, as the status has it. -/
theorem get?_mergePatch_of_mem (t : Status) (old : Json) {name : String}
    (h : name ∈ ["phase", "events", "conditions"]) :
    (old.mergePatch (write t)).get? name = (write t).get? name := by
  rw [get?_mergePatch]
  cases hfound : (write t).get? name with
  | none => exact absurd h (lookup_eq_none_iff.mp hfound)
  | some value => rfl

/-- Whatever a patch with a status is merged into, it is read back as this status. -/
theorem read_mergePatch (t : Status) {old : Json} (once : Json.NamesOnce old.members) :
    read Status (old.mergePatch (write t)) = .ok t.wholeSeconds := by
  have hread : read Status (write t) = .ok t.wholeSeconds :=
    (Document.read_write wellFormed t).trans (congrArg _ t.reread_eq)
  obtain ⟨v, hv, hcut⟩ := map_eq_ok.mp hread
  refine map_eq_ok.mpr ⟨v, ?_, hcut⟩
  refine Shape.read_record_congr (by decide) (fun _ _ => rfl) (by decide) t.namesOnce_write
    (once.mergeMembers _) (fun name hname => ?_) hv
  exact ((Json.get?_eq_lookup _ _).symm.trans (t.get?_mergePatch_of_mem old hname)).symm

end Status

/-! ### Patching and replacing -/

/-- A document that got a status in the place of an old one, if it had one. Its status is read as
the new one, with its times cut to whole seconds, and so is that of the declaration that is read
from it. The members that a status has are those of the new one, down to the last of them.
Everything outside the status is as it was. -/
structure Json.Restated (old : Json) (status : Status) (j : Json) : Prop where
  decoded : read Status (j.getD "status") = .ok status.wholeSeconds
  declared : ∀ d, read Declaration old = .ok d →
    read Declaration j = .ok { d with status := some status.wholeSeconds }
  members : ∀ name ∈ ["phase", "events", "conditions"],
    (j.getD "status").get? name = (write status).get? name
  rest : j.erase "status" = old.erase "status"

variable {ms : List (String × Json)} {status : Status}

/-- A document restates a status that its member is read as and has the members of. -/
theorem Json.restated_set (once : NamesOnce ms) {j : Json}
    (decoded : read Status j = .ok status.wholeSeconds)
    (members : ∀ name ∈ ["phase", "events", "conditions"], j.get? name = (write status).get? name) :
    (object ms).Restated status ((object ms).set "status" j) := by
  have hmember : ((object ms).set "status" j).getD "status" = j :=
    congrArg (fun found => found.getD null) (get?_set_self _ _ _)
  refine ⟨hmember.symm ▸ decoded, fun d hd => ?_, hmember.symm ▸ members, erase_set ms _ _⟩
  exact Declaration.read_set_status_of_read once hd decoded

/-- A status that is sent as a patch comes to the same as one that replaces the old one. The request
sends a patch with the new status alone, and merging it into the stored document restates the
status, as putting it in the place of the old one does. The two documents can differ only in members
of the old status that no status has: these the patch leaves, and the replacement does not. -/
theorem Client.statusPatch_restates {store : Store} {d : Declaration} (once : Json.NamesOnce ms)
    (onceOld : Json.NamesOnce ((Json.object ms).getD "status").members)
    (hstatus : d.status = some status)
    (hstored : store.get? (Store.keyOf .declaration d.metadata.spaceOrEmpty d) = some (.object ms)) :
    (∀ sent, (Request.updateStatus d).message = .ok sent → sent.method = .patch ∧
      sent.contentType = some Client.patchType ∧
      sent.body = some (.object [("status", write status)])) ∧
    (store.updateStatus d).1 = .ok () ∧
    ∃ replaced, (store.updateStatus d).2.get? (Store.keyOf .declaration d.metadata.spaceOrEmpty d) =
        some replaced ∧
      (Json.object ms).Restated status replaced ∧ replaced.getD "status" = write status ∧
      (Json.object ms).Restated status
        ((Json.object ms).mergePatch (.object [("status", write status)])) ∧
      ∀ name ∉ ["phase", "events", "conditions"],
        (((Json.object ms).mergePatch (.object [("status", write status)])).getD "status").get?
          name = ((Json.object ms).getD "status").get? name := by
  have hpatch : Client.statusPatch d = .object [("status", write status)] := by
    rw [Client.statusPatch, hstatus]
    rfl
  have hmerged : (Json.object ms).mergePatch (.object [("status", write status)]) =
      (Json.object ms).set "status" (((Json.object ms).getD "status").mergePatch (write status)) :=
    rfl
  have hupdate := Store.updateStatus_stored hstored
  rw [hstatus] at hupdate
  rw [hmerged, hupdate]
  refine ⟨fun sent hsent => ?_, rfl, _, SortedMap.get?_insert_self _ _ _, ?_, ?_, ?_, ?_⟩
  · obtain ⟨path, -, hmessage⟩ := bind_eq_ok.mp hsent
    unfold Client.message at hmessage
    split at hmessage
    · cases hmessage
      exact ⟨rfl, rfl, congrArg some hpatch⟩
    · cases hmessage
  · refine Json.restated_set once ?_ fun _ _ => rfl
    exact (Document.read_write Status.wellFormed status).trans (congrArg _ status.reread_eq)
  · exact congrArg (fun found => found.getD Json.null) (Json.get?_set_self _ _ _)
  · exact Json.restated_set once (status.read_mergePatch onceOld) fun name =>
      status.get?_mergePatch_of_mem _
  · intro name hname
    have hnone : (write status).get? name = none := lookup_eq_none_iff.mpr hname
    rw [Json.getD, Json.get?_set_self]
    exact (status.get?_mergePatch _ name).trans (by rw [hnone]; rfl)

/-! ### A failed deployment that runs again -/

namespace Declaration

/-- The old status: a failure, a condition with a message, and a member that no status has. -/
def failedMembers : List (String × Json) :=
  [("phase", .string "Failed"), ("observedGeneration", .integer 3),
    ("events", .array [.object [("code", .integer 502), ("message", .string "down")]]),
    ("conditions", .array [.object [("type", .string "Ready"), ("status", .string "False"),
      ("message", .string "down")]])]

/-- A document with the old status. -/
def failedDocument : List (String × Json) :=
  [("metadata", .object [("name", .string "nc"), ("namespace", .string "default")]),
    ("spec", .object [("image", .string "nacos:v2")]), ("status", .object failedMembers)]

/-- The new status: no failures, and a condition without a message. -/
def recoveredSample : Declaration where
  metadata := { name := some "nc", space := some "default" }
  spec := { image := "nacos:v2" }
  status := some (Status.recordRunning {} (.ofFields ⟨2024, 4, 1, by decide⟩ 0 0 0 5))

/-- A store with the document. -/
def failedStore : Store where
  objects := SortedMap.empty.insert ⟨.declaration, "default", "nc"⟩ (.object failedDocument)

/-- The patch leaves the member that no status has, and nothing else of the old status. -/
theorem recoveredSample_restated :
    (Json.NamesOnce failedDocument ∧
      Json.NamesOnce ((Json.object failedDocument).getD "status").members ∧
      failedStore.get? ⟨.declaration, "default", "nc"⟩ = some (.object failedDocument)) ∧
    ∃ status, recoveredSample.status = some status ∧
      ∃ merged, merged = (Json.object failedDocument).mergePatch
          (.object [("status", Document.write status)]) ∧
        Document.read Status (merged.getD "status") = .ok status.wholeSeconds ∧
        (merged.getD "status").members.map Prod.fst =
          ["phase", "observedGeneration", "events", "conditions"] ∧
        ∃ replaced, (failedStore.updateStatus recoveredSample).2.get?
            ⟨.declaration, "default", "nc"⟩ = some replaced ∧
          Document.read Status (replaced.getD "status") = .ok status.wholeSeconds ∧
          (replaced.getD "status").members.map Prod.fst = ["phase", "events", "conditions"] := by
  have once : Json.NamesOnce failedDocument := by unfold Json.NamesOnce; decide
  have onceOld : Json.NamesOnce ((Json.object failedDocument).getD "status").members := by
    show (failedMembers.map Prod.fst).Nodup
    decide
  have hstored : failedStore.get? ⟨.declaration, "default", "nc"⟩ =
      some (.object failedDocument) := rfl
  obtain ⟨-, -, replaced, hreplaced, hrestated, hstatus, hmerged, -⟩ :=
    Client.statusPatch_restates (d := recoveredSample) once onceOld rfl hstored
  refine ⟨⟨once, onceOld, hstored⟩, _, rfl, _, rfl, hmerged.decoded, rfl, replaced, hreplaced,
    hrestated.decoded, ?_⟩
  rw [hstatus]
  rfl

end Declaration

end ClusterOperator
