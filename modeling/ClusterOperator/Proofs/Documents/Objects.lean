import ClusterOperator.Drift
import ClusterOperator.Proofs.Documents.RoundTrip
import ClusterOperator.Store

/-!
# Objects and their documents

What reading and writing do to the objects of the five kinds. An object that is written is read
back reread, and rereading keeps everything that is compared when a child is looked after. A *tidy*
document is an object whose members, and those of its metadata, have distinct names; the version it
carries is the version of the object that is read from it.

## Main definitions

* `Json.Tidy`: the documents that can be stored.

## Main results

* `Child.wellFormed`: children are read back as they are written.
* `Kind.tidy_write`: every object is written as a tidy document.
* `Store.versionOf_eq`: the version of a document is that of its object.
* `Declaration.read_set_status`: a document that gets another status keeps the rest.
-/

namespace ClusterOperator

open Kubernetes
open SortedMap.Entries (lookup)

open Document (reread reread_of_exact)

/-! ### What rereading keeps -/

namespace Kubernetes

theorem ConfigMap.data_reread (m : ConfigMap) : (reread m).data = m.data := by
  obtain ⟨metadata, data, others⟩ := m
  cases data with
  | none => rfl
  | some data => exact congrArg some (reread_of_exact rfl data)

theorem Service.spec_reread (s : Service) : (reread s).spec = s.spec := by
  obtain ⟨metadata, spec, others⟩ := s
  cases spec with
  | none => rfl
  | some spec => exact congrArg some (reread_of_exact rfl spec)

/-- A container is read back as it was written, but for the members that are not looked at. -/
theorem Container.reread_eq (c : Container) :
    reread c = { c with others := otherFields.reread c.others } := by
  have hfields : (Document.shape Container).reread (Document.toVal c) =
      Document.toVal { c with others := otherFields.reread c.others } :=
    Fields.reread_cons_of_exact rfl _ <| Fields.reread_cons_of_exact rfl _ <|
    Fields.reread_cons_of_exact rfl _ <| Fields.reread_cons_of_exact rfl _ <|
    Fields.reread_cons_of_exact rfl _ <| Fields.reread_cons_of_exact rfl _ <|
    Fields.reread_cons_of_exact rfl _ <| Fields.reread_cons_of_exact rfl _ rfl
  exact (congrArg Document.ofVal hfields).trans (Document.ofVal_toVal _)

namespace StatefulSet

theorem spec_reread (s : StatefulSet) : (reread s).spec = s.spec.map reread := by
  obtain ⟨metadata, spec, others⟩ := s
  cases spec <;> rfl

theorem replicas?_reread (s : StatefulSet) : (reread s).replicas? = s.replicas? := by
  rw [replicas?, spec_reread]
  cases h : s.spec with
  | none => rw [replicas?, h]; rfl
  | some spec =>
    rw [replicas?, h]
    obtain ⟨policy, replicas, selector, serviceName, template, claims, others⟩ := spec
    cases replicas <;> rfl

/-- The specification of the pods comes back reread, as does everything in it. -/
theorem podSpec?_reread (s : StatefulSet) : (reread s).podSpec? = s.podSpec?.map reread := by
  rw [podSpec?, spec_reread]
  cases h : s.spec with
  | none => rw [podSpec?, h]; rfl
  | some spec =>
    rw [podSpec?, h]
    obtain ⟨policy, replicas, selector, serviceName, ⟨metadata, pod⟩, claims, others⟩ := spec
    cases pod <;> rfl

theorem container?_reread (s : StatefulSet) : (reread s).container? = s.container?.map reread := by
  rw [container?, podSpec?_reread]
  cases h : s.podSpec? with
  | none => rw [container?, h]; rfl
  | some pod =>
    rw [container?, h]
    obtain ⟨containers, volumes, others⟩ := pod
    cases containers <;> rfl

theorem volumes_reread (s : StatefulSet) : (reread s).volumes = reread s.volumes := by
  rw [volumes, podSpec?_reread]
  cases h : s.podSpec? with
  | none => rw [volumes, h]; rfl
  | some pod =>
    rw [volumes, h]
    obtain ⟨containers, volumes, others⟩ := pod
    cases volumes <;> rfl

end StatefulSet

end Kubernetes

/-! ### Well-formed kinds -/

set_option maxRecDepth 10000 in
/-- The shape of every kind of children is well-formed. -/
theorem Child.wellFormed (c : Child) : (Document.shape c.Object).wellFormed = true := by
  cases c with
  | configMap => rfl
  | statefulSet => rfl
  | service => rfl

theorem Declaration.wellFormed : (Document.shape Declaration).wellFormed = true := by
  rfl

theorem Status.wellFormed : (Document.shape Status).wellFormed = true := by decide

/-! ### Tidy documents -/

namespace Json

/-- The documents that can be stored: an object whose members, and those of its metadata, have
distinct names. -/
def Tidy (j : Json) : Prop :=
  ∃ ms, j = .object ms ∧ NamesOnce ms ∧ NamesOnce (j.getD "metadata").members

theorem names_setMember (name : String) (value : Json) :
    ∀ ms : List (String × Json), (setMember name value ms).map Prod.fst =
      if name ∈ ms.map Prod.fst then ms.map Prod.fst else ms.map Prod.fst ++ [name]
  | [] => rfl
  | (n, v) :: ms => by
    by_cases h : name = n
    · simp [setMember, h]
    · rw [setMember, if_neg h, List.map_cons, names_setMember name value ms]
      by_cases hmem : name ∈ ms.map Prod.fst
      · simp [hmem]
      · simp [h, hmem]

theorem NamesOnce.setMember {ms : List (String × Json)} (once : NamesOnce ms) (name : String)
    (value : Json) : NamesOnce (setMember name value ms) := by
  unfold NamesOnce
  rw [names_setMember]
  split
  · exact once
  · next h =>
    refine List.nodup_append.mpr ⟨once, List.pairwise_singleton _ name, ?_⟩
    rintro a ha b hb rfl
    exact h (List.mem_singleton.mp hb ▸ ha)

/-- A tidy document with another member, which is not its metadata, is tidy. -/
theorem Tidy.set {j : Json} (tidy : j.Tidy) {name : String} (h : "metadata" ≠ name)
    (value : Json) : (j.set name value).Tidy := by
  obtain ⟨ms, rfl, once, metaOnce⟩ := tidy
  refine ⟨_, rfl, once.setMember name value, ?_⟩
  rw [getD, get?_set_of_ne _ value h]
  exact metaOnce

end Json

/-- An object with written metadata is tidy. -/
theorem Json.tidy_object {ms : List (String × Json)} (once : NamesOnce ms)
    {m : (Document.shape ObjectMeta).Val}
    (h : lookup "metadata" ms = some ((Document.shape ObjectMeta).write m)) :
    (Json.object ms).Tidy := by
  have hmember : (Json.object ms).getD "metadata" = (Document.shape ObjectMeta).write m :=
    congrArg (fun found => found.getD Json.null) h
  have honce : NamesOnce ((Document.shape ObjectMeta).write m).members :=
    RecordForm.namesOnce_write (by decide) (by decide) m
  exact ⟨ms, rfl, once, hmember ▸ honce⟩

/-- A record that begins with metadata is written as a tidy document. -/
theorem Shape.tidy_write {form : RecordForm} {fields rest : Fields} {v : fields.Val}
    {m : (Document.shape ObjectMeta).Val} {others : rest.Val} (nodup : fields.names.Nodup)
    (apart : form.StampsApart fields) (hname : "metadata" ∈ fields.names)
    (hwrite : fields.write v = ("metadata", (Document.shape ObjectMeta).write m) ::
      rest.write others) :
    ((Shape.record form fields).write v).Tidy := by
  have hstamps : "metadata" ∉ form.stamps.map Prod.fst := fun h => by
    obtain ⟨stamp, hstamp, heq⟩ := List.mem_map.mp h
    exact apart stamp hstamp (heq ▸ hname)
  refine Json.tidy_object (form.namesOnce_write nodup apart v) (m := m) ?_
  rw [lookup_append_of_not_mem form.stamps _ hstamps, hwrite]
  exact if_pos rfl

/-- Every object is written as a tidy document. -/
theorem Kind.tidy_write (k : Kind) (o : k.Object) : (Document.write o).Tidy := by
  cases k <;>
    exact Shape.tidy_write (by decide) (by decide) List.mem_cons_self rfl

/-! ### The version of a document -/

/-- An optional text is the string that is found, if one is. -/
theorem Presence.accept_text {lenient : Bool} {missing : ReadProblem} {found : Option Json}
    {text : Option String}
    (h : Presence.optional.accept lenient .text missing found = .ok text) :
    found.bind Json.string? = text := by
  cases found with
  | none => exact Except.ok.inj h
  | some j => cases j <;> first | exact Except.ok.inj h | cases h

/-- The version that is found in metadata is read from them. -/
theorem ObjectMeta.version_of_read {j : Json} {m : ObjectMeta} (once : Json.NamesOnce j.members)
    (h : Document.read ObjectMeta j = .ok m) :
    (j.get? "resourceVersion").bind Json.string? = m.resourceVersion := by
  obtain ⟨v, hv, rfl⟩ := map_eq_ok.mp h
  cases j with
  | object ms =>
    have hfields := ((Shape.read_record_iff (by decide)
      (by intro stamp hstamp; exact absurd hstamp List.not_mem_nil) once v).mp hv).2
    obtain ⟨annotations, generateName, generation, labels, name, space, owners, version, rest⟩ := v
    obtain ⟨-, hfields⟩ := Fields.accept_cons.mp hfields
    obtain ⟨-, hfields⟩ := Fields.accept_cons.mp hfields
    obtain ⟨-, hfields⟩ := Fields.accept_cons.mp hfields
    obtain ⟨-, hfields⟩ := Fields.accept_cons.mp hfields
    obtain ⟨-, hfields⟩ := Fields.accept_cons.mp hfields
    obtain ⟨-, hfields⟩ := Fields.accept_cons.mp hfields
    obtain ⟨-, hfields⟩ := Fields.accept_cons.mp hfields
    obtain ⟨hversion, -⟩ := Fields.accept_cons.mp hfields
    refine (Presence.accept_text hversion).trans ?_
    cases version <;> rfl
  | _ => cases hv

/-- A member that must be given is read like one with a default. -/
theorem Presence.accept_of_required {lenient : Bool} {s : Shape} {missing : ReadProblem}
    {found : Option Json} {v : s.Val}
    (h : Presence.required.accept lenient s missing found = .ok v) :
    Presence.defaulted.accept lenient s missing found = .ok v := by
  have hslot :
      Presence.required.slot lenient s found = Presence.defaulted.slot lenient s found := by
    cases found <;> rfl
  obtain ⟨slot, hs, hsettle⟩ := bind_eq_ok.mp h
  refine bind_eq_ok.mpr ⟨slot, hslot ▸ hs, ?_⟩
  cases slot with
  | filled value => exact hsettle
  | _ => cases hsettle

/-- The version that is found in the metadata of a record is read from them; no metadata count as
empty ones. -/
theorem ObjectMeta.version_of_accept {lenient : Bool} {missing : ReadProblem}
    {found : Option Json} (once : Json.NamesOnce (found.getD .null).members)
    {v : (Document.shape ObjectMeta).Val}
    (h : Presence.defaulted.accept lenient (Document.shape ObjectMeta) missing found = .ok v) :
    ((found.getD .null).get? "resourceVersion").bind Json.string? =
      (Document.ofVal v : ObjectMeta).resourceVersion := by
  cases found with
  | none =>
    cases Except.ok.inj h
    rfl
  | some j =>
    obtain ⟨slot, hs, hsettle⟩ := bind_eq_ok.mp h
    rw [Presence.slot] at hs
    split at hs
    · next hnull =>
      cases hs
      cases Except.ok.inj hsettle
      have hj : j.isNull = true := ((Bool.and_eq_true _ _).mp hnull).2
      cases j with
      | null => rfl
      | _ => cases hj
    · obtain ⟨v', hread, rfl⟩ := map_eq_ok.mp hs
      cases Except.ok.inj hsettle
      exact ObjectMeta.version_of_read once (map_eq_ok.mpr ⟨v', hread, rfl⟩)

/-- The version that a tidy document carries is that of the object that is read from it. -/
theorem Store.versionOf_eq {k : Kind} {j : Json} {o : k.Object} (tidy : j.Tidy)
    (h : Document.read k.Object j = .ok o) :
    Store.versionOf j = (k.metadata o).resourceVersion := by
  obtain ⟨ms, rfl, once, metaOnce⟩ := tidy
  obtain ⟨v, hv, rfl⟩ := map_eq_ok.mp h
  cases k with
  | declaration =>
    obtain ⟨metadata, rest⟩ := v
    exact ObjectMeta.version_of_accept metaOnce (Presence.accept_of_required
      (Shape.first_of_read (by decide) (by decide) once hv))
  | _ =>
    obtain ⟨metadata, rest⟩ := v
    exact ObjectMeta.version_of_accept metaOnce
      (Shape.first_of_read (by decide) (by decide) once hv)

/-- A document of a declaration that gets a member that is read as a status is read with that status
and is the same otherwise. -/
theorem Declaration.read_set_status_of_read {ms : List (String × Json)} {d : Declaration}
    (once : Json.NamesOnce ms) (h : Document.read Declaration (.object ms) = .ok d) {j : Json}
    {status : Status} (hstatus : Document.read Status j = .ok status) :
    Document.read Declaration ((Json.object ms).set "status" j) =
      .ok { d with status := some status } := by
  obtain ⟨⟨metadata, spec, old, u⟩, hv, rfl⟩ := map_eq_ok.mp h
  obtain ⟨v, hj, rfl⟩ := map_eq_ok.mp hstatus
  have hread := (Shape.read_record_iff (by decide) (by decide) once _).mp hv
  obtain ⟨hmetadata, hfields⟩ := Fields.accept_cons.mp hread.2
  obtain ⟨hspec, -⟩ := Fields.accept_cons.mp hfields
  refine map_eq_ok.mpr ⟨(metadata, spec, some v, ()), ?_, rfl⟩
  refine (Shape.read_record_iff (by decide) (by decide) (once.setMember _ _) _).mpr
    ⟨fun m _ => ⟨false, rfl⟩, ?_⟩
  refine Fields.accept_cons.mpr ⟨?_, Fields.accept_cons.mpr ⟨?_, Fields.accept_cons.mpr ⟨?_, rfl⟩⟩⟩
  · exact (congrArg _ (Json.lookup_setMember_of_ne _ (by decide) ms)).trans hmetadata
  · exact (congrArg _ (Json.lookup_setMember_of_ne _ (by decide) ms)).trans hspec
  · refine (congrArg _ (Json.lookup_setMember_self "status" _ ms)).trans
      (Presence.accept_some ?_ hj)
    -- what is read as a status is not null
    cases j with
    | null => cases hj
    | _ => exact fun h => nomatch h

/-- A document of a declaration that gets another status is read with that status and is the same
otherwise. -/
theorem Declaration.read_set_status {j : Json} {d : Declaration} (tidy : j.Tidy)
    (h : Document.read Declaration j = .ok d) (status : Status) :
    Document.read Declaration (j.set "status" (Document.write status)) =
      .ok { d with status := some (reread status) } := by
  obtain ⟨ms, rfl, once, -⟩ := tidy
  exact read_set_status_of_read once h (Document.read_write Status.wellFormed status)

end ClusterOperator
