import ClusterOperator.Proofs.Documents.Objects
import ClusterOperator.Proofs.Drift.Covers

/-!
# Writing settles drift

A child that was written as desired has not drifted, neither as it was written nor as it is read
back. An update first adopts what the server owns, and for a service that is its address: whether a
service has an address of its own is adopted too, though it is also compared. So an update settles
every drift but this one.

## Main definitions

* `Child.Alike`: two children are alike in everything that is compared.
* `Child.addressDiffers`: one of two services has an address of its own and the other has none.

## Main results

* `Child.drifted_congr`: only what is compared matters for drift.
* `Child.drifted_created`: a child that was created has not drifted.
* `Child.drifted_adopt`, `Child.drifted_updated`: a child that was updated has drifted only in its
  address.
-/

namespace ClusterOperator

open Kubernetes
open Document (reread reread_of_exact)
open SortedMap.Entries (lookup)

/-! ### What is compared -/

namespace Child

/-- Two children are alike in everything that is compared. -/
def Alike : (c : Child) → (a b : c.Object) → Prop
  | configMap, a, b => ConfigMap.data a = ConfigMap.data b
  | statefulSet, a, b =>
    StatefulSet.replicas? a = StatefulSet.replicas? b ∧
      StatefulSet.podSpec? a = StatefulSet.podSpec? b
  | service, a, b => Service.spec a = Service.spec b

/-- One of two services has an address of its own and the other has none. -/
def addressDiffers : (c : Child) → (want live : c.Object) → Bool
  | service, want, live =>
    match Service.spec want, Service.spec live with
    | some w, some l => w.isHeadless != l.isHeadless
    | _, _ => false
  | configMap, _, _ => false
  | statefulSet, _, _ => false

theorem Alike.refl (c : Child) (a : c.Object) : c.Alike a a := by
  cases c with
  | configMap => exact rfl
  | statefulSet => exact ⟨rfl, rfl⟩
  | service => exact rfl

theorem Alike.symm {c : Child} {a b : c.Object} (h : c.Alike a b) : c.Alike b a := by
  cases c with
  | configMap => exact Eq.symm h
  | statefulSet => exact ⟨h.1.symm, h.2.symm⟩
  | service => exact Eq.symm h

theorem Alike.trans {c : Child} {a b d : c.Object} (hab : c.Alike a b) (hbd : c.Alike b d) :
    c.Alike a d := by
  cases c with
  | configMap => exact Eq.trans hab hbd
  | statefulSet => exact ⟨hab.1.trans hbd.1, hab.2.trans hbd.2⟩
  | service => exact Eq.trans hab hbd

/-- Children that are alike are alike when they are read back. -/
theorem Alike.reread {c : Child} {a b : c.Object} (h : c.Alike a b) :
    c.Alike (Document.reread a) (Document.reread b) := by
  cases c with
  | configMap =>
    exact (ConfigMap.data_reread a).trans (Eq.trans h (ConfigMap.data_reread b).symm)
  | statefulSet =>
    refine ⟨(StatefulSet.replicas?_reread a).trans ?_, (StatefulSet.podSpec?_reread a).trans ?_⟩
    · exact h.1.trans (StatefulSet.replicas?_reread b).symm
    · exact (congrArg (Option.map Document.reread) h.2).trans (StatefulSet.podSpec?_reread b).symm
  | service => exact (Service.spec_reread a).trans (Eq.trans h (Service.spec_reread b).symm)

theorem alike_withVersion (c : Child) (version : Option String) (a : c.Object) :
    c.Alike (c.kind.withVersion version a) a := by
  cases c with
  | configMap => exact rfl
  | statefulSet => exact ⟨rfl, rfl⟩
  | service => exact rfl

/-- Only what is compared matters for drift. -/
theorem drifted_congr {c : Child} {want want' live live' : c.Object} (hw : c.Alike want want')
    (hl : c.Alike live live') : c.drifted want live = c.drifted want' live' := by
  cases c with
  | configMap =>
    have hw : ConfigMap.data want = ConfigMap.data want' := hw
    have hl : ConfigMap.data live = ConfigMap.data live' := hl
    simp only [drifted, ConfigMap.drifted, hw, hl]
  | statefulSet =>
    obtain ⟨hwr, hwp⟩ := hw
    obtain ⟨hlr, hlp⟩ := hl
    simp only [drifted, StatefulSet.drifted, StatefulSet.volumes, StatefulSet.container?, hwr, hwp,
      hlr, hlp]
  | service =>
    have hw : Service.spec want = Service.spec want' := hw
    have hl : Service.spec live = Service.spec live' := hl
    simp only [drifted, Service.drifted, hw, hl]

theorem addressDiffers_congr {c : Child} {want want' live live' : c.Object}
    (hw : c.Alike want want') (hl : c.Alike live live') :
    c.addressDiffers want live = c.addressDiffers want' live' := by
  cases c with
  | configMap => rfl
  | statefulSet => rfl
  | service =>
    have hw : Service.spec want = Service.spec want' := hw
    have hl : Service.spec live = Service.spec live' := hl
    simp only [addressDiffers, hw, hl]

end Child

/-! ### Proper children -/

/-- A list of proper values is proper. -/
theorem Document.proper_list {α : Type} [Document α] {l : List α} (h : ∀ a ∈ l, Document.Proper a) :
    Document.Proper l := by
  intro v hv
  obtain ⟨a, ha, rfl⟩ := List.mem_map.mp hv
  exact h a ha

namespace Kubernetes

theorem ObjectMeta.proper {m : ObjectMeta} (h : m.others = ObjectMeta.otherFields.default) :
    Document.Proper m := by
  obtain ⟨annotations, generateName, generation, labels, name, space, owners, version, uid,
    others⟩ := m
  cases h
  exact Fields.proper_cons (Shape.proper_of_exact _ rfl) _ <|
    Fields.proper_cons (Shape.proper_of_exact _ rfl) _ <|
    Fields.proper_cons (Shape.proper_of_exact _ rfl) _ <|
    Fields.proper_cons (Shape.proper_of_exact _ rfl) _ <|
    Fields.proper_cons (Shape.proper_of_exact _ rfl) _ <|
    Fields.proper_cons (Shape.proper_of_exact _ rfl) _ <|
    Fields.proper_cons (Shape.proper_of_exact _ rfl) _ <|
    Fields.proper_cons (Shape.proper_of_exact _ rfl) _ <|
    Fields.proper_cons (Shape.proper_of_exact _ rfl) _ (Fields.proper_default _)

theorem ConfigMap.proper {m : ConfigMap} (hmeta : Document.Proper m.metadata)
    (h : m.others = ConfigMap.otherFields.default) : Document.Proper m := by
  obtain ⟨metadata, data, others⟩ := m
  cases h
  exact ⟨hmeta, Fields.proper_cons (Shape.proper_of_exact _ rfl) _ (Fields.proper_default _)⟩

theorem Service.proper {s : Service} (hmeta : Document.Proper s.metadata)
    (h : s.others = Service.otherFields.default) : Document.Proper s := by
  obtain ⟨metadata, spec, others⟩ := s
  cases h
  exact ⟨hmeta, Fields.proper_cons (Shape.proper_of_exact _ rfl) _ (Fields.proper_default _)⟩

theorem Container.proper {c : Container} (h : c.others = Container.otherFields.default) :
    Document.Proper c := by
  have hothers : Container.otherFields.Proper c.others := h ▸ Fields.proper_default _
  refine ⟨trivial, ?_⟩
  exact Fields.proper_cons (Shape.proper_of_exact (Document.shape String) rfl) _ <|
    Fields.proper_cons (Shape.proper_of_exact (Document.shape (List EnvVar)) rfl) _ <|
    Fields.proper_cons (Shape.proper_of_exact (Document.shape Probe) rfl) _ <|
    Fields.proper_cons (Shape.proper_of_exact (Document.shape (List ContainerPort)) rfl) _ <|
    Fields.proper_cons (Shape.proper_of_exact (Document.shape Probe) rfl) _ <|
    Fields.proper_cons (Shape.proper_of_exact (Document.shape ResourceRequirements) rfl) _ <|
    Fields.proper_cons (Shape.proper_of_exact (Document.shape (List VolumeMount)) rfl) _ hothers

theorem Volume.proper {v : Volume} (h : v.others = Volume.otherFields.default) :
    Document.Proper v := by
  have hothers : Volume.otherFields.Proper v.others := h ▸ Fields.proper_default _
  exact ⟨trivial, Fields.proper_cons
    (Shape.proper_of_exact (Document.shape ConfigMapVolumeSource) rfl) _ hothers⟩

theorem PersistentVolumeClaim.proper {c : PersistentVolumeClaim}
    (hmeta : Document.Proper c.metadata)
    (h : c.others = PersistentVolumeClaim.otherFields.default) : Document.Proper c := by
  obtain ⟨metadata, spec, others⟩ := c
  cases h
  exact ⟨hmeta, Fields.proper_cons (Shape.proper_of_exact _ rfl) _ (Fields.proper_default _)⟩

theorem PodSpec.proper {s : PodSpec} (hcontainers : Document.Proper s.containers)
    (hvolumes : ∀ v ∈ s.volumes, Document.Proper v) (h : s.others = PodSpec.otherFields.default) :
    Document.Proper s := by
  obtain ⟨containers, volumes, others⟩ := s
  cases h
  cases volumes with
  | none => exact ⟨hcontainers, trivial, Fields.proper_default _⟩
  | some volumes => exact ⟨hcontainers, hvolumes volumes rfl, Fields.proper_default _⟩

end Kubernetes

/-! ### Nothing drifts from itself -/

namespace Drift

theorem sameQuantities_self (q : Option Quantities) : sameQuantities q q = true := by
  have hall : ∀ e ∈ (q.getD ∅).entries,
      ((q.getD ∅).get? e.1).any (Quantity.same e.2) = true := by
    intro e he
    rw [SortedMap.get?, SortedMap.lookup_eq_some_of_mem (SortedMap.nodup_keys _) he]
    exact Quantity.same_refl e.2
  simp only [sameQuantities, beq_self_eq_true, Bool.true_and]
  exact List.all_eq_true.mpr hall

theorem sameResources_self (r : Option ResourceRequirements) : sameResources r r = true := by
  simp only [sameResources, sameQuantities_self, Bool.and_self]

theorem sameProbe_self (p : Option Probe) : sameProbe p p = true := by
  cases p with
  | none => rfl
  | some p => exact sameFields_self (by decide) (Document.proper_of_exact rfl p)

/-- A container that is read back is the one that was written, in everything that is compared. -/
theorem containerDrifted_reread (want live : Container) :
    containerDrifted want (reread live) = containerDrifted want live := by
  rw [Container.reread_eq]
  rfl

theorem containerDrifted_self (c : Container) : containerDrifted c c = false := by
  have henv : sameFields (c.env.getD []) (c.env.getD []) = true :=
    sameFields_self (by decide) (Document.proper_of_exact rfl _)
  have hmounts : sameFields (c.volumeMounts.getD []) (c.volumeMounts.getD []) = true :=
    sameFields_self (by decide) (Document.proper_of_exact rfl _)
  simp only [containerDrifted, bne_self_eq_false, sameResources_self, henv, hmounts,
    sameProbe_self, Bool.not_true, Bool.or_self]

end Drift

namespace Kubernetes

theorem ConfigMap.drifted_self (m : ConfigMap) : m.drifted m = false := by
  simp only [drifted, ne_eq, not_true_eq_false, decide_false]

theorem ConfigMap.drifted_reread (m : ConfigMap) : m.drifted (reread m) = false := by
  simp only [drifted, data_reread, ne_eq, not_true_eq_false, decide_false]

theorem StatefulSet.replicas?_adopt (want live : StatefulSet) :
    (want.adopt live).replicas? = want.replicas? := by
  unfold adopt
  cases hw : want.spec with
  | none => simp only [replicas?, hw]
  | some w => cases hl : live.spec <;> simp only [replicas?, hw, Option.bind_some]

theorem StatefulSet.podSpec?_adopt (want live : StatefulSet) :
    (want.adopt live).podSpec? = want.podSpec? := by
  unfold adopt
  cases hw : want.spec with
  | none => simp only [podSpec?, hw]
  | some w => cases hl : live.spec <;> simp only [podSpec?, hw, Option.bind_some]

/-- The pods of a proper stateful set have proper volumes. -/
theorem StatefulSet.proper_volumes {s : StatefulSet} (proper : Document.Proper s) :
    Document.Proper s.volumes := by
  obtain ⟨metadata, spec, others⟩ := s
  cases spec with
  | none => exact fun _ hmem => nomatch hmem
  | some spec =>
    obtain ⟨policy, replicas, selector, serviceName, ⟨podMetadata, pod⟩, claims, others'⟩ := spec
    cases pod with
    | none => exact fun _ hmem => nomatch hmem
    | some pod =>
      obtain ⟨containers, volumes, others''⟩ := pod
      cases volumes with
      | none => exact fun _ hmem => nomatch hmem
      | some volumes =>
        obtain ⟨-, hspec, -⟩ := proper
        obtain ⟨-, -, -, -, htemplate, -⟩ := hspec
        obtain ⟨-, hpod, -⟩ := htemplate
        exact hpod.2.1

theorem StatefulSet.replicas?_of_not_drifted {want live : StatefulSet}
    (h : want.drifted live = false) : live.replicas? = want.replicas? := by
  unfold drifted at h
  have hparts := Bool.or_eq_false_iff.mp (Bool.or_eq_false_iff.mp h).1
  exact (eq_of_beq (Bool.not_eq_false' .. ▸ hparts.1)).symm

/-- A stateful set has not drifted from itself. -/
theorem StatefulSet.drifted_self {s : StatefulSet} (proper : Document.Proper s) :
    s.drifted s = false := by
  have hvolumes : Drift.sameFields s.volumes s.volumes = true :=
    Drift.sameFields_self (by decide) (proper_volumes proper)
  simp only [drifted, bne_self_eq_false, hvolumes, Bool.not_true, Bool.false_or]
  cases s.container? with
  | none => rfl
  | some c => exact Drift.containerDrifted_self c

/-- A stateful set has not drifted when it is read back. -/
theorem StatefulSet.drifted_reread {s : StatefulSet} (proper : Document.Proper s) :
    s.drifted (reread s) = false := by
  have hvolumes : Drift.sameFields s.volumes (reread s).volumes = true := by
    rw [volumes_reread]
    exact Drift.sameFields_reread (by decide) (proper_volumes proper)
  simp only [drifted, replicas?_reread, bne_self_eq_false, hvolumes, Bool.not_true,
    Bool.false_or, container?_reread]
  cases s.container? with
  | none => rfl
  | some c => exact (Drift.containerDrifted_reread c c).trans (Drift.containerDrifted_self c)

theorem Service.drifted_self (s : Service) : s.drifted s = false := by
  unfold drifted
  cases s.spec with
  | none => rfl
  | some spec => simp

end Kubernetes

/-! ### Children that are written -/

namespace Child

variable {c : Child} {want live : c.Object}

/-- A child that is alike has not drifted. -/
theorem not_drifted (proper : Document.Proper want) (h : c.Alike want live) :
    c.drifted want live = false := by
  rw [drifted_congr (Alike.refl c want) h.symm]
  cases c with
  | configMap => exact ConfigMap.drifted_self want
  | statefulSet => exact StatefulSet.drifted_self proper
  | service => exact Service.drifted_self want

/-- A child that is alike has not drifted when it is read back. -/
theorem not_drifted_reread (proper : Document.Proper want) (h : c.Alike want live) :
    c.drifted want (reread live) = false := by
  rw [drifted_congr (Alike.refl c want) h.symm.reread]
  cases c with
  | configMap => exact ConfigMap.drifted_reread want
  | statefulSet => exact StatefulSet.drifted_reread proper
  | service =>
    have hspec : Child.service.Alike (reread want) want := Service.spec_reread want
    rw [drifted_congr (Alike.refl .service want) hspec]
    exact Service.drifted_self want

/-- A child that was created has not drifted when it is read back. -/
theorem drifted_created (proper : Document.Proper want) (version : Option String) :
    c.drifted want (reread (c.kind.withVersion version want)) = false :=
  not_drifted_reread proper (alike_withVersion c version want).symm

/-- What is adopted is compared only where a service has its address. -/
theorem alike_adopt (h : c ≠ .service) (want live : c.Object) :
    c.Alike want (c.adopt want live) := by
  cases c with
  | configMap => exact rfl
  | statefulSet =>
    exact ⟨(StatefulSet.replicas?_adopt want live).symm,
      (StatefulSet.podSpec?_adopt want live).symm⟩
  | service => exact absurd rfl h

/-- A service with the addresses of another one has drifted if its own were of another kind. -/
theorem drifted_adopt_service (want live : Service) :
    Child.service.drifted want (Child.service.adopt want live) =
      Child.service.addressDiffers want live := by
  have hspec : (Child.service.adopt want live : Service).spec = (Service.adopt want live).spec :=
    rfl
  simp only [drifted, Service.drifted, addressDiffers, hspec, Service.adopt]
  cases hw : want.spec with
  | none => simp [hw]
  | some w =>
    cases hl : live.spec with
    | none => simp [hw]
    | some l =>
      simp [ServiceSpec.namedPorts, ServiceSpec.isHeadless, ServiceSpec.publishesNotReady]

/-- Adopting the addresses of a service makes no difference to whether they differ. -/
theorem addressDiffers_adopt_service (want live : Service) :
    Child.service.addressDiffers want (Child.service.adopt want live) =
      Child.service.addressDiffers want live := by
  have hspec : (Child.service.adopt want live : Service).spec = (Service.adopt want live).spec :=
    rfl
  simp only [addressDiffers, hspec, Service.adopt]
  cases hw : want.spec with
  | none => simp
  | some w =>
    cases hl : live.spec with
    | none => simp [hw]
    | some l => simp [ServiceSpec.isHeadless]

/-- What is written for a drifted child has drifted only in its address. -/
theorem drifted_adopt (proper : Document.Proper want) (live : c.Object) :
    c.drifted want (c.adopt want live) = c.addressDiffers want live := by
  cases c with
  | service => exact drifted_adopt_service want live
  | configMap => exact not_drifted proper (alike_adopt (by decide) want live)
  | statefulSet => exact not_drifted proper (alike_adopt (by decide) want live)

/-- A child that was updated has drifted only in its address when it is read back. -/
theorem drifted_updated (proper : Document.Proper want) (live : c.Object)
    (version : Option String) :
    c.drifted want (reread (c.kind.withVersion version (c.adopt want live))) =
      c.addressDiffers want live := by
  have hversion := alike_withVersion c version (c.adopt want live)
  cases c with
  | service =>
    have hspec : Child.service.Alike
        (reread (Child.service.kind.withVersion version (Child.service.adopt want live)))
        (Child.service.adopt want live) :=
      Alike.trans (c := .service) (Service.spec_reread _) hversion
    rw [drifted_congr (Alike.refl .service want) hspec]
    exact drifted_adopt_service want live
  | configMap =>
    exact not_drifted_reread proper (Alike.trans (alike_adopt (by decide) want live)
      hversion.symm)
  | statefulSet =>
    exact not_drifted_reread proper (Alike.trans (alike_adopt (by decide) want live)
      hversion.symm)

/-- An update leaves the difference of the addresses as it was. -/
theorem addressDiffers_updated (want live : c.Object) (version : Option String) :
    c.addressDiffers want (reread (c.kind.withVersion version (c.adopt want live))) =
      c.addressDiffers want live := by
  have hversion := alike_withVersion c version (c.adopt want live)
  cases c with
  | service =>
    have hspec : Child.service.Alike
        (reread (Child.service.kind.withVersion version (Child.service.adopt want live)))
        (Child.service.adopt want live) :=
      Alike.trans (c := .service) (Service.spec_reread _) hversion
    rw [addressDiffers_congr (Alike.refl .service want) hspec]
    exact addressDiffers_adopt_service want live
  | configMap => rfl
  | statefulSet => rfl

end Child

end ClusterOperator
