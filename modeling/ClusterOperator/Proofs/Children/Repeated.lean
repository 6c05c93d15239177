import ClusterOperator.Proofs.Children.Apply

/-!
# Applying a child again

A child that was updated is applied again. The update settles every drift but one: a service takes
over the addresses of the stored one, so that a service which should have no address of its own and
has one, or the other way round, is updated again and again.

## Main results

* `Child.update_settles_all_but_address`: what follows an update.
-/

namespace ClusterOperator

open Kubernetes

namespace Surroundings.Calm

variable {u : Surroundings} {space : String} {s : Store} {calls : List Call} {c : Child}
  {want live : c.Object}

/-- A child that was updated is stored with what it adopted. -/
theorem get_updated (s : Store) (space : String) (want live : c.Object) :
    ∃ version, (s.write (childKey space ⟨c, c.adopt want live⟩) (c.adopt want live)).2.get c.kind
      space (c.kind.metadata want).displayName =
        .ok (some (Document.reread (c.kind.withVersion version (c.adopt want live)))) := by
  have hwritten := Store.get?_write_self s (childKey space ⟨c, c.adopt want live⟩)
    (c.adopt want live)
  have hkey : childKey space ⟨c, c.adopt want live⟩ =
      ⟨c.kind, space, (c.kind.metadata want).displayName⟩ := c.keyOf_adopt space want live
  exact ⟨_, Store.get_of_written ((congrArg _ hkey.symm).trans hwritten)⟩

/-- Applying a child again that was updated: it has drifted still if one of the desired and the
stored service has an address of its own and the other has none, and then it will always be
updated; otherwise it is left alone from then on. -/
theorem applyAll_replicate (calm : u.Calm) (proper : Document.Proper want) (tidy : s.Tidy)
    (h : s.get c.kind space (c.kind.metadata want).displayName = .ok (some live))
    (drifted : c.drifted want live = true) (n : Nat) :
    (u.pass (applyAll space (List.replicate (n + 1) ⟨c, want⟩)) ⟨s, calls⟩).1 =
      .ok (.updated ::
        List.replicate n (if c.addressDiffers want live then .updated else .unchanged)) := by
  induction n generalizing s calls live with
  | zero =>
    rw [List.replicate_succ, applyAll, u.pass_bind_of_ok (apply_updated calm tidy h drifted)]
    rfl
  | succ n ih =>
    obtain ⟨version, hagain⟩ := get_updated s space want live
    have hdrifted := Child.drifted_updated proper live version
    rw [List.replicate_succ, applyAll, u.pass_bind_of_ok (apply_updated calm tidy h drifted),
      pass_bind_pure]
    cases hcase : c.addressDiffers want live with
    | true =>
      have hdiffers := Child.addressDiffers_updated want live version
      rw [ih (tidy.write _ _) hagain (hdrifted.trans hcase), hdiffers, hcase]
      rfl
    | false =>
      have hsettled : ∀ child ∈ List.replicate (n + 1) (⟨c, want⟩ : (c : Child) × c.Object),
          ∃ found, (s.write (childKey space ⟨c, c.adopt want live⟩) (c.adopt want live)).2.get
            child.1.kind space (child.1.kind.metadata child.2).displayName = .ok (some found) ∧
              child.1.drifted child.2 found = false := fun child hchild => by
        obtain rfl := List.eq_of_mem_replicate hchild
        exact ⟨_, hagain, hdrifted.trans hcase⟩
      have hall : ∀ calls, (u.pass (applyAll space (List.replicate (n + 1) ⟨c, want⟩))
          ⟨(s.write (childKey space ⟨c, c.adopt want live⟩) (c.adopt want live)).2, calls⟩).1 =
            .ok (List.replicate (n + 1) .unchanged) := fun calls => by
        obtain ⟨left, hall, -⟩ := calm.smooth.applyAll_unchanged (calm.spares fun _ => True)
          (fun _ _ => trivial) ⟨_, calls⟩ hsettled
        rw [hall, List.map_replicate]
      rw [hall]
      rfl

end Surroundings.Calm

/-- An update settles every drift but the kind of a service's address: what is written has drifted
exactly if one of the desired and the live service has an address of its own and the other has
none. A child that is applied again and again is then updated every time, and otherwise left alone
from the second time on. -/
theorem Child.update_settles_all_but_address {c : Child} {want live : c.Object}
    (proper : Document.Proper want) (drifted : c.drifted want live = true) :
    c.drifted want (c.adopt want live) = c.addressDiffers want live ∧
      ∀ (u : Surroundings) (s : Store) (space : String) (calls : List Call) (n : Nat),
        u.Calm → s.Tidy →
        s.get c.kind space (c.kind.metadata want).displayName = .ok (some live) →
        (u.pass (applyAll space (List.replicate (n + 1) ⟨c, want⟩)) ⟨s, calls⟩).1 =
          .ok (.updated ::
            List.replicate n (if c.addressDiffers want live then .updated else .unchanged)) :=
  ⟨drifted_adopt proper live, fun _ _ _ _ n calm tidy h =>
    calm.applyAll_replicate proper tidy h drifted n⟩

/-! ### A service that is updated again and again -/

namespace Kubernetes.Service

/-- A service for peers. -/
def peerSample : Service where
  metadata := { name := some "nc-headless" }
  spec := some { clusterIP := some "None", publishNotReadyAddresses := some true }

/-- A service under the same name that has an address of its own. -/
def addressedSample : Service where
  metadata := { name := some "nc-headless" }
  spec := some { clusterIP := some "10.0.0.12" }

/-- The store in which it is the only object. -/
def addressedStore : Store :=
  (Store.write {} ⟨.service, "default", "nc-headless"⟩ addressedSample).2

end Kubernetes.Service

open Service in
theorem Child.peerSample_updated_again :
    Child.service.drifted peerSample (Child.service.adopt peerSample addressedSample) = true ∧
      (Surroundings.pass { probe := fun _ => ⟨0, .panicked⟩, clock := fun _ => Instant.epoch }
        (applyAll "default" [⟨.service, peerSample⟩, ⟨.service, peerSample⟩])
        ⟨addressedStore, []⟩).1 = .ok [.updated, .updated] := by
  have hproper : Document.Proper (α := Child.service.Object) peerSample :=
    Service.proper (ObjectMeta.proper rfl) rfl
  have hstored : addressedStore.get .service "default" "nc-headless" =
      .ok (some (Document.reread (Kind.withVersion .service (some "1") addressedSample))) :=
    Store.get_of_written (c := .service) (Store.get?_write_self _ _ _)
  have hdrifted : Child.service.drifted peerSample addressedSample = true := rfl
  have hadopted := (Child.update_settles_all_but_address hproper hdrifted).1
  have hagain := (Child.update_settles_all_but_address hproper rfl).2
    { probe := fun _ => ⟨0, .panicked⟩, clock := fun _ => Instant.epoch }
    addressedStore "default" [] 1 ⟨fun _ _ => rfl, fun _ _ _ => rfl⟩
    (Store.tidy_empty.write _ _) hstored
  have hdiffers : Child.service.addressDiffers peerSample
      (Document.reread (Kind.withVersion .service (some "1") addressedSample)) = true := rfl
  refine ⟨hadopted.trans rfl, hagain.trans ?_⟩
  exact congrArg (fun differs : Bool => Except.ok (Applied.updated ::
    List.replicate 1 (if differs then Applied.updated else .unchanged))) hdiffers

end ClusterOperator
