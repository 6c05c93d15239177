import ClusterOperator.Reconcile
import ClusterOperator.Store

/-!
# When passes are made

The controller watches the declared deployments and their children and decides when a pass is due.
A deployment that is seen for the first time, or whose generation has changed, gets a pass at once;
writing a status leaves the generation alone, so it starts none. A child that appears, changes or
goes gets its owners a pass at once. After a pass the next one is due after a pause, which is longer
if the deployment could not even be fetched; a deployment that was not found gets none.

A deployment has at most one next pass. A pass that is asked for replaces a later one and gives way
to an earlier one. While a pass is running no other one of the same deployment is started: it waits
until the running one has ended.

## Main definitions

* `Delivery`: what the watches deliver.
* `Controller`: what is remembered of the deployments and when their next passes are due.
* `Controller.deliver`, `Controller.take?`, `Controller.finish`: what happens to it.

## Main results

* `Controller.due_schedule_self`: a pass that is asked for is due no later than asked.
-/

namespace ClusterOperator

open Kubernetes

/-- The key of a declared deployment. -/
def Declaration.key (d : Declaration) : Key :=
  ⟨.declaration, d.metadata.spaceOrEmpty, d.displayName⟩

/-- What the watches deliver. -/
inductive Delivery where
  /-- A declared deployment as it is now. -/
  | applied (d : Declaration)
  /-- A declared deployment that is gone. -/
  | deleted (d : Declaration)
  /-- A child that appeared, changed or is gone. -/
  | touched (child : ObjectMeta)

/-- The deployments that own an object. -/
def Kubernetes.ObjectMeta.owners (m : ObjectMeta) : List Key :=
  ((m.ownerReferences.getD []).filter fun o =>
      o.apiVersion == Declaration.apiVersion && o.kind == Declaration.kind).map fun o =>
    ⟨.declaration, m.spaceOrEmpty, o.name⟩

/-- What is delivered about an object that is stored or gone; pods are not watched. -/
def Delivery.of (gone : Bool) : (k : Kind) → k.Object → Option Delivery
  | .declaration, d => some (if gone then deleted d else applied d)
  | .pod, _ => none
  | .configMap, o => some (touched (ConfigMap.metadata o))
  | .service, o => some (touched (Service.metadata o))
  | .statefulSet, o => some (touched (StatefulSet.metadata o))

/-- What is remembered of the deployments and when their next passes are due, in seconds. -/
structure Controller where
  /-- The deployments as they were delivered last. -/
  cache : SortedMap Key Declaration := ∅
  /-- The generations that were delivered last, also of deployments that are gone. -/
  generations : SortedMap Key Int := ∅
  /-- When the next pass is due. -/
  due : SortedMap Key Nat := ∅
  /-- The deployments of which a pass is running. -/
  running : List Key := []

namespace Controller

instance : Inhabited Controller := ⟨{}⟩

/-- Asks for a pass at a time. It replaces a later one and gives way to an earlier one. -/
def schedule (c : Controller) (key : Key) (time : Nat) : Controller :=
  match c.due.get? key with
  | some earlier => if earlier ≤ time then c else { c with due := c.due.insert key time }
  | none => { c with due := c.due.insert key time }

/-- Takes a deployment as it is now. It gets a pass unless its generation is known already. -/
def apply (c : Controller) (now : Nat) (d : Declaration) : Controller :=
  let c := { c with cache := c.cache.insert d.key d }
  match d.metadata.generation with
  | none => c.schedule d.key now
  | some g =>
    if c.generations.get? d.key = some g.val then c
    else { c with generations := c.generations.insert d.key g.val }.schedule d.key now

/-- Takes what the watches deliver. -/
def deliver (c : Controller) (now : Nat) : Delivery → Controller
  | .applied d => c.apply now d
  | .deleted d => { c with cache := c.cache.erase d.key }
  | .touched child => child.owners.foldl (fun c key => c.schedule key now) c

/-- The first deployment whose pass is due and not running, and the controller without this pass
being due. The pass is running from now on, unless the deployment is gone. -/
def take? (c : Controller) (now : Nat) : Option (Key × Controller) :=
  (c.due.entries.find? fun e => decide (e.2 ≤ now) && !c.running.contains e.1).map fun e =>
    (e.1, { c with
      due := c.due.erase e.1
      running := if c.cache.contains e.1 then e.1 :: c.running else c.running })

/-- The pause after a pass; none if there is nothing left to do. -/
def pause? (settings : Settings) : Except Error Outcome → Option Nat
  | .error _ => some settings.errorRequeue
  | .ok .notFound => none
  | .ok .converged | .ok (.failed _) | .ok .aborted => some settings.resync

/-- Ends a pass. -/
def finish (c : Controller) (settings : Settings) (now : Nat) (key : Key)
    (result : Except Error Outcome) : Controller :=
  let c := { c with running := c.running.filter (· ≠ key) }
  match pause? settings result with
  | none => c
  | some pause => c.schedule key (now + pause)

/-- The time at which the next pass is due. -/
def nextTime? (c : Controller) : Option Nat := (c.due.entries.map (·.2)).min?

theorem due_schedule_self (c : Controller) (key : Key) (time : Nat) :
    ∃ t, (c.schedule key time).due.get? key = some t ∧ t ≤ time := by
  unfold schedule
  cases h : c.due.get? key with
  | none => exact ⟨time, by simp, Nat.le_refl _⟩
  | some earlier =>
    by_cases he : earlier ≤ time
    · exact ⟨earlier, by simp [he, h], he⟩
    · exact ⟨time, by simp [he], Nat.le_refl _⟩

end Controller

end ClusterOperator
