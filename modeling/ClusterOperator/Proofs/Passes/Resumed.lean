import ClusterOperator.Proofs.Children.Repeated
import ClusterOperator.Proofs.Children.Resumed
import ClusterOperator.Proofs.Passes.Steps

/-!
# A pass that is run again after a failure

A pass that could not apply all children is simply run again. Once no request fails any more, all
children come to the documents that one undisturbed pass would have made of the original store,
whatever was created, updated or left alone before the failure. Only versions may be newer.

## Main definitions

* `Declaration.observed`: a declaration at another time.

## Main results

* `Plan.ofDeclaration_observed`: what is asked for does not depend on what is observed.
* `Surroundings.Alone.ensure_resumed`: applying children again after a failure.
-/

namespace ClusterOperator

/-- A declaration at another time, when its version and its status have changed. -/
def Declaration.observed (d : Declaration) (version : Option String) (status : Option Status) :
    Declaration :=
  { d with metadata := { d.metadata with resourceVersion := version }, status }

namespace Plan

variable {domain : String} {d : Declaration} {p : Plan}

/-- What is asked for does not depend on what is observed. -/
theorem ofDeclaration_observed (h : ofDeclaration d domain = .ok p) (version : Option String)
    (status : Option Status) :
    ofDeclaration (d.observed version status) domain =
      .ok { p with declaration := d.observed version status } := by
  have hspec : (d.observed version status).spec = d.spec := rfl
  obtain ⟨q, hq, hagrees⟩ := exists_agrees h hspec rfl rfl
  have hdeclaration := (ofDeclaration_eq_ok hq).1
  refine hq.trans (congrArg Except.ok ?_)
  obtain ⟨declaration, name, space, mode, backend, replicas, hle, domain⟩ := p
  obtain ⟨declaration', name', space', mode', backend', replicas', hle', domain'⟩ := q
  obtain ⟨-, hname, hspace, hmode, hbackend, hreplicas, hdomain⟩ := hagrees
  simp only at hdeclaration hname hspace hmode hbackend hreplicas hdomain
  subst hdeclaration hname hspace hmode hbackend hreplicas hdomain
  rfl

theorem children_observed (h : ofDeclaration d domain = .ok p) (version : Option String)
    (status : Option Status) :
    ({ p with declaration := d.observed version status } : Plan).children = p.children := by
  obtain rfl := (ofDeclaration_eq_ok h).1
  obtain ⟨declaration, name, space, mode, backend, replicas, hle, domain⟩ := p
  cases mode <;> rfl

end Plan

namespace Surroundings

variable {u v w : Surroundings} {domain : String} {d : Declaration} {p : Plan} {s : Store}

/-- Applying the children of a deployment again after a failure succeeds and leaves the store as if
nothing had failed, but for the versions, even if the version or the status of the declaration has
changed. Before that the failure left the children before the failing one as they would be without
it, and all others untouched. -/
theorem Alone.ensure_resumed (alone : u.Alone) (calm : v.Calm) (calm' : w.Calm)
    (hplan : Plan.ofDeclaration d domain = .ok p) (tidy : s.Tidy)
    (readable : ∀ child ∈ p.children, ∃ found, s.get child.1.kind p.space
      (child.1.kind.metadata child.2).displayName = .ok found)
    {calls : List Call} {stop : Stop} {cut : Scene}
    (h : u.pass (ensure domain d) ⟨s, calls⟩ = (.error stop, cut))
    (version : Option String) (status : Option Status) (calls' calls'' : List Call) :
    let again := v.pass (ensure domain (d.observed version status)) ⟨cut.store, calls'⟩
    let whole := w.pass (ensure domain d) ⟨s, calls''⟩
    again.1.isOk = true ∧ whole.1.isOk = true ∧
      again.2.store.SameButVersions whole.2.store ∧
      ∃ before failing after, p.children = before ++ failing :: after ∧
        u.StoppedAt (childKey p.space failing) stop cut.calls ∧
        (∀ child ∈ before, cut.store.get? (childKey p.space child) =
          whole.2.store.get? (childKey p.space child)) ∧
        ∀ child ∈ failing :: after, cut.store.get? (childKey p.space child) =
          s.get? (childKey p.space child) := by
  intro again whole
  have hagain : again = v.pass (applyAll p.space p.children) ⟨cut.store, calls'⟩ := by
    rw [← Plan.children_observed hplan version status]
    exact congrArg (v.pass · _) (ensure_of_plan (Plan.ofDeclaration_observed hplan version status))
  have hwhole : whole = w.pass (applyAll p.space p.children) ⟨s, calls''⟩ :=
    congrArg (w.pass · _) (ensure_of_plan hplan)
  rw [hagain, hwhole]
  rw [ensure_of_plan hplan] at h
  exact alone.applyAll_resumed calm calm' p.nodup_childKeys (fun _ => Plan.proper_children) tidy
    readable h calls' calls''

end Surroundings

/-! ### A service that is not created at first -/

namespace Declaration

/-- A declaration of servers that find each other under a headless service. -/
def peersSample : Declaration where
  metadata := { name := some "nc", space := some "default" }
  spec := { type := "cluster", database := { type := "embedded" } }

/-- The surroundings in which no service can be created. -/
def refusingServices : Surroundings :=
  { Surroundings.well with
    failure := fun _ r =>
      if r.verb = .create ∧ r.kind = .service then some { error := .internal "no answer" }
      else none }

theorem refusingServices_alone : refusingServices.Alone where
  others _ _ _ := rfl
  untouched earlier r f h := by
    simp only [refusingServices] at h
    split at h
    · cases h
      rfl
    · cases h

end Declaration

theorem Kubernetes.Service.addressedStore_readable (c : Child) (space name : String) :
    ∃ found, addressedStore.get c.kind space name = .ok found := by
  by_cases hkey : (⟨c.kind, space, name⟩ : Key) = ⟨.service, "default", "nc-headless"⟩
  · cases c with
    | service =>
      cases hkey
      exact ⟨_, Store.get_of_written (c := .service) (Store.get?_write_self _ _ _)⟩
    | configMap => cases hkey
    | statefulSet => cases hkey
  · exact ⟨none, Store.get_eq_ok_none.mpr (Store.get?_write_of_ne _ _ hkey)⟩

open Declaration Kubernetes.Service Surroundings in
theorem Declaration.refusingServices_resumed :
    ∃ stop cut, refusingServices.pass (ensure "cluster.local" peersSample) ⟨addressedStore, []⟩ =
        (.error stop, cut) ∧
      let again := well.pass (ensure "cluster.local" (peersSample.observed (some "7") none))
        ⟨cut.store, []⟩
      let whole := well.pass (ensure "cluster.local" peersSample) ⟨addressedStore, []⟩
      again.1.isOk = true ∧ whole.1.isOk = true ∧ again.2.store.SameButVersions whole.2.store := by
  obtain ⟨p, hplan⟩ : ∃ p, Plan.ofDeclaration peersSample "cluster.local" = .ok p := ⟨_, rfl⟩
  have hfailed : (refusingServices.pass (ensure "cluster.local" peersSample)
      ⟨addressedStore, []⟩).1.isOk = false := rfl
  rcases hpass : refusingServices.pass (ensure "cluster.local" peersSample) ⟨addressedStore, []⟩
    with ⟨stop | applied, cut⟩
  · obtain ⟨hagain, hwhole, hsame, -⟩ := refusingServices_alone.ensure_resumed calm_well calm_well
      hplan (Store.tidy_empty.write _ _) (fun child _ => addressedStore_readable child.1 _ _) hpass
      (some "7") none [] []
    exact ⟨stop, cut, rfl, hagain, hwhole, hsame⟩
  · rw [hpass] at hfailed
    cases hfailed

end ClusterOperator
