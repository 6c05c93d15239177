import ClusterOperator.Proofs.Passes.Steps
import ClusterOperator.Proofs.Status.Recorded

/-!
# What passes leave behind

The stores that can be reached by passes over one deployment, starting without any of its children:
at each pass the deployment may ask for something else, requests may fail at any point, and other
clients may write anything but its children. In all of them the children can be read, and the
service for peers has no address of its own while the service for clients may have one. So once the
children of a plan have been applied, none of them has drifted from it.

## Main definitions

* `Store.ChildrenFit`: the children of a deployment can be read and services are of their kind.
* `Store.SameChildren`: two stores have the same children of a deployment.
* `History`: the stores that passes can leave behind.
* `Store.Settled`: no child of a plan has drifted.

## Main results

* `History.childrenFit`: this holds in all stores that passes can leave behind.
* `Surroundings.ensure_settled`: after the children are applied none has drifted.
-/

namespace ClusterOperator

open Kubernetes

/-! ### Services of their kind -/

namespace Child

variable {c : Child} {headless : Bool} {want live : c.Object}

theorem Fits.of_alike {a b : c.Object} (ha : c.Fits headless a) (h : c.Alike a b) :
    c.Fits headless b := by
  cases c with
  | configMap => trivial
  | statefulSet => trivial
  | service =>
    obtain ⟨spec, hspec, hheadless⟩ := ha
    exact ⟨spec, Eq.trans (Eq.symm h) hspec, hheadless⟩

theorem Fits.reread {a : c.Object} (ha : c.Fits headless a) :
    c.Fits headless (Document.reread a) := by
  cases c with
  | configMap => trivial
  | statefulSet => trivial
  | service =>
    obtain ⟨spec, hspec, hheadless⟩ := ha
    exact ⟨spec, (Service.spec_reread a).trans hspec, hheadless⟩

/-- A service that takes over the addresses of another one is of its kind. -/
theorem Fits.adopt (hwant : c.Fits headless want) (hlive : c.Fits headless live) :
    c.Fits headless (c.adopt want live) := by
  cases c with
  | configMap => trivial
  | statefulSet => trivial
  | service =>
    obtain ⟨w, hw, -⟩ := hwant
    obtain ⟨l, hl, hheadless⟩ := hlive
    have hw : Service.spec want = some w := hw
    have hl : Service.spec live = some l := hl
    have hadopt : (Service.adopt want live).spec =
        some { w with clusterIP := l.clusterIP, clusterIPs := l.clusterIPs } := by
      simp only [Service.adopt, hw, hl]
    exact ⟨_, hadopt, hheadless⟩

/-- Two services of the same kind do not differ in whether they have an address. -/
theorem Fits.addressDiffers (hwant : c.Fits headless want) (hlive : c.Fits headless live) :
    c.addressDiffers want live = false := by
  cases c with
  | configMap => rfl
  | statefulSet => rfl
  | service =>
    obtain ⟨w, hw, hwHeadless⟩ := hwant
    obtain ⟨l, hl, hlHeadless⟩ := hlive
    have hw : Service.spec want = some w := hw
    have hl : Service.spec live = some l := hl
    simp only [Child.addressDiffers, hw, hl, hwHeadless, hlHeadless, bne_self_eq_false]

/-- What is settled is of its kind if what was there before was. -/
theorem Settles.fits {before after : Option Json} (h : c.Settles want before after)
    (hwant : c.Fits headless want)
    (hbefore : ∀ j live, before = some j → Document.read c.Object j = .ok live →
      c.Fits headless live) :
    ∃ j live, after = some j ∧ Document.read c.Object j = .ok live ∧ c.Fits headless live := by
  cases h with
  | created version =>
    exact ⟨_, _, rfl, Document.read_write c.wellFormed _,
      (hwant.of_alike (alike_withVersion c version want).symm).reread⟩
  | @updated j live version hread hdrifted =>
    have hadopt := hwant.adopt (hbefore j live rfl hread)
    exact ⟨_, _, rfl, Document.read_write c.wellFormed _,
      (hadopt.of_alike (alike_withVersion c version _).symm).reread⟩
  | @unchanged j live hread hsettled => exact ⟨j, live, rfl, hread, hbefore j live rfl hread⟩

theorem kind_injective {c c' : Child} (h : c.kind = c'.kind) : c = c' := by
  revert h
  cases c <;> cases c' <;> decide

end Child

/-! ### Stores whose children can be read -/

namespace Declaration.IsNamed

variable {space name domain : String} {d : Declaration}

theorem withDefaults (named : d.IsNamed space name) : d.withDefaults.IsNamed space name :=
  ⟨named.space, named.name⟩

theorem withSpec (named : d.IsNamed space name) (t : Spec) :
    Declaration.IsNamed space name { d with spec := t } :=
  ⟨named.space, named.name⟩

theorem withStatus (named : d.IsNamed space name) (status : Option Status) :
    Declaration.IsNamed space name { d with status } :=
  ⟨named.space, named.name⟩

/-- The plan of a declaration has its name and namespace. -/
theorem plan_eq {p : Plan} (named : d.IsNamed space name)
    (h : Plan.ofDeclaration d domain = .ok p) : p.space = space ∧ p.name = name := by
  obtain ⟨-, hname, hspace, -⟩ := Plan.ofDeclaration_eq_ok h
  exact ⟨Option.some.inj (hspace.symm.trans named.space), hname.trans named.name⟩

end Declaration.IsNamed

/-- What is stored under the keys of the children of a deployment can be read, and services are of
their kind: the one for peers has no address of its own, the one for clients may have one. -/
def Store.ChildrenFit (space name : String) (s : Store) : Prop :=
  ∀ (c : Child) (childName : String) (j : Json),
    Key.IsChildOf space name ⟨c.kind, space, childName⟩ →
      s.get? ⟨c.kind, space, childName⟩ = some j →
        ∃ live, Document.read c.Object j = .ok live ∧
          c.Fits (decide (childName = name ++ "-headless")) live

/-- Two stores have the same children of a deployment. -/
def Store.SameChildren (space name : String) (s s' : Store) : Prop :=
  ∀ key, key.IsChildOf space name → s'.get? key = s.get? key

theorem Store.ChildrenFit.congr {space name : String} {s s' : Store}
    (h : s.ChildrenFit space name) (same : Store.SameChildren space name s s') :
    s'.ChildrenFit space name :=
  fun c childName j hkey hj => h c childName j hkey ((same _ hkey).symm.trans hj)

namespace Surroundings

variable {u : Surroundings} {space name domain : String} {settings : Settings} {d : Declaration}
  {scene : Scene}

/-- Applying the children of a plan settles what is stored under the key of a child, or leaves it
as it is. -/
theorem ensure_attempted {p : Plan} (spares : u.Spares (Key.IsChildOf p.space p.name))
    (hplan : Plan.ofDeclaration d domain = .ok p) (scene : Scene) (c : Child) (childName : String)
    (hkey : Key.IsChildOf p.space p.name ⟨c.kind, p.space, childName⟩) :
    let before := scene.store.get? ⟨c.kind, p.space, childName⟩
    let after := (u.pass (ensure domain d) scene).2.store.get? ⟨c.kind, p.space, childName⟩
    after = before ∨ ∃ want, (⟨c, want⟩ : (c : Child) × c.Object) ∈ p.children ∧
      (c.kind.metadata want).displayName = childName ∧ c.Settles want before after := by
  intro before after
  have hattempted := applyAll_attempted spares (fun _ => Plan.childKey_isChildOf)
    p.nodup_childKeys scene
  rw [← ensure_of_plan hplan] at hattempted
  by_cases hchild : ∃ child ∈ p.children, childKey p.space child = ⟨c.kind, p.space, childName⟩
  · obtain ⟨⟨c', want⟩, hmem, hsame⟩ := hchild
    obtain rfl : c' = c := Child.kind_injective (congrArg Key.kind hsame)
    have hchild := hattempted _ hmem
    rw [hsame] at hchild
    rcases hchild with ⟨hkept, -⟩ | hsettles
    · exact .inl hkept
    · exact .inr ⟨want, hmem, congrArg Key.name hsame, hsettles⟩
  · refine .inl (run_get? spares hkey (ensure_spares fun q hq child hmem heq => ?_) scene)
    cases hplan.symm.trans hq
    exact hchild ⟨child, hmem, heq⟩

/-- Applying children keeps what can be read and is of its kind, even if it does not come to its
end. -/
theorem ensure_childrenFit (domain : String) (spares : u.Spares (Key.IsChildOf space name))
    (named : d.IsNamed space name) (fit : scene.store.ChildrenFit space name) :
    (u.pass (ensure domain d) scene).2.store.ChildrenFit space name := by
  cases hplan : Plan.ofDeclaration d domain with
  | error e =>
    rw [ensure_of_error hplan, pass_ofExcept]
    exact fit
  | ok p =>
    obtain ⟨rfl, rfl⟩ := named.plan_eq hplan
    intro c childName j hkey hj
    rcases ensure_attempted spares hplan scene c childName hkey with
      hkept | ⟨want, hmem, rfl, hsettles⟩
    · exact fit c childName j hkey (hkept.symm.trans hj)
    · obtain ⟨j', live, hj', hread, hlive⟩ := hsettles.fits (Plan.fits_children hmem)
        fun old oldLive hold holdRead => by
          obtain ⟨live, hread, hlive⟩ := fit c _ old hkey hold
          exact Except.ok.inj (holdRead.symm.trans hread) ▸ hlive
      exact ⟨live, Option.some.inj (hj'.symm.trans hj) ▸ hread, hlive⟩

/-- No step of a pass but the first changes children. -/
theorem run_mild_sameChildren {α : Type} (spares : u.Spares (Key.IsChildOf space name))
    {p : Program α} (h : p.Within Call.Mild) (scene : Scene) :
    Store.SameChildren space name scene.store (u.run p scene).2.store :=
  fun _ hkey => run_mild_get? spares hkey hkey.kind_ne.1 h scene

/-- A pass keeps what can be read and is of its kind. -/
theorem reconcile_childrenFit (spares : u.Spares (Key.IsChildOf space name)) {s : Store}
    (named : ∀ d, (u.answer (.get .declaration space name) ⟨s, []⟩).1 = .ok (some d) →
      d.IsNamed space name)
    (fit : s.ChildrenFit space name) :
    (u.run (reconcile settings space name) ⟨s, []⟩).2.store.ChildrenFit space name := by
  have hfetched : (u.requested (.get .declaration space name) ⟨s, []⟩).store.ChildrenFit space
      name := fit.congr fun _ hkey => answer_get? spares hkey (.inl rfl) _
  cases hanswer : (u.answer (.get .declaration space name) ⟨s, []⟩).1 with
  | error e =>
    rw [reconcile, run_bind, run_request, hanswer]
    exact hfetched
  | ok found =>
    cases found with
    | none =>
      rw [reconcile, run_bind, run_request, hanswer]
      exact hfetched
    | some d =>
      have hnamed := named d hanswer
      have hensured := ensure_childrenFit (d := d.withDefaults) settings.clusterDomain
        spares hnamed.withDefaults hfetched
      rw [u.run_reconcile_of_found hanswer]
      rcases hensure : u.pass (ensure settings.clusterDomain d.withDefaults)
          (u.requested (.get .declaration space name) ⟨s, []⟩) with ⟨stop | applied, left⟩
      · rw [u.run_runPass_of_error hensure]
        rw [hensure] at hensured
        exact hensured.congr (run_mild_sameChildren spares (giveUp_mild _ _) _)
      · rw [u.run_runPass_of_ok hensure]
        rw [hensure] at hensured
        exact hensured.congr (run_mild_sameChildren spares (afterEnsure_mild _ _ _) _)

end Surroundings

/-! ### Stores that passes can leave behind -/

/-- The stores that passes over one deployment can leave behind if they are the only writers of its
children. To begin with there are no children. Then anything else may be written, the declaration
included, and passes may run in any surroundings that leave the children alone. -/
inductive History (space name : String) : Store → Prop
  | start {s : Store} (tidy : s.Tidy) (childless : ∀ key, key.IsChildOf space name →
      s.get? key = none) : History space name s
  | edit {s s' : Store} (before : History space name s) (tidy : s'.Tidy)
      (same : Store.SameChildren space name s s') : History space name s'
  | pass {s : Store} (before : History space name s) (settings : Settings) (u : Surroundings)
      (spares : u.Spares (Key.IsChildOf space name)) (keepsTidy : u.KeepsTidy)
      (named : ∀ d, (u.answer (.get .declaration space name) ⟨s, []⟩).1 = .ok (some d) →
        d.IsNamed space name) :
      History space name (u.run (reconcile settings space name) ⟨s, []⟩).2.store

namespace History

variable {space name : String} {s : Store}

theorem tidy (h : History space name s) : s.Tidy := by
  induction h with
  | start tidy childless => exact tidy
  | edit before tidy same => exact tidy
  | pass before settings u spares keepsTidy named ih => exact Surroundings.run_tidy keepsTidy _ ih

/-- In every store that passes can leave behind the children can be read and are of their kind. -/
theorem childrenFit (h : History space name s) : s.ChildrenFit space name := by
  induction h with
  | start tidy childless =>
    exact fun c childName j hkey hj => nomatch (childless _ hkey).symm.trans hj
  | edit before tidy same ih => exact ih.congr same
  | pass before settings u spares keepsTidy named ih =>
    exact Surroundings.reconcile_childrenFit spares named ih

end History

/-! ### Settled plans -/

/-- Every child of a plan is stored and has not drifted. -/
def Store.Settled (s : Store) (p : Plan) : Prop :=
  ∀ child ∈ p.children, ∃ live, s.get child.1.kind p.space
    (child.1.kind.metadata child.2).displayName = .ok (some live) ∧
      child.1.drifted child.2 live = false

theorem Store.Settled.of_same {s s' : Store} {p : Plan} (h : s.Settled p)
    (same : Store.SameChildren p.space p.name s s') : s'.Settled p := by
  intro child hchild
  obtain ⟨live, hlive, hsettled⟩ := h child hchild
  exact ⟨live, (Store.get_congr (same _ (Plan.childKey_isChildOf hchild))).trans hlive, hsettled⟩

/-- A plan is settled where one is that agrees with it. -/
theorem Store.Settled.of_agrees {s : Store} {p q : Plan} (h : s.Settled p) (agrees : p.Agrees q) :
    s.Settled q := by
  intro child hchild
  obtain ⟨want, hmem, halike, hkey⟩ := Plan.alike_children agrees hchild
  obtain ⟨live, hlive, hsettled⟩ := h _ hmem
  obtain ⟨j, hj, hread⟩ := Store.get_eq_ok_some.mp hlive
  have hkept : s.get? (childKey q.space child) = some j := hkey ▸ hj
  refine ⟨live, Store.get_eq_ok_some.mpr ⟨j, hkept, hread⟩, ?_⟩
  exact (Child.drifted_congr halike.symm (Child.Alike.refl _ live)).trans hsettled

/-- Once the children of a plan are applied, where they could be read and were of their kind, none
has drifted. -/
theorem Surroundings.ensure_settled {u : Surroundings} {domain : String} {d : Declaration}
    {p : Plan} {scene : Scene} (spares : u.Spares (Key.IsChildOf p.space p.name))
    (hplan : Plan.ofDeclaration d domain = .ok p) (fit : scene.store.ChildrenFit p.space p.name)
    (applied : (u.pass (ensure domain d) scene).1.isOk = true) :
    (u.pass (ensure domain d) scene).2.store.Settled p := by
  rw [ensure_of_plan hplan] at applied ⊢
  intro child hchild
  have hattempted := applyAll_attempted spares (fun _ => Plan.childKey_isChildOf)
    p.nodup_childKeys scene child hchild
  rw [applied] at hattempted
  obtain ⟨j, live, hj, hread, hsettled⟩ := hattempted.settles.read (Plan.proper_children hchild)
  refine ⟨live, Store.get_eq_ok_some.mpr ⟨j, hj, hread⟩, ?_⟩
  rcases hsettled with hsettled | ⟨old, oldLive, hold, hread, hdiffers⟩
  · exact hsettled
  · obtain ⟨found, hfound, hfits⟩ := fit child.1 _ old (Plan.childKey_isChildOf hchild) hold
    obtain rfl := Except.ok.inj (hread.symm.trans hfound)
    cases ((Plan.fits_children hchild).addressDiffers hfits).symm.trans hdiffers

end ClusterOperator
