import Mathlib.Data.List.Nodup
import ClusterOperator.Proofs.Children.Resemblance
import ClusterOperator.Proofs.Passes.History

/-!
# Children of a deployment that is edited

The declared state of a deployment is edited again and again, and its children are applied each
time. What is stored then stems from one of the declared states, child by child, and has not drifted
from the last one. So it is what the last state alone would have left, except for the variables and
the probes of the servers: a member that an earlier state declared inside of one and the last state
leaves out looks like one that the API server filled in, and stays.

## Main definitions

* `ensureEach`: the children of one declared state after the other.
* `Store.StemsFrom`: every stored child was written for one of some declared states.

## Main results

* `Surroundings.Calm.ensure_stemsFrom`: what the children of one more state leave.
* `Surroundings.Calm.ensureEach_resembles`: what the children of a sequence of states leave.
-/

namespace ClusterOperator

open Kubernetes
open Document (reread)

/-- Applies the children of one declared state of a deployment after the other. -/
def ensureEach (domain : String) (d : Declaration) : List Spec → Pass Unit
  | [] => pure ()
  | t :: rest => do
    let _ ← ensure domain { d with spec := t }
    ensureEach domain d rest

/-! ### Children and the states they stem from -/

/-- A child under a name that was written for one of some declared states. -/
def Child.StemsFrom (domain : String) (d : Declaration) (specs : List Spec) (c : Child)
    (childName : String) (live : c.Object) : Prop :=
  ∃ t ∈ specs, ∃ p want, Plan.ofDeclaration { d with spec := t } domain = .ok p ∧
    (⟨c, want⟩ : (c : Child) × c.Object) ∈ p.children ∧
    (c.kind.metadata want).displayName = childName ∧ c.Alike live (reread want)

/-- Every stored child of a deployment can be read and was written for one of some declared
states. -/
def Store.StemsFrom (domain : String) (d : Declaration) (specs : List Spec) (space name : String)
    (s : Store) : Prop :=
  ∀ (c : Child) (childName : String) (j : Json),
    Key.IsChildOf space name ⟨c.kind, space, childName⟩ →
      s.get? ⟨c.kind, space, childName⟩ = some j →
        ∃ live, Document.read c.Object j = .ok live ∧ c.StemsFrom domain d specs childName live

namespace Child

variable {c : Child} {want : c.Object} {domain space name childName : String} {d : Declaration}
  {specs : List Spec} {t : Spec} {p : Plan}

theorem StemsFrom.append {live : c.Object} (h : c.StemsFrom domain d specs childName live)
    (more : List Spec) : c.StemsFrom domain d (specs ++ more) childName live := by
  obtain ⟨t, ht, hplan⟩ := h
  exact ⟨t, List.mem_append_left _ ht, hplan⟩

/-- A service does not change with the declared state. -/
theorem StemsFrom.service_settled (named : d.IsNamed space name) {want live : Service}
    (hplan : Plan.ofDeclaration { d with spec := t } domain = .ok p)
    (hchild : (⟨.service, want⟩ : (c : Child) × c.Object) ∈ p.children)
    (h : Child.service.StemsFrom domain d specs want.metadata.displayName live) :
    Child.service.drifted want live = false := by
  obtain ⟨t', -, q, old, hq, hold, hname, halike⟩ := h
  have hpname := ((named.withSpec t).plan_eq hplan).2
  have hqname := ((named.withSpec t').plan_eq hq).2
  have hspec := Plan.service_spec_eq (hpname.trans hqname.symm) hchild hold hname.symm
  have hlive : Service.spec live = Service.spec old := Eq.trans halike (Service.spec_reread old)
  exact not_drifted (Plan.proper_children hchild) (hspec.trans hlive.symm)

/-- What is settled was written for the new state, or is as it was. -/
theorem Settles.stemsFrom {before after : Option Json} (h : c.Settles want before after)
    (hplan : Plan.ofDeclaration { d with spec := t } domain = .ok p)
    (hchild : (⟨c, want⟩ : (c : Child) × c.Object) ∈ p.children)
    (hname : (c.kind.metadata want).displayName = childName)
    (hbefore : ∀ j, before = some j → ∃ live, Document.read c.Object j = .ok live ∧
      c.StemsFrom domain d specs childName live)
    (hservice : c = .service → ∀ live, c.StemsFrom domain d specs childName live →
      c.drifted want live = false) :
    ∀ j, after = some j → ∃ live, Document.read c.Object j = .ok live ∧
      c.StemsFrom domain d (specs ++ [t]) childName live := by
  have hlast : t ∈ specs ++ [t] := List.mem_append_right _ List.mem_cons_self
  rintro j rfl
  cases h with
  | created version =>
    exact ⟨_, Document.read_write c.wellFormed _, t, hlast, p, want, hplan, hchild, hname,
      (alike_withVersion c version want).reread⟩
  | @updated old live version hread hdrifted =>
    have hne : c ≠ .service := fun heq => by
      obtain ⟨found, hfound, hstems⟩ := hbefore old rfl
      obtain rfl := Except.ok.inj (hread.symm.trans hfound)
      cases (hservice heq live hstems).symm.trans hdrifted
    have halike := (alike_withVersion c version (c.adopt want live)).trans
      (alike_adopt hne want live).symm
    exact ⟨_, Document.read_write c.wellFormed _, t, hlast, p, want, hplan, hchild, hname,
      halike.reread⟩
  | @unchanged j live hread hsettled =>
    obtain ⟨found, hfound, hstems⟩ := hbefore j rfl
    exact ⟨found, hfound, hstems.append [t]⟩

end Child

namespace Store.StemsFrom

variable {domain space name : String} {d : Declaration} {specs : List Spec} {s : Store}

theorem of_childless (specs : List Spec) (h : ∀ key, key.IsChildOf space name → s.get? key = none) :
    s.StemsFrom domain d specs space name :=
  fun _ _ _ hkey hj => nomatch (h _ hkey).symm.trans hj

/-- What was written for some declared states is of its kind. -/
theorem childrenFit (named : d.IsNamed space name) (h : s.StemsFrom domain d specs space name) :
    s.ChildrenFit space name := by
  intro c childName j hkey hj
  obtain ⟨live, hread, t, -, p, want, hplan, hchild, rfl, halike⟩ := h c childName j hkey hj
  obtain ⟨-, rfl⟩ := (named.withSpec t).plan_eq hplan
  exact ⟨live, hread, (Plan.fits_children hchild).reread.of_alike halike.symm⟩

/-- A child that is found stems from the states that all children stem from. -/
theorem of_get {p : Plan} (h : s.StemsFrom domain d specs p.space p.name)
    {child : (c : Child) × c.Object} (hchild : child ∈ p.children) {live : child.1.Object}
    (hlive : s.get child.1.kind p.space (child.1.kind.metadata child.2).displayName =
      .ok (some live)) :
    child.1.StemsFrom domain d specs (child.1.kind.metadata child.2).displayName live := by
  obtain ⟨j, hj, hread⟩ := Store.get_eq_ok_some.mp hlive
  obtain ⟨found, hfound, hstems⟩ := h child.1 _ j (Plan.childKey_isChildOf hchild) hj
  obtain rfl := Except.ok.inj (hread.symm.trans hfound)
  exact hstems

end Store.StemsFrom

/-- A child that stems from a single state is alike the child of its plan. -/
theorem Child.StemsFrom.alike {domain : String} {d : Declaration} {t : Spec} {p : Plan}
    (hplan : Plan.ofDeclaration { d with spec := t } domain = .ok p) {c : Child} {want : c.Object}
    (hchild : (⟨c, want⟩ : (c : Child) × c.Object) ∈ p.children) {live : c.Object}
    (h : c.StemsFrom domain d [t] (c.kind.metadata want).displayName live) :
    c.Alike live (reread want) := by
  obtain ⟨t', ht', q, old, hq, hold, hname, halike⟩ := h
  obtain rfl := List.mem_singleton.mp ht'
  obtain rfl := Except.ok.inj (hplan.symm.trans hq)
  have hkey : childKey p.space ⟨c, old⟩ = childKey p.space ⟨c, want⟩ :=
    congrArg (fun name => (⟨c.kind, p.space, name⟩ : Key)) hname
  cases List.inj_on_of_nodup_map p.nodup_childKeys hold hchild hkey
  exact halike

/-! ### Sequences of states -/

namespace Surroundings.Calm

variable {u : Surroundings} {domain space name : String} {d : Declaration} {specs : List Spec}
  {t : Spec} {p : Plan} {scene : Scene}

/-- After the children of one more state, what is stored stems from it or from a state before it,
and has not drifted from it. -/
theorem ensure_stemsFrom (calm : u.Calm) (scene : Scene) (named : d.IsNamed space name)
    (hplan : Plan.ofDeclaration { d with spec := t } domain = .ok p) (tidy : scene.store.Tidy)
    (stems : scene.store.StemsFrom domain d specs space name) :
    ∃ applied left, u.pass (ensure domain { d with spec := t }) scene = (.ok applied, left) ∧
      left.store.Tidy ∧ left.store.StemsFrom domain d (specs ++ [t]) space name ∧
      left.store.Settled p := by
  obtain ⟨rfl, rfl⟩ := (named.withSpec t).plan_eq hplan
  have hok : (u.pass (ensure domain { d with spec := t }) scene).1.isOk = true := by
    rw [ensure_of_plan hplan]
    refine calm.applyAll_ok p.nodup_childKeys tidy fun child hchild => ?_
    cases hfound : scene.store.get? (childKey p.space child) with
    | none => exact ⟨none, Store.get_eq_ok_none.mpr hfound⟩
    | some j =>
      obtain ⟨live, hread, -⟩ := stems child.1 _ j (Plan.childKey_isChildOf hchild) hfound
      exact ⟨some live, Store.get_eq_ok_some.mpr ⟨j, hfound, hread⟩⟩
  have hsettled := ensure_settled (calm.spares _) hplan (stems.childrenFit named) hok
  have hattempted := fun (c : Child) (childName : String) =>
    ensure_attempted (calm.spares _) hplan scene c childName
  have htidy := run_tidy calm.keepsTidy (ensure domain { d with spec := t }).run tidy
  rcases hensure : u.pass (ensure domain { d with spec := t }) scene with ⟨stop | applied, left⟩
  · rw [hensure] at hok
    cases hok
  rw [hensure] at hsettled hattempted
  refine ⟨applied, left, rfl, (congrArg (·.2.store) hensure) ▸ htidy, ?_, hsettled⟩
  intro c childName j hkey hj
  rcases hattempted c childName hkey with hkept | ⟨want, hmem, rfl, hsettles⟩
  · obtain ⟨live, hread, hstems⟩ := stems c childName j hkey (hkept.symm.trans hj)
    exact ⟨live, hread, hstems.append [t]⟩
  · refine hsettles.stemsFrom hplan hmem rfl (fun j hj => stems c _ j hkey hj)
      (fun heq live hstems => ?_) j hj
    subst heq
    exact hstems.service_settled named hplan hmem

/-- After the children of a sequence of states, what is stored stems from one of them. -/
theorem ensureEach_stemsFrom (calm : u.Calm) (scene : Scene) (named : d.IsNamed space name)
    {more : List Spec}
    (accepted : ∀ t ∈ more, ∃ p, Plan.ofDeclaration { d with spec := t } domain = .ok p)
    (tidy : scene.store.Tidy) (stems : scene.store.StemsFrom domain d specs space name) :
    ∃ left, u.pass (ensureEach domain d more) scene = (.ok (), left) ∧ left.store.Tidy ∧
      left.store.StemsFrom domain d (specs ++ more) space name := by
  induction more generalizing scene specs with
  | nil => exact ⟨scene, rfl, tidy, (List.append_nil specs).symm ▸ stems⟩
  | cons t rest ih =>
    obtain ⟨⟨p, hplan⟩, haccepted⟩ := List.forall_mem_cons.mp accepted
    obtain ⟨applied, middle, hensure, hmiddle, hstems, -⟩ :=
      calm.ensure_stemsFrom scene named hplan tidy stems
    obtain ⟨left, hrest, hleft, hall⟩ := ih middle haccepted hmiddle hstems
    refine ⟨left, ?_, hleft, List.append_cons specs t rest ▸ hall⟩
    rw [ensureEach, u.pass_bind_of_ok hensure, hrest]

theorem pass_ensureEach_append {earlier more : List Spec} {left : Scene}
    (h : u.pass (ensureEach domain d earlier) scene = (.ok (), left)) :
    u.pass (ensureEach domain d (earlier ++ more)) scene =
      u.pass (ensureEach domain d more) left := by
  induction earlier generalizing scene with
  | nil =>
    cases h
    rfl
  | cons t rest ih =>
    rw [ensureEach, pass_bind] at h
    rw [List.cons_append, ensureEach, pass_bind]
    rcases hensure : u.pass (ensure domain { d with spec := t }) scene with ⟨stop | applied, middle⟩
    · rw [hensure] at h
      cases h
    · rw [hensure] at h
      exact ih h

/-- The children of a sequence of states, where there were none to begin with: each of them
resembles the one that the last state alone leaves, and the server of the workload is that of one
of the states. -/
theorem ensureEach_resembles (calm : u.Calm) (domain : String) (named : d.IsNamed space name)
    {s : Store} (tidy : s.Tidy) (childless : ∀ key, key.IsChildOf space name → s.get? key = none)
    (earlier : List Spec) (last : Spec) (accepted : ∀ t ∈ earlier ++ [last],
      ∃ p, Plan.ofDeclaration { d with spec := t } domain = .ok p) :
    ∃ p left applied alone,
      Plan.ofDeclaration { d with spec := last } domain = .ok p ∧
      u.pass (ensureEach domain d (earlier ++ [last])) ⟨s, []⟩ = (.ok (), left) ∧
      u.pass (ensure domain { d with spec := last }) ⟨{}, []⟩ = (.ok applied, alone) ∧
      (∀ child ∈ p.children, ∃ stored fresh,
        left.store.get child.1.kind space (child.1.kind.metadata child.2).displayName =
          .ok (some stored) ∧
        alone.store.get child.1.kind space (child.1.kind.metadata child.2).displayName =
          .ok (some fresh) ∧
        child.1.Resembles stored fresh) ∧
      ∃ t ∈ earlier ++ [last], ∃ q stored,
        Plan.ofDeclaration { d with spec := t } domain = .ok q ∧
        left.store.get .statefulSet space name = .ok (some stored) ∧
        StatefulSet.container? stored = some (reread q.container) := by
  obtain ⟨p, hplan⟩ := accepted last (List.mem_append_right _ List.mem_cons_self)
  obtain ⟨rfl, rfl⟩ := (named.withSpec last).plan_eq hplan
  obtain ⟨middle, hearlier, hmiddle, hstems⟩ := calm.ensureEach_stemsFrom ⟨s, []⟩
    named (fun t ht => accepted t (List.mem_append_left _ ht)) tidy
    (Store.StemsFrom.of_childless [] childless)
  obtain ⟨_, left, hlast, -, hleft, hsettled⟩ :=
    calm.ensure_stemsFrom middle named hplan hmiddle hstems
  obtain ⟨applied, alone, halone, -, hfresh, haloneSettled⟩ :=
    calm.ensure_stemsFrom ⟨{}, []⟩ named hplan Store.tidy_empty
      (Store.StemsFrom.of_childless [] fun _ _ => rfl)
  refine ⟨p, left, applied, alone, hplan, ?_, halone, fun child hchild => ?_, ?_⟩
  · rw [pass_ensureEach_append hearlier, ensureEach, u.pass_bind_of_ok hlast]
    rfl
  · obtain ⟨stored, hstored, hdrifted⟩ := hsettled child hchild
    obtain ⟨fresh, hfound, -⟩ := haloneSettled child hchild
    obtain ⟨t, -, q, old, hq, hold, hname, halike⟩ := hleft.of_get hchild hstored
    have hqname := ((named.withSpec t).plan_eq hq).2
    exact ⟨stored, fresh, hstored, hfound, Plan.resembles_of_not_drifted hqname.symm hchild hold
      hname.symm halike ((hfresh.of_get hchild hfound).alike hplan hchild) hdrifted⟩
  · have hchild : (⟨.statefulSet, p.statefulSet⟩ : (c : Child) × c.Object) ∈ p.children :=
      List.mem_cons_of_mem _ List.mem_cons_self
    obtain ⟨stored, hstored, -⟩ := hsettled _ hchild
    obtain ⟨t, ht, q, old, hq, hold, -, -, hpod⟩ := hleft.of_get hchild hstored
    obtain rfl : old = q.statefulSet := by
      rcases Plan.mem_children hold with h | h | h | ⟨-, h⟩ <;> cases h
      rfl
    exact ⟨t, ht, q, stored, hq, hstored, Plan.container?_of_alike hpod⟩

end Surroundings.Calm

/-! ### A probe that loses a member -/

namespace Declaration

/-- A declaration whose state is edited. -/
def editedSample : Declaration where
  metadata := { name := some "nc", space := some "default" }

/-- A state with a probe, which may say how often it is made. -/
def probedSpec (period : Option Signed32) : Spec where
  type := "standalone"
  image := "nacos/nacos-server:v2"
  database := { type := "embedded" }
  livenessProbe := some
    { val := (none, none, none, none, some ⟨10, by decide⟩, period, none, none, none, none, ()) }

/-- The states: the probe is made every five seconds, then as often as is usual. -/
def periodDropped : List Spec := [probedSpec (some ⟨5, by decide⟩), probedSpec none]

theorem periodDropped_accepted : ∀ t ∈ periodDropped,
    ∃ p, Plan.ofDeclaration { editedSample with spec := t } "cluster.local" = .ok p := by
  have hok : ∀ t ∈ periodDropped,
      (Plan.ofDeclaration { editedSample with spec := t } "cluster.local").isOk = true := by
    decide
  intro t ht
  cases hplan : Plan.ofDeclaration { editedSample with spec := t } "cluster.local" with
  | error e =>
    have hfailed := hok t ht
    rw [hplan] at hfailed
    cases hfailed
  | ok p => exact ⟨p, rfl⟩

/-- The probe of the server that is stored once children are applied. -/
def storedProbe {α : Type} (ended : Except Stop α × Scene) : Option (Option Probe) := do
  let _ ← ended.1.toOption
  let workload ← (ended.2.store.get .statefulSet "default" "nc").toOption.join
  return (← StatefulSet.container? workload).livenessProbe

/-- How often a probe is made. -/
def periodOf (p : Probe) : Option Signed32 :=
  let (_, _, _, _, _, period, _) := p.val
  period

end Declaration

open Declaration in
theorem periodDropped_resembles : ∃ stored fresh : StatefulSet,
    (Surroundings.well.pass (ensureEach "cluster.local" editedSample periodDropped)
      ⟨{}, []⟩).2.store.get .statefulSet "default" "nc" = .ok (some stored) ∧
    (Surroundings.well.pass (ensure "cluster.local" { editedSample with spec := probedSpec none })
      ⟨{}, []⟩).2.store.get .statefulSet "default" "nc" = .ok (some fresh) ∧
    stored.Resembles fresh := by
  have hnamed : editedSample.IsNamed "default" "nc" := ⟨rfl, rfl⟩
  obtain ⟨p, left, applied, alone, hplan, hleft, halone, hchildren, -⟩ :=
    Surroundings.calm_well.ensureEach_resembles "cluster.local" hnamed Store.tidy_empty
      (fun _ _ => rfl) [probedSpec (some ⟨5, by decide⟩)] (probedSpec none) periodDropped_accepted
  have hname : p.name = "nc" := ((hnamed.withSpec _).plan_eq hplan).2
  obtain ⟨stored, fresh, hstored, hfresh, hresembles⟩ :=
    hchildren ⟨.statefulSet, p.statefulSet⟩ (List.mem_cons_of_mem _ List.mem_cons_self)
  have hstored : left.store.get .statefulSet "default" p.name = .ok (some stored) := hstored
  have hfresh : alone.store.get .statefulSet "default" p.name = .ok (some fresh) := hfresh
  rw [hname] at hstored hfresh
  have hleft : Surroundings.well.pass (ensureEach "cluster.local" editedSample periodDropped)
      ⟨{}, []⟩ = (.ok (), left) := hleft
  rw [hleft, halone]
  exact ⟨stored, fresh, hstored, hfresh, hresembles⟩

open Declaration in
/-- What a state leaves out of a probe may stay from an earlier state. -/
theorem periodDropped_stays :
    let left := storedProbe (Surroundings.well.pass
      (ensureEach "cluster.local" editedSample periodDropped) ⟨{}, []⟩)
    let alone := storedProbe (Surroundings.well.pass
      (ensure "cluster.local" { editedSample with spec := probedSpec none }) ⟨{}, []⟩)
    left.map (·.bind periodOf) = some (some ⟨5, by decide⟩) ∧
      alone.map (·.bind periodOf) = some none ∧ left ≠ alone := by
  intro left alone
  have hleft : left.map (·.bind periodOf) = some (some ⟨5, by decide⟩) := by decide +kernel
  have halone : alone.map (·.bind periodOf) = some none := by decide +kernel
  refine ⟨hleft, halone, fun heq => ?_⟩
  cases hleft.symm.trans ((congrArg _ heq).trans halone)

end ClusterOperator
