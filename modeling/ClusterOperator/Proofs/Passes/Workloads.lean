import ClusterOperator.Proofs.Children.Workloads
import ClusterOperator.Proofs.Passes.Edits
import ClusterOperator.Proofs.Surroundings.Failures

/-!
# Workloads under edits

The children of a deployment are applied again and again, its declared state being edited in
between. Requests may fail at any point, and other clients may write anything but the children. What
is stored as the workload was then created for one of the plans that were tried, and written last
for one of them.

This is not always what its pods need, nor what the API server lets through: a state that begins to
keep data mounts a claim that the stored workload does not have, and a change of the mode asks for
another governing service, which is fixed once the workload exists.

## Main definitions

* `Attempt`: a try to apply the children of a plan.
* `Store.LeftBy`: the stores that tries can leave behind.
* `Attempt.Made`: what tries make of the stored workload.

## Main results

* `Store.LeftBy.workload_selfContained`: when the mounts of the stored workload are backed.
* `Store.LeftBy.update_keeps`: what an update of the workload leaves as it is stored.
-/

namespace ClusterOperator

open Kubernetes
open Document (reread)

/-- A try to apply the children of a plan, and whether it came to its end. -/
structure Attempt where
  plan : Plan
  ended : Bool

/-- The stores that tries to apply the children of a deployment can leave behind if they are the
only writers of its children, with these tries, the last one first. To begin with there are no
children. -/
inductive Store.LeftBy (space name : String) : List Attempt → Store → Prop
  | start {s : Store} (childless : ∀ key, key.IsChildOf space name → s.get? key = none) :
      LeftBy space name [] s
  | attempt {tries : List Attempt} {s : Store} (before : LeftBy space name tries s)
      {d : Declaration} (named : d.IsNamed space name) {domain : String} {p : Plan}
      (plan : Plan.ofDeclaration d domain = .ok p) (u : Surroundings)
      (spares : u.Spares (Key.IsChildOf space name)) :
      LeftBy space name (⟨p, (u.pass (ensure domain d) ⟨s, []⟩).1.isOk⟩ :: tries)
        (u.pass (ensure domain d) ⟨s, []⟩).2.store

namespace Attempt

/-- What tries make of the stored workload. There is none, and no try has come to its end; or it was
created for the plan of one of them and written last for that of another one. The first try created
it if it came to its end, and the last try has settled it if that came to its end. -/
inductive Made (tries : List Attempt) : Option Json → Prop
  | nothing (unended : ∀ a ∈ tries, a.ended = false) : Made tries none
  | workload {j : Json} {live : StatefulSet} (read : Document.read StatefulSet j = .ok live)
      {created written : Attempt} (hcreated : created ∈ tries) (hwritten : written ∈ tries)
      (made : live.MadeOf created.plan written.plan)
      (first : ∀ a, tries.getLast? = some a → a.ended = true → created = a)
      (last : ∀ a, tries.head? = some a → a.ended = true →
        a.plan.keepsData = written.plan.keepsData ∧ a.plan.mode = written.plan.mode) :
      Made tries (some j)

variable {tries : List Attempt} {p : Plan} {before after : Option Json} {ended : Bool}

theorem getLast?_cons_of_mem {a b : Attempt} (h : b ∈ tries) :
    (a :: tries).getLast? = tries.getLast? := by
  cases tries with
  | nil => cases h
  | cons c rest => rfl

/-- A try that did not come to its end and left the workload alone does not matter. -/
theorem Made.failed (h : Made tries before) (p : Plan) : Made (⟨p, false⟩ :: tries) before := by
  cases h with
  | nothing unended => exact .nothing (List.forall_mem_cons.mpr ⟨rfl, unended⟩)
  | workload read hcreated hwritten made first last =>
    refine .workload read (List.mem_cons_of_mem _ hcreated) (List.mem_cons_of_mem _ hwritten) made
      (fun a ha hended => ?_) (fun a ha hended => ?_)
    · exact first a ((getLast?_cons_of_mem hcreated).symm.trans ha) hended
    · cases ha
      cases hended

/-- A try that settled the workload created it, wrote it, or found it as it should be. -/
theorem Made.settled (h : Made tries before) (named : ∀ a ∈ tries, a.plan.name = p.name)
    (settles : Child.statefulSet.Settles p.statefulSet before after) (ended : Bool) :
    Made (⟨p, ended⟩ :: tries) after := by
  cases settles with
  | created version =>
    cases h with
    | nothing unended =>
      refine .workload (Document.read_write Child.statefulSet.wellFormed _) List.mem_cons_self
        List.mem_cons_self (.created p version) (fun a ha hended => ?_) (fun a ha _ => ?_)
      · rcases List.mem_cons.mp (List.mem_of_getLast? ha) with rfl | hmem
        · rfl
        · cases (unended a hmem).symm.trans hended
      · cases ha
        exact ⟨rfl, rfl⟩
  | @updated j live version hread hdrifted =>
    cases h with
    | @workload _ found read created written hcreated hwritten made first last =>
      obtain rfl := Except.ok.inj (read.symm.trans hread)
      refine .workload (Document.read_write Child.statefulSet.wellFormed _)
        (List.mem_cons_of_mem _ hcreated) List.mem_cons_self
        (made.updated (named _ hcreated).symm version) (fun a ha hended => ?_) (fun a ha _ => ?_)
      · exact first a ((getLast?_cons_of_mem hcreated).symm.trans ha) hended
      · cases ha
        exact ⟨rfl, rfl⟩
  | @unchanged j live hread hsettled =>
    cases h with
    | @workload _ found read created written hcreated hwritten made first last =>
      obtain rfl := Except.ok.inj (read.symm.trans hread)
      refine .workload read (List.mem_cons_of_mem _ hcreated) (List.mem_cons_of_mem _ hwritten) made
        (fun a ha hended => ?_) (fun a ha _ => ?_)
      · exact first a ((getLast?_cons_of_mem hcreated).symm.trans ha) hended
      · cases ha
        exact made.settled hsettled

end Attempt

namespace Store.LeftBy

variable {space name : String} {tries : List Attempt} {s : Store}

theorem named (h : LeftBy space name tries s) : ∀ a ∈ tries, a.plan.name = name := by
  induction h with
  | start childless => exact fun a ha => absurd ha List.not_mem_nil
  | attempt before named plan u spares ih =>
    exact List.forall_mem_cons.mpr ⟨(named.plan_eq plan).2, ih⟩

/-- One more try makes something of the workload. -/
theorem made_ensure {d : Declaration} {domain : String} {p : Plan} (h : LeftBy space name tries s)
    (made : Attempt.Made tries (s.get? ⟨.statefulSet, space, name⟩)) (named : d.IsNamed space name)
    (plan : Plan.ofDeclaration d domain = .ok p) {u : Surroundings}
    (spares : u.Spares (Key.IsChildOf space name)) :
    Attempt.Made (⟨p, (u.pass (ensure domain d) ⟨s, []⟩).1.isOk⟩ :: tries)
      ((u.pass (ensure domain d) ⟨s, []⟩).2.store.get? ⟨.statefulSet, space, name⟩) := by
  obtain ⟨rfl, rfl⟩ := named.plan_eq plan
  have hchild : (⟨.statefulSet, p.statefulSet⟩ : (c : Child) × c.Object) ∈ p.children :=
    List.mem_cons_of_mem _ List.mem_cons_self
  have hattempted := Surroundings.applyAll_attempted spares (fun _ => Plan.childKey_isChildOf)
    p.nodup_childKeys ⟨s, []⟩ _ hchild
  rw [← ensure_of_plan plan] at hattempted
  rcases hattempted with ⟨hkept, hended⟩ | hsettles
  · have hkept : (u.pass (ensure domain d) ⟨s, []⟩).2.store.get? ⟨.statefulSet, p.space, p.name⟩ =
        s.get? ⟨.statefulSet, p.space, p.name⟩ := hkept
    rw [hkept, hended]
    exact made.failed p
  · exact made.settled h.named hsettles _

/-- Tries make something of the workload. -/
theorem made (h : LeftBy space name tries s) :
    Attempt.Made tries (s.get? ⟨.statefulSet, space, name⟩) := by
  induction h with
  | start childless =>
    rw [childless _ (.inr (.inl rfl))]
    exact .nothing fun a ha => absurd ha List.not_mem_nil
  | attempt before named plan u spares ih => exact before.made_ensure ih named plan spares

/-- Whatever tries leave behind can be read. -/
theorem childrenFit (h : LeftBy space name tries s) : s.ChildrenFit space name := by
  induction h with
  | start childless => exact fun c childName j hkey hj => nomatch (childless _ hkey).symm.trans hj
  | attempt before named plan u spares ih => exact Surroundings.ensure_childrenFit _ spares named ih

/-- In calm surroundings a try comes to its end. -/
theorem ended {d : Declaration} {domain : String} {p : Plan} (h : LeftBy space name tries s)
    (tidy : s.Tidy) (named : d.IsNamed space name) (plan : Plan.ofDeclaration d domain = .ok p)
    {u : Surroundings} (calm : u.Calm) : (u.pass (ensure domain d) ⟨s, []⟩).1.isOk = true := by
  obtain ⟨rfl, rfl⟩ := named.plan_eq plan
  rw [ensure_of_plan plan]
  refine calm.applyAll_ok p.nodup_childKeys tidy fun child hchild => ?_
  cases hfound : s.get? (childKey p.space child) with
  | none => exact ⟨none, Store.get_eq_ok_none.mpr hfound⟩
  | some j =>
    obtain ⟨live, hread, -⟩ := h.childrenFit child.1 _ j (Plan.childKey_isChildOf hchild) hfound
    exact ⟨some live, Store.get_eq_ok_some.mpr ⟨j, hfound, hread⟩⟩

/-- The mounts of the stored workload are backed unless data is to be kept by the plan that was
written last and was not to be kept by the one for which the workload was created. These are the
plans of the last and the first try, if those came to their end. -/
theorem workload_selfContained (h : LeftBy space name tries s) :
    (s.get? ⟨.statefulSet, space, name⟩ = none ∧ ∀ a ∈ tries, a.ended = false) ∨
      ∃ live, s.get .statefulSet space name = .ok (some live) ∧
        ∃ created ∈ tries, ∃ written ∈ tries,
          (StatefulSet.SelfContained live ↔
            (written.plan.keepsData = true → created.plan.keepsData = true)) ∧
          (∀ a, tries.getLast? = some a → a.ended = true → created = a) ∧
          ∀ a, tries.head? = some a → a.ended = true →
            a.plan.keepsData = written.plan.keepsData := by
  have hmade := h.made
  cases hfound : s.get? ⟨.statefulSet, space, name⟩ with
  | none =>
    rw [hfound] at hmade
    cases hmade with
    | nothing unended => exact .inl ⟨rfl, unended⟩
  | some j =>
    rw [hfound] at hmade
    cases hmade with
    | @workload _ live read created written hcreated hwritten made first last =>
      exact .inr ⟨live, Store.get_eq_ok_some.mpr ⟨j, hfound, read⟩, created, hcreated, written,
        hwritten, made.selfContained_iff, first, fun a ha hended => (last a ha hended).1⟩

end Store.LeftBy

namespace Declaration

/-- A single server whose data is kept or not. -/
def storedSample (enabled : Bool) : Declaration :=
  { editedSample with spec := { probedSpec none with volume := { enabled } } }

/-- What is left once the server has been applied without storage. -/
def storelessLeft : Store :=
  (Surroundings.well.pass (ensure "cluster.local" (storedSample false)) ⟨{}, []⟩).2.store

theorem storelessLeft_leftBy : ∃ p,
    Plan.ofDeclaration (storedSample false) "cluster.local" = .ok p ∧
      Store.LeftBy "default" "nc" [⟨p, true⟩] storelessLeft := by
  obtain ⟨p, hplan⟩ : ∃ p, Plan.ofDeclaration (storedSample false) "cluster.local" = .ok p :=
    ⟨_, rfl⟩
  have hstart : Store.LeftBy "default" "nc" [] {} := .start fun _ _ => rfl
  have hended := hstart.ended Store.tidy_empty ⟨rfl, rfl⟩ hplan Surroundings.calm_well
  refine ⟨p, hplan, hended ▸ ?_⟩
  exact hstart.attempt ⟨rfl, rfl⟩ hplan _ (Surroundings.calm_well.spares _)

theorem storelessLeft_tidy : storelessLeft.Tidy :=
  Surroundings.run_tidy Surroundings.calm_well.keepsTidy _ Store.tidy_empty

/-- A server that begins to keep its data mounts a claim that is not there. -/
theorem storageAdded_dangles : ∃ live : StatefulSet,
    (Surroundings.well.pass (ensure "cluster.local" (storedSample true))
      ⟨storelessLeft, []⟩).2.store.get .statefulSet "default" "nc" = .ok (some live) ∧
    ¬ live.SelfContained := by
  obtain ⟨p, hp, hfirst⟩ := storelessLeft_leftBy
  obtain ⟨q, hq⟩ : ∃ q, Plan.ofDeclaration (storedSample true) "cluster.local" = .ok q := ⟨_, rfl⟩
  have hended := hfirst.ended storelessLeft_tidy ⟨rfl, rfl⟩ hq Surroundings.calm_well
  have hsecond := hfirst.attempt ⟨rfl, rfl⟩ hq _ (Surroundings.calm_well.spares _)
  rw [hended] at hsecond
  rcases hsecond.workload_selfContained with
    ⟨-, hunended⟩ | ⟨live, hlive, created, -, written, -, hiff, hcreated, hwritten⟩
  · cases hunended _ List.mem_cons_self
  · have hcreated : created = ⟨p, true⟩ := hcreated _ rfl rfl
    have hwritten : q.keepsData = written.plan.keepsData := hwritten _ rfl rfl
    have hp : p.keepsData = false := by
      rw [Plan.keepsData, (Plan.ofDeclaration_eq_ok hp).1]
      rfl
    have hq : q.keepsData = true := by
      rw [Plan.keepsData, (Plan.ofDeclaration_eq_ok hq).1]
      rfl
    rw [hcreated, ← hwritten, hp, hq] at hiff
    exact ⟨live, hlive, fun hself => Bool.false_ne_true (hiff.mp hself rfl)⟩

end Declaration

/-! ### Updates that are asked for -/

namespace Surroundings

variable {u : Surroundings} {keys : Key → Prop} {space : String} {scene m : Scene}

/-- What is done after a request is done with its answer. -/
theorem mem_steps_request_bind {β : Type} {r : Request} {f : r.Result → Pass β}
    {step : Call × Scene} (h : step ∈ u.steps (Pass.request r >>= f).run scene) :
    step = (.request r, scene) ∨ ∃ a, (u.answer r scene).1 = .ok a ∧
      step ∈ u.steps (f a).run (u.requested r scene) := by
  rw [steps_pass_bind, pass_request] at h
  rcases List.mem_append.mp h with h | h
  · exact .inl (List.mem_singleton.mp h)
  · cases hanswer : (u.answer r scene).1 with
    | error e =>
      rw [hanswer] at h
      cases h
    | ok a =>
      rw [hanswer] at h
      exact .inr ⟨a, rfl, h⟩

/-- A child is updated with what is adopted from the stored one that was found before. -/
theorem update_mem_steps_apply {c : Child} {want : c.Object} {k : Kind} {space' : String}
    {o : k.Object}
    (h : (.request (.update k space' o), m) ∈ u.steps (apply c space want).run scene) :
    ∃ live, (u.answer (childGet space ⟨c, want⟩) scene).1 = .ok (some live) ∧
      Request.update k space' o = .update c.kind space (c.adopt want live) ∧
      m = u.requested (childGet space ⟨c, want⟩) scene := by
  rcases mem_steps_request_bind (r := childGet space ⟨c, want⟩) h with heq | ⟨found, hfound, h⟩
  · cases heq
  cases found with
  | none =>
    rcases mem_steps_request_bind h with heq | ⟨_, -, h⟩
    · cases heq
    · cases h
  | some live =>
    cases hdrifted : c.drifted want live with
    | false =>
      simp only [hdrifted, Bool.false_eq_true, if_false] at h
      cases h
    | true =>
      simp only [hdrifted, if_true] at h
      rcases mem_steps_request_bind h with heq | ⟨_, -, h⟩
      · exact ⟨live, hfound, Call.request.inj (congrArg Prod.fst heq), congrArg Prod.snd heq⟩
      · cases h

/-- What is returned at the end is no step. -/
theorem mem_steps_bind_pure {α β : Type} {x : Pass α} {f : α → β} {step : Call × Scene}
    (h : step ∈ u.steps (do let a ← x; return f a : Pass β).run scene) :
    step ∈ u.steps x.run scene := by
  rw [steps_pass_bind] at h
  rcases List.mem_append.mp h with h | h
  · exact h
  · rcases hx : u.pass x scene with ⟨_ | a, left⟩ <;> rw [hx] at h <;> cases h

/-- Of several children, each is updated with what is adopted from the one that was stored before
and that is still stored then. -/
theorem update_mem_steps_applyAll (spares : u.Spares keys)
    {children : List ((c : Child) × c.Object)}
    (hkeys : ∀ child ∈ children, keys (childKey space child))
    (distinct : (children.map (childKey space)).Nodup) {k : Kind} {space' : String} {o : k.Object}
    (h : (.request (.update k space' o), m) ∈ u.steps (applyAll space children).run scene) :
    ∃ child ∈ children, ∃ live,
      Request.update k space' o = .update child.1.kind space (child.1.adopt child.2 live) ∧
      scene.store.get child.1.kind space (child.1.kind.metadata child.2).displayName =
        .ok (some live) ∧
      m.store.get? (childKey space child) = scene.store.get? (childKey space child) := by
  induction children generalizing scene with
  | nil => cases h
  | cons first rest ih =>
    obtain ⟨hfirst, hrest⟩ := List.forall_mem_cons.mp hkeys
    obtain ⟨hne, distinct⟩ := List.nodup_cons.mp distinct
    rw [applyAll, steps_pass_bind] at h
    rcases List.mem_append.mp h with h | h
    · obtain ⟨live, hanswer, hupdate, rfl⟩ := update_mem_steps_apply h
      exact ⟨first, List.mem_cons_self, live, hupdate, answer_get spares hfirst hanswer,
        answer_get? spares hfirst (.inl rfl) scene⟩
    · have hothers : ∀ child ∈ rest, (u.pass (apply first.1 space first.2) scene).2.store.get?
          (childKey space child) = scene.store.get? (childKey space child) := fun child hchild =>
        run_get? spares (hrest child hchild)
          (apply_spares fun heq => hne (heq ▸ List.mem_map_of_mem hchild)) scene
      rcases hresult : u.pass (apply first.1 space first.2) scene with ⟨stop | applied, middle⟩
      · rw [hresult] at h
        cases h
      · rw [hresult] at h hothers
        obtain ⟨child, hchild, live, hupdate, hlive, hkept⟩ :=
          ih hrest distinct (mem_steps_bind_pure h)
        exact ⟨child, List.mem_cons_of_mem _ hchild, live, hupdate,
          (Store.get_congr (hothers child hchild)).symm.trans hlive,
          hkept.trans (hothers child hchild)⟩

end Surroundings

/-- An update of the workload leaves the labels by which it is selected, the way in which its pods
are started and its claims as they are stored at that moment. It leaves the governing service
exactly if the mode is that of the plan that was written last, which is the mode of the last try if
that came to its end. -/
theorem Store.LeftBy.update_keeps {space name : String} {tries : List Attempt} {s : Store}
    (h : LeftBy space name tries s) {d : Declaration} {domain : String} {p : Plan}
    (named : d.IsNamed space name) (plan : Plan.ofDeclaration d domain = .ok p) {u : Surroundings}
    (spares : u.Spares (Key.IsChildOf space name)) {space' : String} {o : StatefulSet} {m : Scene}
    (asked : (.request (.update .statefulSet space' o), m) ∈
      u.steps (ensure domain d).run ⟨s, []⟩) :
    space' = space ∧ o.metadata.displayName = name ∧
      ∃ live : StatefulSet, m.store.get .statefulSet space name = .ok (some live) ∧
        o.selector? = live.selector? ∧ o.management? = live.management? ∧
        o.templates? = live.templates? ∧
        ∃ written ∈ tries, (o.governor? = live.governor? ↔ p.mode = written.plan.mode) ∧
          ∀ a, tries.head? = some a → a.ended = true → a.plan.mode = written.plan.mode := by
  obtain ⟨rfl, rfl⟩ := named.plan_eq plan
  rw [ensure_of_plan plan] at asked
  obtain ⟨⟨c, want⟩, hchild, live, hupdate, hlive, hkept⟩ :=
    Surroundings.update_mem_steps_applyAll spares (fun _ => Plan.childKey_isChildOf)
      p.nodup_childKeys asked
  have hkind : Child.statefulSet.kind = c.kind := congrArg Request.kind hupdate
  obtain rfl := Child.kind_injective hkind
  obtain rfl : want = p.statefulSet := by
    rcases Plan.mem_children hchild with h | h | h | ⟨-, h⟩ <;> cases h
    rfl
  cases hupdate
  obtain ⟨j, hj, hread⟩ := Store.get_eq_ok_some.mp hlive
  have hmade := h.made
  have hj : s.get? ⟨.statefulSet, p.space, p.name⟩ = some j := hj
  rw [hj] at hmade
  cases hmade with
  | @workload _ found read created written hcreated hwritten made first last =>
    obtain rfl := Except.ok.inj (read.symm.trans hread)
    have hsame : ∀ a ∈ tries, p.name = a.plan.name := fun a ha => (h.named a ha).symm
    obtain ⟨hselector, hmanagement, htemplates, hgovernor⟩ :=
      made.adopt_keeps (hsame _ hcreated) (hsame _ hwritten)
    exact ⟨rfl, Child.statefulSet.displayName_adopt p.statefulSet found, found,
      (Store.get_congr hkept).trans hlive, hselector, hmanagement, htemplates, written, hwritten,
      hgovernor, fun a ha hended => (last a ha hended).2⟩

namespace Declaration

/-- The single server grown into a cluster. -/
def grownSample : Declaration :=
  { editedSample with spec := { probedSpec none with type := "cluster" } }

/-- The calls by which the cluster is applied where the single server was. -/
def grownSteps : List (Call × Scene) :=
  Surroundings.well.steps (ensure "cluster.local" grownSample).run ⟨storelessLeft, []⟩

/-- Whether a call updates a workload. -/
def updatesWorkload : Call → Bool
  | .request (.update .statefulSet _ _) => true
  | _ => false

theorem grownSteps_update : ∃ space o m,
    (.request (.update .statefulSet space o), m) ∈ grownSteps := by
  have hany : (grownSteps.any fun step => updatesWorkload step.1) = true := by decide +kernel
  obtain ⟨⟨call, m⟩, hmem, hupdates⟩ := List.any_eq_true.mp hany
  unfold updatesWorkload at hupdates
  split at hupdates
  · next space o heq =>
    have heq : call = .request (.update .statefulSet space o) := heq
    exact ⟨space, o, m, heq ▸ hmem⟩
  · cases hupdates

/-- A single server that becomes a cluster asks for another governing service. -/
theorem grownSample_moves : ∃ space, ∃ o live : StatefulSet, ∃ m,
    (.request (.update .statefulSet space o), m) ∈ grownSteps ∧
      m.store.get .statefulSet "default" "nc" = .ok (some live) ∧
      o.selector? = live.selector? ∧ o.governor? ≠ live.governor? := by
  obtain ⟨p, hp, hfirst⟩ := storelessLeft_leftBy
  obtain ⟨q, hq⟩ : ∃ q, Plan.ofDeclaration grownSample "cluster.local" = .ok q := ⟨_, rfl⟩
  obtain ⟨space, o, m, hmem⟩ := grownSteps_update
  obtain ⟨-, -, live, hlive, hselector, -, -, written, -, hiff, hwritten⟩ :=
    hfirst.update_keeps ⟨rfl, rfl⟩ hq (Surroundings.calm_well.spares _) hmem
  refine ⟨space, o, live, m, hmem, hlive, hselector, fun hsame => ?_⟩
  have hmode : q.mode = p.mode := (hiff.mp hsame).trans (hwritten _ rfl rfl).symm
  have hp : p.mode = .standalone := Plan.mode_of_type hp rfl
  have hq : q.mode = .cluster := Plan.mode_of_type hq rfl
  cases hq.symm.trans (hmode.trans hp)

end Declaration

end ClusterOperator
