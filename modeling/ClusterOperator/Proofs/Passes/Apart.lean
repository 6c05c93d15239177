import ClusterOperator.Proofs.Passes.Candid
import ClusterOperator.Proofs.Passes.History
import ClusterOperator.Proofs.Passes.Outcome
import ClusterOperator.Proofs.Surroundings.Together

/-!
# Passes of different deployments

A pass looks at its own declaration, at its own children and at the pods, and writes only the first
two. Unless one of two deployments in a namespace is named like the headless service of the other
one, passes over them have nothing but the pods in common, and these they only read. So whatever the
order of their calls, each pass is as it would be alone: it makes the same calls, comes to the same
outcome, and leaves the same status and the same children, but for the versions of the children,
which count the writes of both.

## Main definitions

* `Key.IsSeenBy`: the keys that a pass looks at.
* `NamesApart`: deployments of different names that ask for no common service.
* `Store.SameDeployment`: two stores hold the same deployment.

## Main results

* `NamesApart.kind_eq_pod`: passes have only pods in common.
* `Surroundings.keepsTo_reconcile`: a pass keeps to what it looks at.
* `Surroundings.Calm.reconcile_apart`: passes of different deployments do not influence each other.
-/

namespace ClusterOperator

open Kubernetes

/-! ### What passes have in common -/

/-- The keys that a pass looks at: pods, its own declaration, and its own children. -/
def Key.IsSeenBy (space name : String) (key : Key) : Prop :=
  key.kind = .pod ∨ key = ⟨.declaration, space, name⟩ ∨ key.IsChildOf space name

/-- Deployments of different names or namespaces such that, in one namespace, neither is named like
the headless service of the other one. -/
structure NamesApart (space name space' name' : String) : Prop where
  different : (space, name) ≠ (space', name')
  headless : space = space' → name ≠ name' ++ "-headless" ∧ name' ≠ name ++ "-headless"

/-- Two stores hold the same deployment: its declaration with its status, and its children but for
their versions. -/
structure Store.SameDeployment (space name : String) (s t : Store) : Prop where
  declaration : s.get? ⟨.declaration, space, name⟩ = t.get? ⟨.declaration, space, name⟩
  children : ∀ key, key.IsChildOf space name →
    Option.Rel key.kind.SameButVersion (s.get? key) (t.get? key)

theorem Store.SameDeployment.of_agreesOn {space name : String} {s t : Store}
    (h : s.AgreesOn (Key.IsSeenBy space name) (Key.IsChildOf space name) t) :
    Store.SameDeployment space name s t where
  declaration := h.eq _ (.inr (.inl rfl)) fun hchild => hchild.kind_ne.1 rfl
  children key hkey := h.same key (.inr (.inr hkey))

namespace NamesApart

variable {space name space' name' : String} {key : Key}

/-- Such deployments have no key for a child in common. -/
theorem not_isChildOf (apart : NamesApart space name space' name')
    (h : key.IsChildOf space name) : ¬ key.IsChildOf space' name' := by
  have hsame : ∀ {k : Kind}, (⟨k, space, name⟩ : Key) ≠ ⟨k, space', name'⟩ := fun heq =>
    apart.different (Prod.ext (congrArg Key.space heq) (congrArg Key.name heq))
  rcases h with rfl | rfl | rfl | rfl
  · rintro (heq | heq | heq | heq)
    · exact hsame heq
    all_goals cases heq
  · rintro (heq | heq | heq | heq)
    · cases heq
    · exact hsame heq
    all_goals cases heq
  · rintro (heq | heq | heq | heq)
    · cases heq
    · cases heq
    · exact hsame heq
    · exact (apart.headless (congrArg Key.space heq)).1 (congrArg Key.name heq)
  · rintro (heq | heq | heq | heq)
    · cases heq
    · cases heq
    · exact (apart.headless (congrArg Key.space heq)).2 (congrArg Key.name heq).symm
    · exact apart.different (Prod.ext (congrArg Key.space heq)
        ((String.append_left_inj _).mp (congrArg Key.name heq)))

/-- Passes over such deployments have only pods in common. -/
theorem kind_eq_pod (apart : NamesApart space name space' name')
    (h : key.IsSeenBy space name) (h' : key.IsSeenBy space' name') : key.kind = .pod := by
  rcases h with hpod | rfl | hchild
  · exact hpod
  · rcases h' with hpod | heq | hchild
    · exact hpod
    · exact absurd (Prod.ext (congrArg Key.space heq) (congrArg Key.name heq)) apart.different
    · exact absurd rfl hchild.kind_ne.1
  · rcases h' with hpod | rfl | hchild'
    · exact hpod
    · exact absurd rfl hchild.kind_ne.1
    · exact absurd hchild' (apart.not_isChildOf hchild)

end NamesApart

namespace Surroundings

variable {u v : Surroundings} {mine written after : Key → Prop} {space name : String}
  {settings : Settings} {d : Declaration} {scene : Scene}

/-! ### Children -/

/-- Applying a child minds the document of the child. -/
theorem keepsTo_apply {c : Child} {want : c.Object} (hmine : mine (childKey space ⟨c, want⟩))
    (fresh : ¬ written (childKey space ⟨c, want⟩)) :
    u.KeepsTo mine (fun key => written key ∨ childKey space ⟨c, want⟩ = key) written
      (apply c space want).run scene := by
  refine KeepsTo.pass_read_bind (r := childGet space ⟨c, want⟩) rfl hmine
    (fun a b halike => ?_) (fun _ => .inl) fun found _ => ?_
  · rw [Except.ok.inj (halike.get_eq fresh)]
  · cases found with
    | none =>
      exact KeepsTo.pass_request_bind (r := .create c.kind space want) _
        ⟨hmine, fresh, c.kind_ne_pod⟩ (fun _ _ _ => rfl) (fun _ => .imp_right And.right)
        (fun _ => id) fun _ _ => .done fun _ => id
    | some live =>
      have hkey : (Request.update c.kind space (c.adopt want live)).key =
          childKey space ⟨c, want⟩ := c.keyOf_adopt space want live
      cases hdrifted : c.drifted want live with
      | false =>
        simp only [hdrifted, Bool.false_eq_true, if_false]
        exact .done fun _ => .inl
      | true =>
        simp only [hdrifted, if_true]
        exact KeepsTo.pass_request_bind (r := .update c.kind space (c.adopt want live)) _
          ⟨hkey ▸ hmine, hkey ▸ fresh, c.kind_ne_pod⟩ (fun _ _ _ => rfl)
          (fun _ => .imp_right fun hstamps => hkey ▸ hstamps.2) (fun _ => id)
          fun _ _ => .done fun _ => id

/-- Applying children minds their documents. -/
theorem keepsTo_applyAll {children : List ((c : Child) × c.Object)}
    (distinct : (children.map (childKey space)).Nodup)
    (hmine : ∀ child ∈ children, mine (childKey space child))
    (fresh : ∀ child ∈ children, ¬ written (childKey space child))
    (hafter : ∀ child ∈ children, after (childKey space child))
    (le : ∀ key, written key → after key) :
    u.KeepsTo mine after written (applyAll space children).run scene := by
  induction children generalizing written scene with
  | nil => exact .done le
  | cons child rest ih =>
    obtain ⟨hfirst, hmine⟩ := List.forall_mem_cons.mp hmine
    obtain ⟨freshFirst, fresh⟩ := List.forall_mem_cons.mp fresh
    obtain ⟨afterFirst, hafter⟩ := List.forall_mem_cons.mp hafter
    obtain ⟨hne, distinct⟩ := List.nodup_cons.mp distinct
    -- once the first child is applied its key counts as written, and the others are still fresh
    have hle : ∀ key, written key ∨ childKey space child = key → after key := fun key hkey =>
      hkey.elim (le key) fun heq => heq ▸ afterFirst
    refine KeepsTo.pass_bind (keepsTo_apply hfirst freshFirst) hle fun _ _ _ => ?_
    refine KeepsTo.pass_bind (ih distinct hmine (fun other hother => ?_) hafter hle)
      (fun _ => id) fun _ _ _ => .done fun _ => id
    rintro (hwritten | heq)
    · exact fresh other hother hwritten
    · exact hne (heq ▸ List.mem_map_of_mem hother)

/-- Applying the children of a deployment minds what its passes look at. -/
theorem keepsTo_ensure (named : d.IsNamed space name) (domain : String) :
    u.KeepsTo (Key.IsSeenBy space name) (Key.IsChildOf space name) (fun _ => False)
      (ensure domain d).run scene := by
  cases hplan : Plan.ofDeclaration d domain with
  | error e =>
    rw [ensure_of_error hplan]
    exact .done fun _ => False.elim
  | ok p =>
    obtain ⟨rfl, rfl⟩ := named.plan_eq hplan
    rw [ensure_of_plan hplan]
    exact keepsTo_applyAll p.nodup_childKeys
      (fun child hchild => .inr (.inr (Plan.childKey_isChildOf hchild))) (fun _ _ => id)
      (fun child hchild => Plan.childKey_isChildOf hchild) fun _ => False.elim

/-! ### The steps after the children -/

/-- Workloads that are got alike have the same specification. -/
theorem spec_eq_of_alike {a b : StatefulSet}
    (h : (Request.get .statefulSet space name).Alike written
      (.ok (some a) : Except Error (Option StatefulSet)) (.ok (some b))) : a.spec = b.spec := by
  cases h with
  | same => rfl
  | got before v w o =>
    have hspec : ∀ version,
        StatefulSet.spec (Document.reread (Kind.statefulSet.withVersion version o)) =
          (StatefulSet.spec o).map Document.reread := fun _ => StatefulSet.spec_reread _
    exact (hspec v).trans (hspec w).symm

/-- A step of a pass that minds what the pass looks at, when children may have been written and none
will be any more. -/
abbrev KeepsToOwn (u : Surroundings) (space name : String) {α : Type} (p : Program α)
    (scene : Scene) : Prop :=
  u.KeepsTo (Key.IsSeenBy space name) (Key.IsChildOf space name) (Key.IsChildOf space name) p scene

section Later

variable (named : d.IsNamed space name)

include named

/-- A check minds the workload and the pods; of the workload it looks at the specification only. -/
theorem keepsTo_check (limit : Nat) : u.KeepsToOwn space name (check limit d).run scene := by
  rw [check_eq, named.spaceOrEmpty, named.name]
  refine KeepsTo.pass_read_bind (r := .get .statefulSet space name) rfl
    (.inr (.inr (.inr (.inl rfl)))) (fun a b halike => ?_) (fun _ => id) fun found _ => ?_
  · -- the workload may have another version if this pass has written it, but the rest of the check
    -- goes by its specification
    rcases a with _ | a <;> rcases b with _ | b
    · rfl
    · cases halike
    · cases halike
    · have hspec := spec_eq_of_alike halike
      have hreplicas : StatefulSet.replicas? a = StatefulSet.replicas? b :=
        congrArg (·.bind (·.replicas)) hspec
      have hselector : StatefulSet.podSelector a = StatefulSet.podSelector b := by
        rw [StatefulSet.podSelector, hspec, StatefulSet.podSelector]
      simp only
      rw [hreplicas, hselector]
  · cases found with
    | none => exact .done fun _ => id
    | some workload =>
      simp only
      split
      · exact .done fun _ => id
      · refine KeepsTo.pass_read_bind (r := .list .pod space _) rfl
          (fun pod => ⟨.inl rfl, fun hchild => hchild.kind_ne.2 rfl⟩) (fun a b halike => ?_)
          (fun _ => id) fun pods _ => ?_
        · cases halike
          rfl
        · unfold checkReady
          simp only
          split
          · exact .done fun _ => id
          · exact KeepsTo.pass_bind (x := ExceptT.mk (Program.perform (.poll limit _)))
              (KeepsTo.perform fun _ h => nomatch h) (fun _ => id) fun _ _ _ => .done fun _ => id

theorem keepsTo_updateStatus (change : Status → Status) :
    u.KeepsToOwn space name (updateStatus change d) scene := by
  unfold updateStatus
  simp only
  split
  · exact .done fun _ => id
  · have hkey : ∀ status, (Request.updateStatus { d with status }).key =
        ⟨.declaration, space, name⟩ := fun status => (named.withStatus status).keyOf
    refine KeepsTo.request_bind (r := .updateStatus _) (Key.IsChildOf space name)
      ⟨?_, ?_, nofun⟩ (fun _ _ _ => rfl) (fun key => ?_) (.done fun _ => id)
    · exact hkey _ ▸ .inr (.inl rfl)
    · exact hkey _ ▸ fun hchild => hchild.kind_ne.1 rfl
    · exact (Or.resolve_right · fun hstamps => nomatch hstamps.1)

theorem keepsTo_report (r : Report) : u.KeepsToOwn space name (report r d) scene :=
  (KeepsTo.perform (c := .clock) fun _ h => nomatch h).bind (keepsTo_updateStatus named _)

theorem keepsTo_giveUp (stop : Stop) : u.KeepsToOwn space name (giveUp d stop) scene := by
  unfold giveUp
  split
  · exact (keepsTo_report named _).bind (.done fun _ => id)
  · exact .done fun _ => id
  · exact .done fun _ => id

/-- A pass gives up after a step that minds what it looks at, or goes on. -/
theorem keepsTo_orGiveUp {α : Type} {x : Pass α} {next : α → Program Outcome}
    (hx : u.KeepsTo (Key.IsSeenBy space name) (Key.IsChildOf space name) written x.run scene)
    (hnext : ∀ a left, u.KeepsToOwn space name (next a) left) :
    u.KeepsTo (Key.IsSeenBy space name) (Key.IsChildOf space name) written
      (x.run >>= orGiveUp d next) scene := by
  refine hx.bind ?_
  cases (u.run x.run scene).1 with
  | error stop => exact keepsTo_giveUp named stop
  | ok a => exact hnext a _

theorem keepsTo_checkAndReport (settings : Settings) :
    u.KeepsToOwn space name (checkAndReport settings d) scene := by
  rw [checkAndReport_eq_orGiveUp]
  exact keepsTo_orGiveUp named (keepsTo_check named _) fun _ _ =>
    (keepsTo_report named _).bind (.done fun _ => id)

theorem keepsTo_prepare (settings : Settings) (previous : Phase) :
    u.KeepsToOwn space name (prepare settings previous d) scene := by
  cases previous with
  | none => exact (keepsTo_updateStatus named _).map some
  | failed =>
    refine KeepsTo.bind (KeepsTo.perform (c := .heal _ d) fun _ h => nomatch h) ?_
    cases (u.run (Program.perform (.heal settings.healTimeout d)) scene).1 with
    | returned => exact .done fun _ => id
    | panicked => exact .done fun _ => id
  | _ => exact .done fun _ => id

theorem keepsTo_afterEnsure (settings : Settings) (previous : Phase) :
    u.KeepsToOwn space name (afterEnsure settings previous d) scene := by
  refine (keepsTo_prepare named settings previous).bind ?_
  cases hprepared : (u.run (prepare settings previous d) scene).1 with
  | none => exact .done fun _ => id
  | some prepared =>
    obtain ⟨status, rfl⟩ := exists_status_of_prepare hprepared
    exact keepsTo_checkAndReport (named.withStatus status) settings

end Later

/-- A pass minds its own declaration, its own children and the pods. -/
theorem keepsTo_reconcile (settings : Settings) {s : Store}
    (named : ∀ d, (u.answer (.get .declaration space name) ⟨s, []⟩).1 = .ok (some d) →
      d.IsNamed space name) :
    u.KeepsTo (Key.IsSeenBy space name) (Key.IsChildOf space name) (fun _ => False)
      (reconcile settings space name) ⟨s, []⟩ := by
  refine KeepsTo.request_bind (r := .get .declaration space name) (fun _ => False)
    (.inr (.inl rfl)) (fun a b halike => ?_) (fun key => ?_) ?_
  · rw [halike.get_eq not_false]
  · exact (Or.resolve_right · (Request.not_stamps_of_reads rfl key))
  · cases hfetched : (u.answer (.get .declaration space name) ⟨s, []⟩).1 with
    | error e => exact .done fun _ => False.elim
    | ok found =>
      cases found with
      | none => exact .done fun _ => False.elim
      | some d =>
        have hnamed := named d hfetched
        refine KeepsTo.map ?_ _
        rw [runPass_eq_orGiveUp]
        exact keepsTo_orGiveUp hnamed.withDefaults (keepsTo_ensure hnamed.withDefaults _)
          fun _ _ => keepsTo_afterEnsure hnamed.withDefaults settings _

/-- A pass begins in the store that it would find alone. -/
theorem Calm.abreast_reconcile (calm : u.Calm) (settings : Settings) {s : Store}
    (named : ∀ d, s.get .declaration space name = .ok (some d) → d.IsNamed space name) :
    u.Abreast (Key.IsSeenBy space name) (Key.IsChildOf space name)
      ⟨reconcile settings space name, []⟩ s s :=
  ⟨_, .refl _ _ s, keepsTo_reconcile settings fun d h =>
    named d (answer_get (calm.spares fun _ => True) trivial h)⟩

/-- Passes over deployments that ask for no common service do not influence each other. Whatever the
order of their calls, each makes the calls that it would make alone from the store that both found,
in the same order and with the same outcome, and leaves the same status and the same children, but
for the versions of the children. -/
theorem Calm.reconcile_apart (calm : u.Calm) (calm' : v.Calm) (settings settings' : Settings)
    {space' name' : String} (apart : NamesApart space name space' name') {s : Store}
    (named : ∀ d, s.get .declaration space name = .ok (some d) → d.IsNamed space name)
    (named' : ∀ d, s.get .declaration space' name' = .ok (some d) → d.IsNamed space' name')
    (turns : List Turn) :
    let both := together u v turns ⟨reconcile settings space name, []⟩
      ⟨reconcile settings' space' name', []⟩ s
    let alone := u.run (reconcile settings space name) ⟨s, []⟩
    let alone' := v.run (reconcile settings' space' name') ⟨s, []⟩
    both.first = (alone.1, alone.2.calls) ∧ both.second = (alone'.1, alone'.2.calls) ∧
      Store.SameDeployment space name alone.2.store both.store ∧
      Store.SameDeployment space' name' alone'.2.store both.store := by
  obtain ⟨hfirst, hsecond, hagree, hagree'⟩ := calm.together_eq calm'
    (fun _ => apart.kind_eq_pod) (calm.abreast_reconcile settings named)
    (calm'.abreast_reconcile settings' named') turns
  exact ⟨hfirst, hsecond, .of_agreesOn hagree, .of_agreesOn hagree'⟩

end Surroundings

/-! ### Two deployments in one store -/

namespace Declaration

/-- A declaration beside the plain one in its namespace. -/
def besideSample : Declaration where
  metadata := { name := some "beside", space := some "default" }

/-- The store in which both are declared. -/
def besideStore : Store where
  objects := plainStore.objects.insert ⟨.declaration, "default", "beside"⟩
    (Document.write besideSample)

theorem besideStore_get_plain : besideStore.get .declaration "default" "nc" =
    .ok (some (Document.reread plainSample)) :=
  Store.get_eq_ok_some.mpr ⟨_, (SortedMap.get?_insert_of_ne _ _ (by decide)).trans
    (SortedMap.get?_insert_self _ _ _), Document.read_write wellFormed plainSample⟩

theorem besideStore_get_beside : besideStore.get .declaration "default" "beside" =
    .ok (some (Document.reread besideSample)) :=
  Store.get_eq_ok_some.mpr
    ⟨_, SortedMap.get?_insert_self _ _ _, Document.read_write wellFormed besideSample⟩

end Declaration

open Declaration Surroundings in
theorem Declaration.besideSample_apart :
    NamesApart "default" "nc" "default" "beside" ∧
      let both := together well well [.first, .second, .second, .first, .second]
        ⟨reconcile {} "default" "nc", []⟩ ⟨reconcile {} "default" "beside", []⟩ besideStore
      let alone := well.run (reconcile {} "default" "nc") ⟨besideStore, []⟩
      let alone' := well.run (reconcile {} "default" "beside") ⟨besideStore, []⟩
      both.first = (alone.1, alone.2.calls) ∧ both.second = (alone'.1, alone'.2.calls) ∧
        Store.SameDeployment "default" "nc" alone.2.store both.store ∧
        Store.SameDeployment "default" "beside" alone'.2.store both.store := by
  have apart : NamesApart "default" "nc" "default" "beside" :=
    ⟨by decide, fun _ => by decide⟩
  have hplain : ∀ d, besideStore.get .declaration "default" "nc" = .ok (some d) →
      d.IsNamed "default" "nc" := fun d h => by
    cases besideStore_get_plain.symm.trans h
    exact ⟨rfl, rfl⟩
  have hbeside : ∀ d, besideStore.get .declaration "default" "beside" = .ok (some d) →
      d.IsNamed "default" "beside" := fun d h => by
    cases besideStore_get_beside.symm.trans h
    exact ⟨rfl, rfl⟩
  exact ⟨apart, calm_well.reconcile_apart calm_well {} {} apart hplain hbeside _⟩

end ClusterOperator
