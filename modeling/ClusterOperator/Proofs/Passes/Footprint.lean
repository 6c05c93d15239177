import ClusterOperator.Controller
import ClusterOperator.Proofs.Passes.Outcome
import ClusterOperator.Proofs.Passes.Workloads
import ClusterOperator.Proofs.Surroundings.Moments

/-!
# The footprint of a pass

A pass writes the children that a deployment asks for and the status of the deployment, and nothing
else; it deletes nothing. The declaration is filled up with defaults on the way and its status is
written from this copy, but the status is all that is taken over from the copy. A child that drifted
is overwritten with the derived one, except for its version and what the API server owns of it.

This holds at every moment of the pass, whatever requests fail and however the servers and the
remedy behave, if nobody else writes.

## Main definitions

* `Declaration.AsksFor`: the keys of the children that a declaration asks for.
* `Store.TendedFor`: what a pass over a declaration may make of a store.
* `Plan.Overwrites`: the updates of children that a pass may ask for.

## Main results

* `Store.TendedFor.answer`: what one request preserves.
* `Surroundings.reconcile_footprint`: what a pass changes.
-/

namespace ClusterOperator

open Kubernetes

/-! ### What a pass may change -/

/-- The keys of the children that a declaration asks for. -/
def Declaration.AsksFor (d : Declaration) (key : Key) : Prop :=
  key = ⟨.configMap, d.metadata.spaceOrEmpty, d.displayName⟩ ∨
    key = ⟨.statefulSet, d.metadata.spaceOrEmpty, d.displayName⟩ ∨
      key = ⟨.service, d.metadata.spaceOrEmpty, d.displayName⟩ ∨
        (d.spec.type = "cluster" ∧
          key = ⟨.service, d.metadata.spaceOrEmpty, d.displayName ++ "-headless"⟩)

/-- What a pass over a declaration may make of a store. No document is gone, that of the declaration
has at most another status, and any other one that was written is that of a child. -/
structure Store.TendedFor (d : Declaration) (before after : Store) : Prop where
  elsewhere : ∀ key, key ≠ d.key → ¬ d.AsksFor key → after.get? key = before.get? key
  present : ∀ key, (before.get? key).isSome = true → (after.get? key).isSome = true
  declared : ∀ j, before.get? d.key = some j → ∃ j', after.get? d.key = some j' ∧
    ∀ member, member ≠ "status" → j'.get? member = j.get? member

/-- A child that overwrites a stored one. It is the derived one, except for the version and, if the
stored one has a specification, the addresses of a service and the claims of a workload. -/
def Child.Overwrites : (c : Child) → (want live o : c.Object) → Prop
  | .configMap, want, live, o =>
    o = Kind.withVersion .configMap (ConfigMap.metadata live).resourceVersion want
  | .statefulSet, want, live, o => ∀ l, StatefulSet.spec live = some l →
    ∃ w, StatefulSet.spec want = some w ∧
      o = Kind.withVersion .statefulSet (StatefulSet.metadata live).resourceVersion
        { want with spec := some { w with volumeClaimTemplates := l.volumeClaimTemplates } }
  | .service, want, live, o => ∀ l, Service.spec live = some l →
    ∃ w, Service.spec want = some w ∧
      o = Kind.withVersion .service (Service.metadata live).resourceVersion
        { want with spec := some { w with clusterIP := l.clusterIP, clusterIPs := l.clusterIPs } }

/-- An update of a child of a plan by which it overwrites the one that is stored. -/
def Plan.Overwrites (p : Plan) (s : Store) (r : Request) : Prop :=
  ∃ child ∈ p.children, ∃ live o : child.1.Object,
    r = .update child.1.kind p.space o ∧
      s.get child.1.kind p.space (child.1.kind.metadata child.2).displayName = .ok (some live) ∧
      child.1.Overwrites child.2 live o

/-- A request that a pass over a declaration may make: it reads, it writes a child that is asked
for, or it writes the status. -/
def Request.Tends (d : Declaration) (r : Request) : Prop :=
  r.reads = true ∨ ((r.verb = .create ∨ r.verb = .update) ∧ d.AsksFor r.key) ∨
    (r.verb = .updateStatus ∧ r.key = d.key)

/-- A call that a pass over a declaration may make. -/
def Call.Tends (d : Declaration) : Call → Prop
  | .request r => r.Tends d
  | .poll _ _ | .heal _ _ | .clock => True

/-! ### One request -/

theorem Declaration.AsksFor.kind_ne {d : Declaration} {key : Key} (h : d.AsksFor key) :
    key.kind ≠ .declaration := by
  rcases h with rfl | rfl | rfl | ⟨-, rfl⟩ <;> exact nofun

theorem Request.verb_ne_delete_of_reads {r : Request} (h : r.reads = true) :
    r.verb ≠ .delete ∧ r.verb ≠ .update := by
  cases r with
  | get | list => exact ⟨nofun, nofun⟩
  | _ => cases h

theorem Request.Tends.verb_ne_delete {d : Declaration} {r : Request} (h : r.Tends d) :
    r.verb ≠ .delete := by
  rcases h with hreads | ⟨hverb | hverb, -⟩ | ⟨hverb, -⟩
  · exact (Request.verb_ne_delete_of_reads hreads).1
  all_goals exact hverb ▸ nofun

namespace Store

variable {d : Declaration} {s t t' : Store}

/-- A request that deletes nothing leaves no document out. -/
theorem isSome_get?_answer {r : Request} (hverb : r.verb ≠ .delete) {key : Key}
    (h : (s.get? key).isSome = true) : ((s.answer r).2.get? key).isSome = true := by
  have hpresent : ∀ (other : Key) (j : Json) (version : Nat),
      (({ objects := s.objects.insert other j, version } : Store).get? key).isSome = true := by
    intro other j version
    have hstored : s.objects.contains key = true := h
    show (s.objects.insert other j).contains key = true
    rw [SortedMap.contains_insert, hstored, Bool.or_true]
  cases r with
  | get | list => exact h
  | create k space o =>
    show ((s.create k space o).2.get? key).isSome = true
    cases hfound : s.get? (keyOf k space o) with
    | some j => rwa [create_taken hfound]
    | none =>
      rw [create_fresh hfound]
      exact hpresent _ _ _
  | update k space o =>
    show ((s.update k space o).2.get? key).isSome = true
    cases hfound : s.get? (keyOf k space o) with
    | none => rwa [update_missing hfound]
    | some j =>
      by_cases hv : versionOf j = (k.metadata o).resourceVersion
      · rw [update_current hfound hv]
        exact hpresent _ _ _
      · rwa [update_stale hfound hv]
  | delete => exact absurd rfl hverb
  | updateStatus d =>
    show ((s.updateStatus d).2.get? key).isSome = true
    cases hfound : s.get? (keyOf .declaration d.metadata.spaceOrEmpty d) with
    | none => rwa [updateStatus_missing hfound]
    | some j =>
      rw [updateStatus_stored hfound]
      exact hpresent _ _ _

namespace TendedFor

theorem refl (d : Declaration) (s : Store) : TendedFor d s s :=
  ⟨fun _ _ _ => rfl, fun _ => id, fun j hj => ⟨j, hj, fun _ _ => rfl⟩⟩

theorem congr (h : TendedFor d s t) (same : ∀ key, t'.get? key = t.get? key) :
    TendedFor d s t' where
  elsewhere key hkey hchild := (same key).trans (h.elsewhere key hkey hchild)
  present key hkey := same key ▸ h.present key hkey
  declared j hj := same d.key ▸ h.declared j hj

/-- What one request preserves. -/
theorem answer (h : TendedFor d s t) {r : Request} (tends : r.Tends d) :
    TendedFor d s (t.answer r).2 where
  elsewhere key hkey hchild := by
    refine (get?_answer t ?_).trans (h.elsewhere key hkey hchild)
    rcases tends with hreads | ⟨-, hasks⟩ | ⟨-, heq⟩
    · exact .inl hreads
    · exact .inr fun heq => hchild (heq ▸ hasks)
    · exact .inr fun heq' => hkey (heq'.symm.trans heq)
  present key hkey := isSome_get?_answer tends.verb_ne_delete (h.present key hkey)
  declared j hj := by
    obtain ⟨j', hj', hmembers⟩ := h.declared j hj
    rcases tends with hreads | ⟨-, hasks⟩ | ⟨hverb, heq⟩
    · exact ⟨j', (get?_answer t (.inl hreads)).trans hj', hmembers⟩
    · have hne : r.key ≠ d.key := fun heq => hasks.kind_ne (heq ▸ rfl)
      exact ⟨j', (get?_answer t (.inr hne)).trans hj', hmembers⟩
    · cases r with
      | updateStatus copy =>
        have heq : keyOf .declaration copy.metadata.spaceOrEmpty copy = d.key := heq
        have hwrite := updateStatus_stored (heq ▸ hj')
        refine ⟨j'.set "status" ((copy.status.map Document.write).getD .null), ?_, ?_⟩
        · show (t.updateStatus copy).2.get? d.key = _
          rw [hwrite, heq]
          exact SortedMap.get?_insert_self _ _ _
        · exact fun member hmember =>
            (Json.get?_set_of_ne j' _ hmember).trans (hmembers member hmember)
      | _ => cases hverb

end TendedFor

end Store

/-! ### The calls of a pass -/

section Calls

variable {d e : Declaration} {domain : String} {settings : Settings}

theorem Call.Reads.tends {c : Call} (h : c.Reads) (d : Declaration) : c.Tends d := by
  cases c with
  | request r => exact .inl h
  | _ => trivial

/-- The children of a plan are those that the declaration asks for. -/
theorem Declaration.asksFor_childKey {p : Plan}
    (plan : Plan.ofDeclaration d.withDefaults domain = .ok p) {child : (c : Child) × c.Object}
    (h : child ∈ p.children) : d.AsksFor (childKey p.space child) := by
  obtain ⟨-, hname, hspace, hmode, -⟩ := Plan.ofDeclaration_eq_ok plan
  have hspace : d.metadata.spaceOrEmpty = p.space := congrArg (Option.getD · "") hspace
  have hname : p.name = d.displayName := hname
  unfold AsksFor
  rw [hspace, ← hname]
  rcases Plan.mem_children h with rfl | rfl | rfl | ⟨hcluster, rfl⟩
  · exact .inl rfl
  · exact .inr (.inl rfl)
  · exact .inr (.inr (.inl rfl))
  · refine .inr (.inr (.inr ⟨?_, rfl⟩))
    -- a type that is left open stands for a single server
    by_cases hempty : d.spec.type = ""
    · have htype : d.withDefaults.spec.type = Mode.standalone.name :=
        (orIfEmpty_eq _ _).trans (if_pos hempty)
      cases hcluster.symm.trans (Plan.mode_of_type plan htype)
    · have htype : d.withDefaults.spec.type = d.spec.type :=
        (orIfEmpty_eq _ _).trans (if_neg hempty)
      rcases Mode.parse_eq_ok.mp ⟨_, hmode⟩ with hword | hword
      · cases hcluster.symm.trans (Plan.mode_of_type (m := .standalone) plan hword)
      · exact htype.symm.trans hword

theorem Call.allowsChild_tends {space : String} {child : (c : Child) × c.Object}
    (h : d.AsksFor (childKey space child)) : AllowsChild (Tends d) space child where
  get := .inl rfl
  create := .inr (.inl ⟨.inl rfl, h⟩)
  update live := by
    have hkey : (Request.update child.1.kind space (child.1.adopt child.2 live)).key =
        childKey space child := child.1.keyOf_adopt space child.2 live
    exact .inr (.inl ⟨.inr rfl, hkey ▸ h⟩)

theorem ensure_tends (domain : String) (d : Declaration) :
    Pass.Within (Call.Tends d) (ensure domain d.withDefaults) :=
  ensure_within fun _ hplan _ hchild =>
    Call.allowsChild_tends (Declaration.asksFor_childKey hplan hchild)

/-- After its children a pass works on copies of the declaration that have its key. -/
theorem Call.allowsReports_tends (same : e.key = d.key) : AllowsReports (Tends d) e :=
  ⟨trivial, fun _ => .inr (.inr ⟨rfl, same⟩)⟩

end Calls

namespace Surroundings

variable {u : Surroundings} {d : Declaration} {space name : String} {scene : Scene}

theorem steps_afterEnsure_tends (settings : Settings) (previous : Phase) (d : Declaration) :
    ∀ step ∈ u.steps (afterEnsure settings previous d.withDefaults) scene, step.1.Tends d := by
  have hfilled : d.withDefaults.key = d.key := rfl
  intro step hstep
  rw [afterEnsure, steps_bind] at hstep
  rcases List.mem_append.mp hstep with hstep | hstep
  · exact steps_of_within (prepare_within
      (fun _ => (Call.allowsReports_tends hfilled).write) fun _ => trivial) step hstep
  · cases hprepared : (u.run (prepare settings previous d.withDefaults) scene).1 with
    | none =>
      rw [hprepared] at hstep
      cases hstep
    | some prepared =>
      rw [hprepared] at hstep
      obtain ⟨status, hstatus⟩ := exists_status_of_prepare hprepared
      have hkey : prepared.key = d.key := hstatus ▸ hfilled
      exact steps_of_within (checkAndReport_within (fun _ hc => hc.tends d)
        (Call.allowsReports_tends hkey)) step hstep

/-- A step of a pass is one by which the children are applied, or comes after them. -/
theorem mem_steps_runPass {settings : Settings} {step : Call × Scene}
    (h : step ∈ u.steps (runPass settings d) scene) :
    step ∈ u.steps (ensure settings.clusterDomain d.withDefaults).run scene ∨
      (step.1.Mild ∧ step.1.Tends d) := by
  have hfilled : d.withDefaults.key = d.key := rfl
  rw [runPass_eq, steps_bind] at h
  refine (List.mem_append.mp h).imp_right fun hlater => ?_
  cases hresult : (u.run (ensure settings.clusterDomain d.withDefaults).run scene).1 with
  | error stop =>
    rw [hresult] at hlater
    exact ⟨steps_of_within (giveUp_mild _ _) step hlater,
      steps_of_within (giveUp_within (Call.allowsReports_tends hfilled) stop) step hlater⟩
  | ok applied =>
    rw [hresult] at hlater
    exact ⟨steps_of_within (afterEnsure_mild _ _ _) step hlater,
      steps_afterEnsure_tends settings d.phase d step hlater⟩

/-- A step of a pass over a stored deployment is the one that fetches it, or comes after it. -/
theorem mem_steps_reconcile {keys : Key → Prop} (spares : u.Spares keys)
    (hkey : keys ⟨.declaration, space, name⟩) {settings : Settings}
    (stored : scene.store.get .declaration space name = .ok (some d)) {step : Call × Scene}
    (h : step ∈ u.steps (reconcile settings space name) scene) :
    step = (.request (.get .declaration space name), scene) ∨
      step ∈ u.steps (runPass settings d) (u.requested (.get .declaration space name) scene) := by
  rw [reconcile, steps_bind, run_request] at h
  refine (List.mem_append.mp h).imp List.mem_singleton.mp fun hlater => ?_
  cases hanswer : (u.answer (.get .declaration space name) scene).1 with
  | error e =>
    rw [hanswer] at hlater
    cases hlater
  | ok found =>
    rw [hanswer] at hlater
    have hfound : found = some d :=
      Except.ok.inj ((answer_get spares hkey hanswer).symm.trans stored)
    subst hfound
    rw [steps_bind] at hlater
    rcases List.mem_append.mp hlater with hlater | hlater
    · exact hlater
    · cases hlater

/-- A request that a pass may make leaves a store tended for if nobody else writes. -/
theorem tendedFor_answer (alone : u.Spares fun _ => True) {s : Store} (r : Request) (scene : Scene)
    (tends : r.Tends d) (h : s.TendedFor d scene.store) : s.TendedFor d (u.answer r scene).2 := by
  have hothers : s.TendedFor d (u.others scene.calls r scene.store) :=
    h.congr fun key => alone scene.calls r scene.store key trivial
  rcases u.answer_store r scene with hstore | ⟨hstore, -⟩
  · exact hstore ▸ hothers.answer tends
  · exact hstore ▸ hothers

/-- What is adopted from a stored child makes a child of a plan one that overwrites it. -/
theorem overwrites_adopt {p : Plan} {child : (c : Child) × c.Object} (h : child ∈ p.children)
    (live : child.1.Object) : child.1.Overwrites child.2 live (child.1.adopt child.2 live) := by
  have hservice : ∀ (want live : Service) w l, want.spec = some w → live.spec = some l →
      want.adopt live = { want with
        spec := some { w with clusterIP := l.clusterIP, clusterIPs := l.clusterIPs } } := by
    intro want live w l hw hl
    simp only [Service.adopt, hw, hl]
  rcases Plan.mem_children h with rfl | rfl | rfl | ⟨-, rfl⟩
  · rfl
  · intro l hl
    refine ⟨_, rfl, congrArg (Kind.withVersion .statefulSet _) ?_⟩
    show StatefulSet.adopt p.statefulSet live = _
    simp only [StatefulSet.adopt, hl]
    rfl
  · intro l hl
    exact ⟨_, rfl, congrArg (Kind.withVersion .service _) (hservice _ live _ l rfl hl)⟩
  · intro l hl
    exact ⟨_, rfl, congrArg (Kind.withVersion .service _) (hservice _ live _ l rfl hl)⟩

/-- An update that applying the children of a declaration asks for overwrites the stored child. -/
theorem overwrites_of_mem_steps_ensure (alone : u.Spares fun _ => True) {domain : String}
    {r : Request} {m : Scene} (h : (.request r, m) ∈ u.steps (ensure domain d).run scene)
    (hverb : r.verb = .update) :
    ∃ p, Plan.ofDeclaration d domain = .ok p ∧ p.Overwrites m.store r := by
  cases hplan : Plan.ofDeclaration d domain with
  | error e =>
    rw [ensure_of_error hplan] at h
    cases h
  | ok p =>
    refine ⟨p, rfl, ?_⟩
    rw [ensure_of_plan hplan] at h
    cases r with
    | update k space o =>
      obtain ⟨child, hchild, live, hupdate, hlive, hkept⟩ :=
        update_mem_steps_applyAll alone (fun _ _ => trivial) p.nodup_childKeys h
      exact ⟨child, hchild, live, child.1.adopt child.2 live, hupdate,
        (Store.get_congr hkept).trans hlive, overwrites_adopt hchild live⟩
    | _ => cases hverb

/-- A pass over a stored deployment, which goes by the name and the namespace that the deployment
itself states, if nobody else writes. At every moment it has changed nothing but the children that
the deployment asks for and the status of the deployment, and nothing is gone. It asks for no
deletion, and by every update that it asks for a child of the plan overwrites the one that is stored
at that moment. -/
theorem reconcile_footprint (alone : u.Spares fun _ => True) (settings : Settings) {s : Store}
    (stored : s.get .declaration space name = .ok (some d)) :
    (∀ m ∈ u.moments (reconcile settings space name) ⟨s, []⟩, s.TendedFor d m.store) ∧
      ∀ r m, (.request r, m) ∈ u.steps (reconcile settings space name) ⟨s, []⟩ →
        r.verb ≠ .delete ∧
          (r.verb = .update →
            ∃ p, Plan.ofDeclaration d.withDefaults settings.clusterDomain = .ok p ∧
              p.Overwrites m.store r) := by
  have hsteps : ∀ step ∈ u.steps (reconcile settings space name) ⟨s, []⟩, step.1.Tends d := by
    intro step hstep
    rcases mem_steps_reconcile alone trivial stored hstep with rfl | hstep
    · exact .inl rfl
    · rcases mem_steps_runPass hstep with hstep | ⟨-, htends⟩
      · exact steps_of_within (ensure_tends settings.clusterDomain d) step hstep
      · exact htends
  refine ⟨moments_preserve_of_steps (tendedFor_answer alone) hsteps (.refl d s),
    fun r m hmem => ⟨(hsteps _ hmem).verb_ne_delete, fun hverb => ?_⟩⟩
  rcases mem_steps_reconcile alone trivial stored hmem with heq | hmem
  · cases heq
    cases hverb
  · rcases mem_steps_runPass hmem with hmem | ⟨hmild, -⟩
    · exact overwrites_of_mem_steps_ensure alone hmem hverb
    · rcases hmild with h | h | h <;> cases h.symm.trans hverb

end Surroundings

namespace Declaration

/-- A service for other pods that goes by the name of the sample, and its address. -/
def straySample : Service where
  metadata := { name := some "nc", space := some "default" }
  spec := some { clusterIP := some "10.0.0.9" }

/-- The store in which they meet. -/
def strayStore : Store := (plainStore.write ⟨.service, "default", "nc"⟩ straySample).2

theorem strayStore_get :
    strayStore.get .declaration "default" "nc" = .ok (some (Document.reread plainSample)) := by
  have hother : strayStore.get? ⟨.declaration, "default", "nc"⟩ =
      plainStore.get? ⟨.declaration, "default", "nc"⟩ :=
    @Store.get?_write_of_ne plainStore ⟨.service, "default", "nc"⟩ _ straySample (by decide)
  exact (Store.get_congr hother).trans plainStore_get

/-- Whether a call updates a service where one with this address is stored. -/
def updatesStray (step : Call × Scene) : Bool :=
  match step.1, step.2.store.get .service "default" "nc" with
  | .request (.update .service _ _), .ok (some live) =>
    decide ((Service.spec live).bind (·.clusterIP) = some "10.0.0.9")
  | _, _ => false

/-- The calls of a pass. -/
def straySteps : List (Call × Scene) :=
  Surroundings.well.steps (reconcile {} "default" "nc") ⟨strayStore, []⟩

theorem straySteps_update : ∃ space, ∃ o live : Service, ∃ m,
    (.request (.update .service space o), m) ∈ straySteps ∧
      m.store.get .service "default" "nc" = .ok (some live) ∧
      live.spec.bind (·.clusterIP) = some "10.0.0.9" := by
  have hany : straySteps.any updatesStray = true := by decide +kernel
  obtain ⟨⟨call, m⟩, hmem, hupdates⟩ := List.any_eq_true.mp hany
  unfold updatesStray at hupdates
  split at hupdates
  · next space o live hcall hlive =>
    have hcall : call = .request (.update .service space o) := hcall
    exact ⟨space, o, live, m, hcall ▸ hmem, hlive, of_decide_eq_true hupdates⟩
  · cases hupdates

end Declaration

open Declaration in
theorem Declaration.straySample_overwritten : ∃ space, ∃ o : Service, ∃ m,
    (.request (.update .service space o), m) ∈ straySteps ∧
      o.spec.bind (·.clusterIP) = some "10.0.0.9" ∧
      o.spec.bind (·.ports) = some Plan.servicePorts := by
  obtain ⟨space, o, live, m, hmem, hlive, haddress⟩ := straySteps_update
  obtain ⟨-, hupdate⟩ := (Surroundings.reconcile_footprint (Surroundings.calm_well.spares _) {}
    strayStore_get).2 _ m hmem
  obtain ⟨p, hplan, ⟨c, want⟩, hchild, stored, o', hrequest, hstored, hoverwrites⟩ := hupdate rfl
  obtain ⟨-, hname, hspace, hmode, -⟩ := Plan.ofDeclaration_eq_ok hplan
  obtain rfl : c = .service := Child.kind_injective (congrArg Request.kind hrequest).symm
  cases hrequest
  have hwant : want = p.service := by
    rcases Plan.mem_children hchild with h | h | h | ⟨hcluster, -⟩
    · cases h
    · cases h
    · cases h
      rfl
    · cases hcluster.symm.trans (Except.ok.inj hmode).symm
  subst hwant
  have hname : p.name = "nc" := hname
  have hspace : p.space = "default" := (Option.some.inj hspace).symm
  have hstored : m.store.get .service p.space p.name = .ok (some stored) := hstored
  rw [hname, hspace] at hstored
  obtain rfl := Option.some.inj (Except.ok.inj (hstored.symm.trans hlive))
  obtain ⟨l, hl, hclusterIP⟩ := Option.bind_eq_some_iff.mp haddress
  obtain ⟨w, hw, rfl⟩ := hoverwrites l hl
  cases hw
  exact ⟨_, _, m, hmem, hclusterIP, rfl⟩

end ClusterOperator
