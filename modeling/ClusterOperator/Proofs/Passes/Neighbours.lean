import ClusterOperator.Proofs.Passes.Resumed

/-!
# Children of neighbours

The children of a deployment are stored under keys that are made from its name. Two deployments
have a key in common only if one is a cluster and the other one, in the same namespace, is named
like its headless service: then both ask for the same service, and each takes it from the other.
All other deployments leave each other's children alone.

## Main definitions

* `Scene.keys`: the keys that requests were made about.
* `Plan.SharesService`: two deployments ask for the same service.

## Main results

* `Plan.mem_keys_both_iff`: the keys that two plans have in common.
* `Surroundings.ensure_shares_iff`: the keys that applying the children of two deployments asks for.
-/

namespace ClusterOperator

/-- The key that a call is about, if it is a request. -/
def Call.key? : Call → Option Key
  | .request r => some r.key
  | .poll _ _ | .heal _ _ | .clock => none

/-- The keys that requests were made about. -/
def Scene.keys (scene : Scene) : List Key := scene.calls.filterMap Call.key?

namespace Plan

/-- The keys of the children of a plan. -/
def keys (p : Plan) : List Key := p.children.map (childKey p.space)

/-- One of two deployments in a namespace is named like the headless service of the other one. -/
def SharesService (p q : Plan) : Prop :=
  p.space = q.space ∧
    (p.mode = .cluster ∧ q.name = p.headlessName ∨ q.mode = .cluster ∧ p.name = q.headlessName)

variable {p q : Plan} {key : Key}

/-- The keys of a plan, one by one. -/
theorem mem_keys_iff : key ∈ p.keys ↔
    key = ⟨.configMap, p.space, p.name⟩ ∨ key = ⟨.statefulSet, p.space, p.name⟩ ∨
      (p.mode = .cluster ∧ key = ⟨.service, p.space, p.headlessName⟩) ∨
        key = ⟨.service, p.space, p.name⟩ := by
  cases hmode : p.mode with
  | standalone =>
    have hkeys : p.keys = [⟨.configMap, p.space, p.name⟩, ⟨.statefulSet, p.space, p.name⟩,
        ⟨.service, p.space, p.name⟩] := by
      rw [keys, children_standalone hmode]
      rfl
    simp [hkeys]
  | cluster =>
    have hkeys : p.keys = [⟨.configMap, p.space, p.name⟩, ⟨.statefulSet, p.space, p.name⟩,
        ⟨.service, p.space, p.headlessName⟩, ⟨.service, p.space, p.name⟩] := by
      rw [keys, children_cluster hmode]
      rfl
    simp [hkeys]

/-- The name of the headless service tells the name of the deployment. -/
theorem name_eq_of_headlessName (h : p.headlessName = q.headlessName) : p.name = q.name :=
  (String.append_left_inj _).mp h

/-- The keys that two plans have in common: a service for the clients of one of them under the name
of the headless service of the other one. -/
theorem eq_service_of_mem_keys (different : (p.space, p.name) ≠ (q.space, q.name))
    (hp : key ∈ p.keys) (hq : key ∈ q.keys) :
    (p.mode = .cluster ∧ key = ⟨.service, p.space, p.headlessName⟩ ∧
        key = ⟨.service, q.space, q.name⟩) ∨
      (q.mode = .cluster ∧ key = ⟨.service, q.space, q.headlessName⟩ ∧
        key = ⟨.service, p.space, p.name⟩) := by
  have apart : ∀ {k : Kind}, (⟨k, p.space, p.name⟩ : Key) ≠ ⟨k, q.space, q.name⟩ := fun heq =>
    different (Prod.ext (congrArg Key.space heq) (congrArg Key.name heq))
  rcases mem_keys_iff.mp hp with rfl | rfl | ⟨hmode, rfl⟩ | rfl
  · rcases mem_keys_iff.mp hq with heq | heq | ⟨-, heq⟩ | heq
    · exact absurd heq apart
    all_goals cases heq
  · rcases mem_keys_iff.mp hq with heq | heq | ⟨-, heq⟩ | heq
    · cases heq
    · exact absurd heq apart
    all_goals cases heq
  · rcases mem_keys_iff.mp hq with heq | heq | ⟨-, heq⟩ | heq
    · cases heq
    · cases heq
    · exact absurd (Prod.ext (congrArg Key.space heq)
        (name_eq_of_headlessName (congrArg Key.name heq))) different
    · exact .inl ⟨hmode, rfl, heq⟩
  · rcases mem_keys_iff.mp hq with heq | heq | ⟨hmode, heq⟩ | heq
    · cases heq
    · cases heq
    · exact .inr ⟨hmode, heq, rfl⟩
    · exact absurd heq apart

/-- Two deployments of different names or namespaces have a key in common exactly if they ask for
the same service. -/
theorem mem_keys_both_iff (different : (p.space, p.name) ≠ (q.space, q.name)) :
    (∃ key, key ∈ p.keys ∧ key ∈ q.keys) ↔ p.SharesService q := by
  constructor
  · rintro ⟨key, hp, hq⟩
    rcases eq_service_of_mem_keys different hp hq with ⟨hmode, rfl, heq⟩ | ⟨hmode, rfl, heq⟩
    · exact ⟨congrArg Key.space heq, .inl ⟨hmode, (congrArg Key.name heq).symm⟩⟩
    · exact ⟨(congrArg Key.space heq).symm, .inr ⟨hmode, (congrArg Key.name heq).symm⟩⟩
  · rintro ⟨hspace, ⟨hmode, hname⟩ | ⟨hmode, hname⟩⟩
    · refine ⟨⟨.service, p.space, p.headlessName⟩, ?_, ?_⟩
      · exact mem_keys_iff.mpr (.inr (.inr (.inl ⟨hmode, rfl⟩)))
      · exact mem_keys_iff.mpr (.inr (.inr (.inr (by rw [hspace, hname]))))
    · refine ⟨⟨.service, p.space, p.name⟩, ?_, ?_⟩
      · exact mem_keys_iff.mpr (.inr (.inr (.inr rfl)))
      · exact mem_keys_iff.mpr (.inr (.inr (.inl ⟨hmode, by rw [hspace, hname]⟩)))

end Plan

/-! ### Requests for children -/

/-- A call that is a request about a key. -/
def Call.IsAbout (key : Key) (c : Call) : Prop := c.key? = some key

/-- A call that is a request about one of some keys. -/
def Call.RequestsWithin (keys : List Key) (c : Call) : Prop := ∃ key ∈ keys, c.IsAbout key

theorem Scene.mem_keys_iff {scene : Scene} {key : Key} :
    key ∈ scene.keys ↔ ∃ c ∈ scene.calls, c.IsAbout key :=
  List.mem_filterMap

namespace Surroundings

variable {u : Surroundings} {space : String} {children : List ((c : Child) × c.Object)}

/-- Applying children makes requests about their keys only. -/
theorem applyAll_within_keys (space : String) (children : List ((c : Child) × c.Object)) :
    Pass.Within (Call.RequestsWithin (children.map (childKey space)))
      (applyAll space children) := by
  refine applyAll_within fun child hchild => ?_
  have hkey := List.mem_map_of_mem (f := childKey space) hchild
  exact ⟨⟨_, hkey, rfl⟩, ⟨_, hkey, rfl⟩,
    fun live => ⟨_, hkey, congrArg some (child.1.keyOf_adopt space child.2 live)⟩⟩

/-- A call that was made stays among the calls. -/
theorem mem_calls_run {α : Type} (u : Surroundings) {c : Call} {scene : Scene}
    (h : c ∈ scene.calls) (p : Program α) : c ∈ (u.run p scene).2.calls := by
  obtain ⟨more, hmore, -⟩ := u.run_calls p.within_true scene
  exact hmore ▸ List.mem_append_left _ h

/-- A request is among the calls of the program that begins with it. -/
theorem request_mem_calls {β : Type} (u : Surroundings) (r : Request) (f : r.Result → Pass β)
    (scene : Scene) : Call.request r ∈ (u.pass (Pass.request r >>= f) scene).2.calls := by
  have hmade : Call.request r ∈ (u.requested r scene).calls :=
    List.mem_append_right _ (List.mem_singleton_self _)
  cases hanswer : (u.answer r scene).1 with
  | error e =>
    rw [u.pass_bind_of_error (u.pass_request_of_error hanswer)]
    exact hmade
  | ok a =>
    rw [u.pass_bind_of_ok (u.pass_request_of_ok hanswer)]
    exact u.mem_calls_run hmade _

/-- Children that were all applied were all asked for. -/
theorem mem_keys_of_applyAll {scene left : Scene} {applied : List Applied}
    (h : u.pass (applyAll space children) scene = (.ok applied, left)) :
    ∀ child ∈ children, childKey space child ∈ left.keys := by
  induction children generalizing scene applied with
  | nil => exact fun _ hchild => absurd hchild List.not_mem_nil
  | cons child rest ih =>
    obtain ⟨c, want⟩ := child
    rw [applyAll] at h
    rcases happly : u.pass (apply c space want) scene with ⟨stop | first, middle⟩
    · rw [u.pass_bind_of_error happly] at h
      cases h
    · rw [u.pass_bind_of_ok happly, pass_bind_pure] at h
      rcases hothers : u.pass (applyAll space rest) middle with ⟨stop | others, last⟩
      · rw [hothers] at h
        cases h
      · rw [hothers] at h
        cases h
        have hasked : Call.request (childGet space ⟨c, want⟩) ∈
            (u.pass (apply c space want) scene).2.calls := u.request_mem_calls _ _ _
        rw [happly] at hasked
        have hkept : Call.request (childGet space ⟨c, want⟩) ∈
            (u.pass (applyAll space rest) middle).2.calls := u.mem_calls_run hasked _
        rw [hothers] at hkept
        exact List.forall_mem_cons.mpr
          ⟨Scene.mem_keys_iff.mpr ⟨_, hkept, rfl⟩, ih hothers⟩

/-- Applying the children of a plan asks for keys of the plan only, and for all of them if it comes
to its end. -/
theorem keys_ensure {domain : String} {d : Declaration} {p : Plan}
    (hplan : Plan.ofDeclaration d domain = .ok p) (u : Surroundings) (s : Store) :
    (∀ key ∈ (u.pass (ensure domain d) ⟨s, []⟩).2.keys, key ∈ p.keys) ∧
      ((u.pass (ensure domain d) ⟨s, []⟩).1.isOk →
        ∀ key ∈ p.keys, key ∈ (u.pass (ensure domain d) ⟨s, []⟩).2.keys) := by
  rw [ensure_of_plan hplan]
  constructor
  · intro key hkey
    obtain ⟨c, hc, habout⟩ := Scene.mem_keys_iff.mp hkey
    obtain ⟨more, hmore, hwithin⟩ := u.run_calls (applyAll_within_keys p.space p.children) ⟨s, []⟩
    have hmem : c ∈ more := by
      have hc : c ∈ [] ++ more := hmore ▸ hc
      exact hc
    obtain ⟨key', hkey', habout'⟩ := hwithin c hmem
    exact Option.some.inj (habout'.symm.trans habout) ▸ hkey'
  · intro hok key hkey
    obtain ⟨child, hchild, rfl⟩ := List.mem_map.mp hkey
    rcases hpass : u.pass (applyAll p.space p.children) ⟨s, []⟩ with ⟨stop | applied, left⟩
    · rw [hpass] at hok
      cases hok
    · exact mem_keys_of_applyAll hpass child hchild

/-- Two deployments of different names or namespaces ask for a common key only if one of them, in
the same namespace, is named like the headless service of the other one, which is a cluster, and
then for a service only. In that case they do so whenever their children are all applied. -/
theorem ensure_shares_iff {domain domain' : String} {d d' : Declaration} {p q : Plan}
    (hp : Plan.ofDeclaration d domain = .ok p) (hq : Plan.ofDeclaration d' domain' = .ok q)
    (different : (p.space, p.name) ≠ (q.space, q.name)) (u v : Surroundings) (s s' : Store) :
    let mine := u.pass (ensure domain d) ⟨s, []⟩
    let theirs := v.pass (ensure domain' d') ⟨s', []⟩
    (∀ key ∈ mine.2.keys, key ∈ theirs.2.keys → key.kind = .service ∧ p.SharesService q) ∧
      (mine.1.isOk → theirs.1.isOk → p.SharesService q →
        ∃ key ∈ mine.2.keys, key ∈ theirs.2.keys) := by
  intro mine theirs
  obtain ⟨honly, hall⟩ := keys_ensure hp u s
  obtain ⟨honly', hall'⟩ := keys_ensure hq v s'
  constructor
  · intro key hmine htheirs
    have hkey := honly key hmine
    have hkey' := honly' key htheirs
    refine ⟨?_, (Plan.mem_keys_both_iff different).mp ⟨key, hkey, hkey'⟩⟩
    rcases Plan.eq_service_of_mem_keys different hkey hkey' with ⟨-, rfl, -⟩ | ⟨-, rfl, -⟩ <;> rfl
  · intro hok hok' shares
    obtain ⟨key, hkey, hkey'⟩ := (Plan.mem_keys_both_iff different).mpr shares
    exact ⟨key, hall hok key hkey, hall' hok' key hkey'⟩

end Surroundings

/-- A single server that is named like the headless service of a cluster. -/
def Declaration.neighbourSample : Declaration where
  metadata := { name := some "nc-headless", space := some "default" }
  spec := { type := "standalone", database := { type := "embedded" } }

open Declaration in
theorem Declaration.neighbourSample_shares :
    ∃ p q, Plan.ofDeclaration peersSample "cluster.local" = .ok p ∧
      Plan.ofDeclaration neighbourSample "cluster.local" = .ok q ∧
      (p.space, p.name) ≠ (q.space, q.name) ∧ p.SharesService q ∧
      ∃ key ∈ (Surroundings.well.pass (ensure "cluster.local" peersSample) ⟨{}, []⟩).2.keys, key ∈
        (Surroundings.well.pass (ensure "cluster.local" neighbourSample) ⟨{}, []⟩).2.keys := by
  obtain ⟨p, hp⟩ : ∃ p, Plan.ofDeclaration peersSample "cluster.local" = .ok p := ⟨_, rfl⟩
  obtain ⟨q, hq⟩ : ∃ q, Plan.ofDeclaration neighbourSample "cluster.local" = .ok q := ⟨_, rfl⟩
  obtain ⟨-, hpname, hpspace, hpmode, -⟩ := Plan.ofDeclaration_eq_ok hp
  obtain ⟨-, hqname, hqspace, -⟩ := Plan.ofDeclaration_eq_ok hq
  have hpname : p.name = "nc" := hpname
  have hqname : q.name = "nc-headless" := hqname
  have hspace : p.space = q.space := Option.some.inj (hpspace.symm.trans hqspace)
  have hmode : p.mode = .cluster := (Except.ok.inj hpmode).symm
  have different : (p.space, p.name) ≠ (q.space, q.name) := by
    rw [hpname, hqname]
    exact fun heq => absurd (show "nc" = "nc-headless" from congrArg Prod.snd heq) (by decide)
  have hheadless : q.name = p.headlessName := by
    rw [Plan.headlessName, hpname, hqname]
    rfl
  have shares : p.SharesService q := ⟨hspace, .inl ⟨hmode, hheadless⟩⟩
  exact ⟨p, q, hp, hq, different, shares,
    (Surroundings.ensure_shares_iff hp hq different Surroundings.well Surroundings.well {} {}).2
      rfl rfl shares⟩

end ClusterOperator
