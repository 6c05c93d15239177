import ClusterOperator.Proofs.Children.Apply
import ClusterOperator.Proofs.Stores.Versions

/-!
# No update is lost

Other clients may write between the look-up of a child and the write that follows it. A child is
then created only if there still is none, and updated only if the stored document still is the one
that was looked up. In every other case the write is refused: the store stays as the other clients
left it, and there is no second try.

## Main definitions

* `Surroundings.ClientsOnly`: other clients go through the store like everybody else.
* `Child.Ends`: how applying a child ends among other clients.

## Main results

* `Surroundings.Smooth.apply_loses_no_update`: no write of another client is undone.
-/

namespace ClusterOperator

namespace Store

/-! ### Refusals that are conflicts -/

/-- Whether a write was refused because of a document that it did not know of. -/
def Refusal.isConflict : Refusal → Bool
  | taken _ | stale _ => true
  | missing _ | undecodable _ => false

/-- Conflicts are told as conflicts. -/
theorem Refusal.isConflict_error (r : Refusal) : r.error.isConflict = r.isConflict := by
  cases r <;> rfl

/-! ### Updates by version -/

variable {s s' s'' : Store} {k : Kind} {space : String} {o o' : k.Object} {j : Json}

/-- An update succeeds only by a write. -/
theorem update_eq_ok {stored : k.Object} (h : (s.update k space o).1 = .ok stored) :
    (s.update k space o).2 = (s.write (keyOf k space o) o).2 := by
  cases hfound : s.get? (keyOf k space o) with
  | none => cases (congrArg Prod.fst (update_missing hfound)).symm.trans h
  | some j =>
    by_cases hv : versionOf j = (k.metadata o).resourceVersion
    · rw [update_current hfound hv]
    · cases (congrArg Prod.fst (update_stale hfound hv)).symm.trans h

/-- An update with the version of an earlier document fails if this one is not stored any more. -/
theorem Versioned.update_refused (versioned : s.Versioned) (follows : s.Follows s')
    (hk : k ≠ .declaration) (hj : s.get? (keyOf k space o) = some j)
    (hversion : (k.metadata o).resourceVersion = versionOf j)
    (changed : s'.get? (keyOf k space o) ≠ some j) :
    ∃ refusal, s'.update k space o = (.error refusal, s') ∧
      refusal.isConflict = (s'.get? (keyOf k space o)).isSome := by
  cases hj' : s'.get? (keyOf k space o) with
  | none => exact ⟨_, update_missing hj', rfl⟩
  | some j' =>
    refine ⟨_, update_stale hj' fun heq => ?_, rfl⟩
    have hsame := versioned.eq_of_version follows hk hj hj' (heq.trans hversion)
    exact changed (hsame ▸ hj')

/-- Of two updates with the version of one document, the later one fails if the first succeeds. -/
theorem Versioned.second_update_refused (versioned : s.Versioned) (hk : k ≠ .declaration)
    (hkey : keyOf k space o' = keyOf k space o) (hj : s.get? (keyOf k space o) = some j)
    (hversion : (k.metadata o').resourceVersion = versionOf j) (steps : ClientSteps s s')
    {stored : k.Object} (first : (s'.update k space o).1 = .ok stored)
    (later : ClientSteps (s'.update k space o).2 s'') :
    ∃ refusal, s''.update k space o' = (.error refusal, s'') := by
  have hwrite := update_eq_ok first
  have versioned' := versioned.of_steps (steps.tail (.requested (.update k space o)))
  have hfollows : (s'.write (keyOf k space o) o).2.Follows s'' :=
    hwrite ▸ follows_of_steps versioned' later
  cases hj'' : s''.get? (keyOf k space o') with
  | none => exact ⟨_, update_missing hj''⟩
  | some j'' =>
    have hstale := versioned.stale_of_write (follows_of_steps versioned steps) hfollows hk hj
      (hkey ▸ hj'')
    exact ⟨_, update_stale hj'' fun heq => hstale (heq.trans hversion)⟩

end Store

/-! ### Among other clients -/

/-- How applying a child ends among other clients: its result, the store that it leaves and the
requests that it makes. The child is looked up in one store; the store that a write meets may be
another one. -/
inductive Child.Ends (c : Child) (space : String) (want : c.Object) (read : Store)
    (met : Request → Store) : Except Stop Applied → Store → List Request → Prop
  | unreadable (e : Error) {problem : Store.Refusal}
      (found : read.get c.kind space (c.kind.metadata want).displayName = .error problem) :
      Ends c space want read met (.error (.error e)) read [childGet space ⟨c, want⟩]
  | unchanged {live : c.Object}
      (found : read.get c.kind space (c.kind.metadata want).displayName = .ok (some live))
      (settled : c.drifted want live = false) :
      Ends c space want read met (.ok .unchanged) read [childGet space ⟨c, want⟩]
  | created (absent : read.get? (childKey space ⟨c, want⟩) = none)
      (free : (met (.create c.kind space want)).get? (childKey space ⟨c, want⟩) = none) :
      Ends c space want read met (.ok .created)
        ((met (.create c.kind space want)).write (childKey space ⟨c, want⟩) want).2
        [childGet space ⟨c, want⟩, .create c.kind space want]
  | taken (absent : read.get? (childKey space ⟨c, want⟩) = none) {j : Json}
      (present : (met (.create c.kind space want)).get? (childKey space ⟨c, want⟩) = some j)
      {e : Error} (conflict : e.isConflict = true) :
      Ends c space want read met (.error (.error e)) (met (.create c.kind space want))
        [childGet space ⟨c, want⟩, .create c.kind space want]
  | updated {live : c.Object}
      (found : read.get c.kind space (c.kind.metadata want).displayName = .ok (some live))
      (drifted : c.drifted want live = true)
      (same : (met (.update c.kind space (c.adopt want live))).get? (childKey space ⟨c, want⟩) =
        read.get? (childKey space ⟨c, want⟩)) :
      Ends c space want read met (.ok .updated)
        ((met (.update c.kind space (c.adopt want live))).write
          (childKey space ⟨c, c.adopt want live⟩) (c.adopt want live)).2
        [childGet space ⟨c, want⟩, .update c.kind space (c.adopt want live)]
  | overtaken {live : c.Object}
      (found : read.get c.kind space (c.kind.metadata want).displayName = .ok (some live))
      (drifted : c.drifted want live = true)
      (changed : (met (.update c.kind space (c.adopt want live))).get? (childKey space ⟨c, want⟩) ≠
        read.get? (childKey space ⟨c, want⟩))
      {e : Error} (conflict : e.isConflict =
        ((met (.update c.kind space (c.adopt want live))).get?
          (childKey space ⟨c, want⟩)).isSome) :
      Ends c space want read met (.error (.error e))
        (met (.update c.kind space (c.adopt want live)))
        [childGet space ⟨c, want⟩, .update c.kind space (c.adopt want live)]

namespace Surroundings

variable {u : Surroundings} {c : Child} {space : String} {want : c.Object} {scene : Scene}

/-- Other clients do to the store what clients do. -/
def ClientsOnly (u : Surroundings) : Prop :=
  ∀ earlier r s, Store.ClientSteps s (u.others earlier r s)

/-- The store's refusals are told as conflicts where they are. -/
def TellsConflicts (u : Surroundings) : Prop := ∀ r, (u.refusal r).isConflict = r.isConflict

namespace Smooth

theorem pass_request_of_ok (smooth : u.Smooth) {r : Request} {a : r.Result} {left : Store}
    (h : (u.others scene.calls r scene.store).answer r = (.ok a, left)) :
    u.pass (Pass.request r) scene = (.ok a, ⟨left, scene.calls ++ [.request r]⟩) := by
  rw [Surroundings.pass_request, requested, smooth.answer, h]
  rfl

theorem pass_request_of_error (smooth : u.Smooth) {r : Request} {refusal : Store.Refusal}
    {left : Store} (h : (u.others scene.calls r scene.store).answer r = (.error refusal, left)) :
    u.pass (Pass.request r) scene =
      (.error (.error (u.refusal refusal)), ⟨left, scene.calls ++ [.request r]⟩) := by
  rw [Surroundings.pass_request, requested, smooth.answer, h]
  rfl

/-- A child that was missing is created if it is missing still. -/
theorem create_ends (smooth : u.Smooth) (tells : u.TellsConflicts) (scene : Scene)
    (absent : scene.store.get? (childKey space ⟨c, want⟩) = none) :
    ∃ result left, u.pass (do let _ ← Pass.request (.create c.kind space want); return .created)
        scene = (result, ⟨left, scene.calls ++ [.request (.create c.kind space want)]⟩) ∧
      c.Ends space want scene.store (u.others scene.calls · scene.store) result left
        [childGet space ⟨c, want⟩, .create c.kind space want] := by
  let found := u.others scene.calls (.create c.kind space want) scene.store
  cases hfound : found.get? (childKey space ⟨c, want⟩) with
  | none =>
    have hcreate : found.answer (.create c.kind space want) = _ := Store.create_fresh hfound
    exact ⟨_, _, u.pass_bind_of_ok (smooth.pass_request_of_ok hcreate) _, .created absent hfound⟩
  | some j =>
    have hcreate : found.answer (.create c.kind space want) = _ := Store.create_taken hfound
    exact ⟨_, _, u.pass_bind_of_error (smooth.pass_request_of_error hcreate) _,
      .taken absent hfound (tells _)⟩

/-- A child that had drifted is updated if the document that was found is stored still. -/
theorem update_ends (smooth : u.Smooth) (clients : u.ClientsOnly) (tells : u.TellsConflicts)
    (scene : Scene) (versioned : scene.store.Versioned) {live : c.Object}
    (read : scene.store.get c.kind space (c.kind.metadata want).displayName = .ok (some live))
    (drifted : c.drifted want live = true) :
    ∃ result left, u.pass
        (do let _ ← Pass.request (.update c.kind space (c.adopt want live)); return .updated)
        scene = (result,
          ⟨left, scene.calls ++ [.request (.update c.kind space (c.adopt want live))]⟩) ∧
      c.Ends space want scene.store (u.others scene.calls · scene.store) result left
        [childGet space ⟨c, want⟩, .update c.kind space (c.adopt want live)] := by
  obtain ⟨j, hj, hread⟩ := Store.get_eq_ok_some.mp read
  have hadopt : Store.keyOf c.kind space (c.adopt want live) = childKey space ⟨c, want⟩ :=
    c.keyOf_adopt space want live
  have hversion : (c.kind.metadata (c.adopt want live)).resourceVersion = Store.versionOf j :=
    (c.resourceVersion_adopt want live).trans
      (Store.versionOf_eq (versioned.tidy _ j hj) hread).symm
  let found := u.others scene.calls (.update c.kind space (c.adopt want live)) scene.store
  have hsteps : Store.ClientSteps scene.store found := clients _ _ _
  by_cases hsame : found.get? (childKey space ⟨c, want⟩) = some j
  · have hupdate : found.answer (.update c.kind space (c.adopt want live)) = _ :=
      Store.update_current ((congrArg found.get? hadopt).trans hsame) hversion.symm
    exact ⟨_, _, u.pass_bind_of_ok (smooth.pass_request_of_ok hupdate) _,
      .updated read drifted (hsame.trans hj.symm)⟩
  · obtain ⟨refusal, hupdate, hconflict⟩ := versioned.update_refused
      (Store.follows_of_steps versioned hsteps) c.kind_ne_declaration (hadopt.symm ▸ hj) hversion
      (hadopt.symm ▸ hsame)
    have hanswer : found.answer (.update c.kind space (c.adopt want live)) = _ := hupdate
    rw [hadopt] at hconflict
    exact ⟨_, _, u.pass_bind_of_error (smooth.pass_request_of_error hanswer) _,
      .overtaken read drifted (hj ▸ hsame) ((tells refusal).trans hconflict)⟩

/-- How applying a child ends among other clients. -/
theorem apply_ends (smooth : u.Smooth) (clients : u.ClientsOnly) (tells : u.TellsConflicts)
    {read : Store} (hothers : u.others scene.calls (childGet space ⟨c, want⟩) scene.store = read)
    (versioned : read.Versioned) :
    ∃ result left requests,
      u.pass (apply c space want) scene = (result, ⟨left, scene.calls ++ requests.map .request⟩) ∧
      c.Ends space want read
        (u.others (scene.calls ++ [.request (childGet space ⟨c, want⟩)]) · read)
        result left requests := by
  let get := childGet space ⟨c, want⟩
  let after : Scene := ⟨read, scene.calls ++ [.request get]⟩
  have hanswer : u.answer get scene =
      ((read.get c.kind space (c.kind.metadata want).displayName).mapError u.refusal, read) := by
    rw [smooth.answer, hothers]
    rfl
  have hafter : u.requested get scene = after :=
    congrArg (fun left => (⟨left, after.calls⟩ : Scene)) (congrArg Prod.snd hanswer)
  -- the look-up and the write are two calls, one after the other
  have hcalls : ∀ r, after.calls ++ [.request r] = scene.calls ++ [get, r].map .request :=
    fun r => List.append_assoc _ [_] _
  cases hget : read.get c.kind space (c.kind.metadata want).displayName with
  | error problem =>
    rw [hget] at hanswer
    have hpass := u.pass_apply_of_error (congrArg Prod.fst hanswer)
    exact ⟨_, _, [get], hpass.trans (congrArg (Prod.mk _) hafter), .unreadable _ hget⟩
  | ok found =>
    rw [hget] at hanswer
    have hfound : (u.answer get scene).1 = .ok found := congrArg Prod.fst hanswer
    cases found with
    | none =>
      obtain ⟨result, left, hcreate, hends⟩ :=
        smooth.create_ends tells after (Store.get_eq_ok_none.mp hget)
      rw [hcalls] at hcreate
      exact ⟨result, left, _, (u.pass_apply_of_none hfound).trans (hafter ▸ hcreate), hends⟩
    | some live =>
      cases hdrifted : c.drifted want live with
      | false =>
        have hpass := u.pass_apply_of_settled hfound hdrifted
        exact ⟨_, _, [get], hpass.trans (congrArg (Prod.mk _) hafter), .unchanged hget hdrifted⟩
      | true =>
        obtain ⟨result, left, hupdate, hends⟩ :=
          smooth.update_ends clients tells after versioned hget hdrifted
        rw [hcalls] at hupdate
        exact ⟨result, left, _, (u.pass_apply_of_drifted hfound hdrifted).trans (hafter ▸ hupdate),
          hends⟩

/-- Applying a child among other clients creates it only if it is missing at that moment, updates it
only if the document that was looked up is stored at that moment, and otherwise fails and leaves the
store to the other clients, with one look-up and at most one write. Of two updates that were made
from one look-up, the later one is refused if the first succeeds. -/
theorem apply_loses_no_update (smooth : u.Smooth) (clients : u.ClientsOnly)
    (tells : u.TellsConflicts) (c : Child) (space : String) (want : c.Object) (scene : Scene)
    (versioned : scene.store.Versioned) :
    let read := u.others scene.calls (childGet space ⟨c, want⟩) scene.store
    (∃ result left requests,
      u.pass (apply c space want) scene = (result, ⟨left, scene.calls ++ requests.map .request⟩) ∧
      c.Ends space want read
        (u.others (scene.calls ++ [.request (childGet space ⟨c, want⟩)]) · read)
        result left requests) ∧
    ∀ (live first second : c.Object) (s s' : Store) (stored : c.Object),
      read.get c.kind space (c.kind.metadata want).displayName = .ok (some live) →
      childKey space ⟨c, first⟩ = childKey space ⟨c, want⟩ →
      childKey space ⟨c, second⟩ = childKey space ⟨c, want⟩ →
      Store.ClientSteps read s →
      (s.update c.kind space (c.adopt first live)).1 = .ok stored →
      Store.ClientSteps (s.update c.kind space (c.adopt first live)).2 s' →
      ∃ refusal, s'.update c.kind space (c.adopt second live) = (.error refusal, s') := by
  intro read
  have hread : read.Versioned := versioned.of_steps (clients _ _ _)
  refine ⟨smooth.apply_ends clients tells rfl hread, ?_⟩
  intro live first second s s' stored hget hfirst hsecond hsteps hdone hlater
  obtain ⟨j, hj, hlive⟩ := Store.get_eq_ok_some.mp hget
  have hversion : (c.kind.metadata live).resourceVersion = Store.versionOf j :=
    (Store.versionOf_eq (hread.tidy _ j hj) hlive).symm
  have hkeyFirst := (c.keyOf_adopt space first live).trans hfirst
  have hkeySecond := (c.keyOf_adopt space second live).trans hsecond
  exact hread.second_update_refused c.kind_ne_declaration (hkeySecond.trans hkeyFirst.symm)
    (hkeyFirst.symm ▸ hj) ((c.resourceVersion_adopt second live).trans hversion) hsteps hdone
    hlater

end Smooth

end Surroundings

/-! ### A configuration map that is deleted and created again -/

namespace Kubernetes.ConfigMap

/-- A configuration map with one text. -/
def textSample (text : String) : ConfigMap where
  metadata := { name := some "nc" }
  data := some (.ofList [("application.properties", text)])

/-- The store in which it is the only object. -/
def textStore : Store := (Store.write {} ⟨.configMap, "default", "nc"⟩ (textSample "a")).2

/-- Another client deletes the configuration map and creates it again. -/
def recreate (s : Store) : Store :=
  ((s.answer (.delete .configMap "default" "nc")).2.answer
    (.create .configMap "default" (textSample "a"))).2

/-- The surroundings in which this happens before an update. -/
def recreating : Surroundings :=
  { Surroundings.well with
    others := fun _ r s =>
      match r with
      | .update _ _ _ => recreate s
      | _ => s }

theorem recreating_clientsOnly : recreating.ClientsOnly := by
  intro earlier r s
  cases r with
  | update => exact .tail (.single (.requested _)) (.requested _)
  | _ => exact .refl

theorem textStore_versioned : textStore.Versioned :=
  (Store.Change.write {} ⟨.configMap, "default", "nc"⟩ (textSample "a")).versioned
    Store.versioned_empty

end Kubernetes.ConfigMap

open Kubernetes.ConfigMap in
theorem Child.textSample_overtaken :
    recreating.Smooth ∧ recreating.ClientsOnly ∧ recreating.TellsConflicts ∧
      textStore.Versioned ∧
      ∃ e left, recreating.pass (apply .configMap "default" (textSample "b")) ⟨textStore, []⟩ =
          (.error (.error e), left) ∧
        e.isConflict = true ∧ left.store = recreate textStore ∧ left.calls.length = 2 := by
  have hsmooth : recreating.Smooth := fun _ _ => rfl
  have htells : recreating.TellsConflicts := Store.Refusal.isConflict_error
  refine ⟨hsmooth, recreating_clientsOnly, htells, textStore_versioned, ?_⟩
  obtain ⟨⟨result, left, requests, hpass, hends⟩, -⟩ :=
    hsmooth.apply_loses_no_update recreating_clientsOnly htells .configMap "default"
      (textSample "b") ⟨textStore, []⟩ textStore_versioned
  have hstored : textStore.get? ⟨.configMap, "default", "nc"⟩ = some (Document.write
      (Kind.withVersion .configMap (some "1") (textSample "a"))) := Store.get?_write_self _ _ _
  have hread : textStore.get .configMap "default" "nc" = .ok (some _) :=
    Store.get_of_written (c := .configMap) hstored
  have hrecreated : (recreate textStore).get? ⟨.configMap, "default", "nc"⟩ = some (Document.write
      (Kind.withVersion .configMap (some "2") (textSample "a"))) := rfl
  cases hends with
  | unreadable e found => cases hread.symm.trans found
  | unchanged found settled =>
    cases hread.symm.trans found
    cases settled
  | created absent => cases hstored.symm.trans absent
  | taken absent => cases hstored.symm.trans absent
  | updated found drifted same =>
    cases hread.symm.trans found
    have hsame : some _ = some _ := hrecreated.symm.trans (same.trans hstored)
    have hversions : some "2" = some "1" := congrArg Store.versionOf (Option.some.inj hsame)
    exact absurd hversions (by decide)
  | overtaken found drifted changed conflict =>
    cases hread.symm.trans found
    exact ⟨_, _, hpass, conflict, rfl, rfl⟩

end ClusterOperator
