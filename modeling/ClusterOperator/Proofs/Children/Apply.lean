import ClusterOperator.Apply
import ClusterOperator.Proofs.Drift.Settled
import ClusterOperator.Proofs.Surroundings.Frame

/-!
# Applying a child

What applying a child comes to. Its document is created where there is none, replaced where it has
drifted, and left alone otherwise; a failure on the way leaves it as it was, unless only the answer
was lost. In calm surroundings nothing but a document that cannot be read stops it.

## Main definitions

* `childKey`: the key under which a child is stored.
* `Child.Settles`: what applying a child makes of the document under its key.
* `Call.AllowsChild`: kinds of calls that are enough to apply a child.

## Main results

* `Surroundings.apply_attempted`, `Surroundings.applyAll_attempted`: the documents of children that
  were applied, in any surroundings.
* `Surroundings.Calm.apply_created`, `Surroundings.Calm.apply_updated`,
  `Surroundings.Calm.apply_unchanged`: what a child comes to in calm surroundings.
* `Surroundings.Calm.applyAll_ok`: children are applied if what is stored can be read.
* `Surroundings.Smooth.applyAll_unchanged`: children that have not drifted are left alone.
-/

namespace ClusterOperator

open Kubernetes

/-- The key under which a child is stored. -/
def childKey (space : String) (child : (c : Child) × c.Object) : Key :=
  Store.keyOf child.1.kind space child.2

theorem Child.kind_ne_pod (c : Child) : c.kind ≠ .pod := by cases c <;> nofun

theorem Child.kind_ne_declaration (c : Child) : c.kind ≠ .declaration := by cases c <;> nofun

/-- How a child is asked for. -/
def childGet (space : String) (child : (c : Child) × c.Object) : Request :=
  .get child.1.kind space (child.1.kind.metadata child.2).displayName

/-! ### Single requests -/

/-- The document that was written under a key is read back. -/
theorem Store.get_of_written {s : Store} {c : Child} {space name : String} {o : c.Object}
    (h : s.get? ⟨c.kind, space, name⟩ = some (Document.write o)) :
    s.get c.kind space name = .ok (some (Document.reread o)) :=
  Store.get_eq_ok_some.mpr ⟨_, h, Document.read_write c.wellFormed o⟩

namespace Surroundings

variable {u : Surroundings} {keys : Key → Prop} {scene : Scene}

/-- An object is created, or nothing changes and the request fails. -/
theorem answer_create (spares : u.Spares keys) {k : Kind} {space : String} {o : k.Object}
    (hkey : keys (Store.keyOf k space o))
    (h : scene.store.get? (Store.keyOf k space o) = none) :
    ((u.answer (.create k space o) scene).2.get? (Store.keyOf k space o) = none ∧
        ∃ e, (u.answer (.create k space o) scene).1 = .error e) ∨
      ∃ version, (u.answer (.create k space o) scene).2.get? (Store.keyOf k space o) =
        some (Document.write (k.withVersion version o)) := by
  have hothers := (spares scene.calls (.create k space o) scene.store _ hkey).trans h
  rcases u.answer_store (.create k space o) scene with hstore | ⟨hstore, herror⟩
  · have hcreate := hstore.trans (congrArg Prod.snd (Store.create_fresh hothers))
    exact .inr ⟨_, (congrArg (Store.get? · (Store.keyOf k space o)) hcreate).trans
      (Store.get?_write_self _ (Store.keyOf k space o) o)⟩
  · exact .inl ⟨hstore ▸ hothers, herror⟩

/-- An object is updated, or nothing changes and the request fails. -/
theorem answer_update (spares : u.Spares keys) {k : Kind} {space : String} {o : k.Object}
    (hkey : keys (Store.keyOf k space o)) {j : Json}
    (h : scene.store.get? (Store.keyOf k space o) = some j) :
    ((u.answer (.update k space o) scene).2.get? (Store.keyOf k space o) = some j ∧
        ∃ e, (u.answer (.update k space o) scene).1 = .error e) ∨
      ∃ version, (u.answer (.update k space o) scene).2.get? (Store.keyOf k space o) =
        some (Document.write (k.withVersion version o)) := by
  have hothers := (spares scene.calls (.update k space o) scene.store _ hkey).trans h
  rcases u.answer_store (.update k space o) scene with hstore | ⟨hstore, herror⟩
  · by_cases hv : Store.versionOf j = (k.metadata o).resourceVersion
    · have hupdate := hstore.trans (congrArg Prod.snd (Store.update_current hothers hv))
      exact .inr ⟨_, (congrArg (Store.get? · (Store.keyOf k space o)) hupdate).trans
      (Store.get?_write_self _ (Store.keyOf k space o) o)⟩
    · have hstale := Store.update_stale hothers hv
      refine .inl ⟨(hstore.trans (congrArg Prod.snd hstale)) ▸ hothers, ?_⟩
      cases hresult : (u.answer (.update k space o) scene).1 with
      | error e => exact ⟨e, rfl⟩
      | ok a => cases (congrArg Prod.fst hstale).symm.trans (answer_eq_ok hresult)
  · exact .inl ⟨hstore ▸ hothers, herror⟩

end Surroundings

/-! ### One child -/

namespace Child

/-- What applying a child makes of the document under its key. -/
inductive Settles (c : Child) (want : c.Object) : Option Json → Option Json → Prop
  | created (version : Option String) :
      Settles c want none (some (Document.write (c.kind.withVersion version want)))
  | updated {j : Json} {live : c.Object} (version : Option String)
      (read : Document.read c.Object j = .ok live) (drifted : c.drifted want live = true) :
      Settles c want (some j)
        (some (Document.write (c.kind.withVersion version (c.adopt want live))))
  | unchanged {j : Json} {live : c.Object} (read : Document.read c.Object j = .ok live)
      (settled : c.drifted want live = false) : Settles c want (some j) (some j)

/-- A document that was settled can be read, and its object has not drifted unless it took over an
address of another kind. -/
theorem Settles.read {c : Child} {want : c.Object} {before after : Option Json}
    (h : c.Settles want before after) (proper : Document.Proper want) :
    ∃ j live, after = some j ∧ Document.read c.Object j = .ok live ∧
      (c.drifted want live = false ∨ ∃ old oldLive, before = some old ∧
        Document.read c.Object old = .ok oldLive ∧ c.addressDiffers want oldLive = true) := by
  cases h with
  | created version =>
    exact ⟨_, _, rfl, Document.read_write c.wellFormed _, .inl (drifted_created proper version)⟩
  | @updated old oldLive version hread hdrifted =>
    refine ⟨_, _, rfl, Document.read_write c.wellFormed _, ?_⟩
    have hafter := drifted_updated proper oldLive version
    cases hdiffers : c.addressDiffers want oldLive with
    | true => exact .inr ⟨old, oldLive, rfl, hread, hdiffers⟩
    | false => exact .inl (hafter.trans hdiffers)
  | @unchanged j live hread hsettled => exact ⟨j, live, rfl, hread, .inl hsettled⟩

theorem displayName_adopt (c : Child) (want live : c.Object) :
    (c.kind.metadata (c.adopt want live)).displayName = (c.kind.metadata want).displayName := by
  cases c with
  | configMap => rfl
  | statefulSet =>
    obtain ⟨metadata, spec, others⟩ := want
    obtain ⟨liveMetadata, liveSpec, liveOthers⟩ := live
    cases spec <;> cases liveSpec <;> rfl
  | service =>
    obtain ⟨metadata, spec, others⟩ := want
    obtain ⟨liveMetadata, liveSpec, liveOthers⟩ := live
    cases spec <;> cases liveSpec <;> rfl

theorem keyOf_adopt (c : Child) (space : String) (want live : c.Object) :
    Store.keyOf c.kind space (c.adopt want live) = Store.keyOf c.kind space want :=
  congrArg (fun name => (⟨c.kind, space, name⟩ : Key)) (c.displayName_adopt want live)

theorem resourceVersion_adopt (c : Child) (want live : c.Object) :
    (c.kind.metadata (c.adopt want live)).resourceVersion =
      (c.kind.metadata live).resourceVersion := by
  cases c <;> rfl

end Child

/-- Calls of a kind are enough to apply a child: to get it, to create it and to update it. -/
structure Call.AllowsChild (P : Call → Prop) (space : String) (child : (c : Child) × c.Object) :
    Prop where
  get : P (.request (childGet space child))
  create : P (.request (.create child.1.kind space child.2))
  update : ∀ live, P (.request (.update child.1.kind space (child.1.adopt child.2 live)))

/-- What is adopted keeps the key of its child, so an update leaves other documents alone. -/
theorem Call.allowsChild_spares {space : String} {child : (c : Child) × c.Object} {key : Key}
    (h : childKey space child ≠ key) : AllowsChild (Spares key) space child where
  get := .inl rfl
  create := .inr h
  update live := .inr fun heq => h ((child.1.keyOf_adopt space child.2 live).symm.trans heq)

/-- What a try makes of the document of a child: it is settled, or it is as it was and the try did
not come to its end. -/
def Child.Attempted (c : Child) (want : c.Object) (before after : Option Json) (ended : Bool) :
    Prop :=
  (after = before ∧ ended = false) ∨ c.Settles want before after

theorem Child.Attempted.settles {c : Child} {want : c.Object} {before after : Option Json}
    (h : c.Attempted want before after true) : c.Settles want before after := by
  rcases h with ⟨-, hended⟩ | hsettles
  · cases hended
  · exact hsettles

/-- An update with what was adopted from the stored object succeeds. -/
theorem Store.answer_adopted {s : Store} {space : String} {c : Child} {want live : c.Object}
    (tidy : s.Tidy) (h : s.get c.kind space (c.kind.metadata want).displayName = .ok (some live)) :
    s.answer (.update c.kind space (c.adopt want live)) =
      (.ok (s.write (childKey space ⟨c, c.adopt want live⟩) (c.adopt want live)).1,
        (s.write (childKey space ⟨c, c.adopt want live⟩) (c.adopt want live)).2) := by
  obtain ⟨j, hj, hread⟩ := Store.get_eq_ok_some.mp h
  have hadopt : Store.keyOf c.kind space (c.adopt want live) = childKey space ⟨c, want⟩ :=
    c.keyOf_adopt space want live
  have hversion : Store.versionOf j = (c.kind.metadata (c.adopt want live)).resourceVersion :=
    (Store.versionOf_eq (tidy _ j hj) hread).trans (c.resourceVersion_adopt want live).symm
  exact Store.update_current ((congrArg s.get? hadopt).trans hj) hversion

namespace Surroundings

variable {u : Surroundings} {keys : Key → Prop} {space : String}

/-! #### The steps of applying a child -/

section Steps

variable (u) {c : Child} {want live : c.Object} {scene : Scene}

theorem pass_apply_of_error {e : Error}
    (h : (u.answer (childGet space ⟨c, want⟩) scene).1 = .error e) :
    u.pass (apply c space want) scene =
      (.error (.error e), u.requested (childGet space ⟨c, want⟩) scene) :=
  u.pass_bind_of_error (u.pass_request_of_error h) _

/-- After a child was not found it is created. -/
theorem pass_apply_of_none (h : (u.answer (childGet space ⟨c, want⟩) scene).1 = .ok none) :
    u.pass (apply c space want) scene =
      u.pass (do let _ ← Pass.request (.create c.kind space want); return .created)
        (u.requested (childGet space ⟨c, want⟩) scene) :=
  u.pass_bind_of_ok (u.pass_request_of_ok h) _

/-- After a child was found that has drifted it is updated. -/
theorem pass_apply_of_drifted
    (h : (u.answer (childGet space ⟨c, want⟩) scene).1 = .ok (some live))
    (drifted : c.drifted want live = true) :
    u.pass (apply c space want) scene =
      u.pass (do let _ ← Pass.request (.update c.kind space (c.adopt want live)); return .updated)
        (u.requested (childGet space ⟨c, want⟩) scene) := by
  refine (u.pass_bind_of_ok (u.pass_request_of_ok h) _).trans ?_
  simp only [drifted, if_true]

/-- After a child was found that has not drifted nothing is done. -/
theorem pass_apply_of_settled
    (h : (u.answer (childGet space ⟨c, want⟩) scene).1 = .ok (some live))
    (settled : c.drifted want live = false) :
    u.pass (apply c space want) scene =
      (.ok .unchanged, u.requested (childGet space ⟨c, want⟩) scene) := by
  refine (u.pass_bind_of_ok (u.pass_request_of_ok h) _).trans ?_
  simp only [settled, Bool.false_eq_true, if_false]
  rfl

end Steps

/-- An object that is missing is created. -/
theorem create_attempted (spares : u.Spares keys) {c : Child} {want : c.Object}
    (hkey : keys (childKey space ⟨c, want⟩)) {scene : Scene}
    (h : scene.store.get? (childKey space ⟨c, want⟩) = none) :
    c.Attempted want none
      ((u.requested (.create c.kind space want) scene).store.get? (childKey space ⟨c, want⟩))
      (u.answer (.create c.kind space want) scene).1.isOk := by
  rcases answer_create spares hkey h with ⟨hsame, e, herror⟩ | ⟨version, hnew⟩
  · exact .inl ⟨hsame, herror ▸ rfl⟩
  · exact .inr (hnew ▸ .created version)

/-- An object that has drifted is updated. -/
theorem update_attempted (spares : u.Spares keys) {c : Child} {want live : c.Object}
    (hkey : keys (childKey space ⟨c, want⟩)) {scene : Scene} {j : Json}
    (h : scene.store.get? (childKey space ⟨c, want⟩) = some j)
    (read : Document.read c.Object j = .ok live) (drifted : c.drifted want live = true) :
    c.Attempted want (some j)
      ((u.requested (.update c.kind space (c.adopt want live)) scene).store.get?
        (childKey space ⟨c, want⟩))
      (u.answer (.update c.kind space (c.adopt want live)) scene).1.isOk := by
  have hadopt : Store.keyOf c.kind space (c.adopt want live) = childKey space ⟨c, want⟩ :=
    c.keyOf_adopt space want live
  have hwrite := answer_update spares (hadopt.symm ▸ hkey) ((congrArg _ hadopt).trans h)
  rw [hadopt] at hwrite
  rcases hwrite with ⟨hsame, e, herror⟩ | ⟨version, hnew⟩
  · exact .inl ⟨hsame, herror ▸ rfl⟩
  · exact .inr (hnew ▸ .updated version read drifted)

theorem isOk_request {r : Request} {β : Type} (f : r.Result → β) (scene : Scene) :
    (((u.pass (Pass.request r) scene).1).map f).isOk = (u.answer r scene).1.isOk := by
  rw [pass_request]
  cases (u.answer r scene).1 <;> rfl

/-- Applying a child settles its document, or does not come to its end and leaves it as it was. -/
theorem apply_attempted (spares : u.Spares keys) (c : Child) (want : c.Object)
    (hkey : keys (childKey space ⟨c, want⟩)) (scene : Scene) :
    c.Attempted want (scene.store.get? (childKey space ⟨c, want⟩))
      ((u.pass (apply c space want) scene).2.store.get? (childKey space ⟨c, want⟩))
      (u.pass (apply c space want) scene).1.isOk := by
  let get := Request.get c.kind space (c.kind.metadata want).displayName
  have hsame : (u.requested get scene).store.get? (childKey space ⟨c, want⟩) =
      scene.store.get? (childKey space ⟨c, want⟩) := answer_get? spares hkey (.inl rfl) scene
  cases hanswer : (u.answer get scene).1 with
  | error e =>
    rw [u.pass_apply_of_error hanswer]
    exact .inl ⟨hsame, rfl⟩
  | ok found =>
    have hfound := answer_get spares hkey hanswer
    cases found with
    | none =>
      have hnone : scene.store.get? (childKey space ⟨c, want⟩) = none :=
        Store.get_eq_ok_none.mp hfound
      rw [u.pass_apply_of_none hanswer, pass_bind_pure, isOk_request, hnone]
      exact create_attempted spares hkey (hsame.trans hnone)
    | some live =>
      obtain ⟨j, hj, hread⟩ := Store.get_eq_ok_some.mp hfound
      have hj : scene.store.get? (childKey space ⟨c, want⟩) = some j := hj
      cases hdrifted : c.drifted want live with
      | true =>
        rw [u.pass_apply_of_drifted hanswer hdrifted, pass_bind_pure, isOk_request, hj]
        exact update_attempted spares hkey (hsame.trans hj) hread hdrifted
      | false =>
        rw [u.pass_apply_of_settled hanswer hdrifted]
        have hleft := hsame.trans hj
        exact .inr (hj.symm ▸ hleft.symm ▸ .unchanged hread hdrifted)

theorem apply_within {P : Call → Prop} {c : Child} {want : c.Object}
    (allows : Call.AllowsChild P space ⟨c, want⟩) : Pass.Within P (apply c space want) := by
  refine (Pass.within_request allows.get).bind fun found => ?_
  cases found with
  | none => exact (Pass.within_request allows.create).bind fun _ => Pass.within_pure _
  | some live =>
    simp only
    split
    · exact (Pass.within_request (allows.update live)).bind fun _ => Pass.within_pure _
    · exact Pass.within_pure _

/-- Applying a child leaves the documents under other keys alone. -/
theorem apply_spares {c : Child} {want : c.Object} {key : Key}
    (h : childKey space ⟨c, want⟩ ≠ key) : Pass.Within (Call.Spares key) (apply c space want) :=
  apply_within (Call.allowsChild_spares h)

/-! ### All children -/

variable {children : List ((c : Child) × c.Object)}

theorem applyAll_within {P : Call → Prop}
    (allows : ∀ child ∈ children, Call.AllowsChild P space child) :
    Pass.Within P (applyAll space children) := by
  induction children with
  | nil => exact Pass.within_pure _
  | cons child rest ih =>
    obtain ⟨hchild, hrest⟩ := List.forall_mem_cons.mp allows
    exact (apply_within hchild).bind fun _ => (ih hrest).bind fun _ => Pass.within_pure _

/-- Applying children leaves the documents under other keys alone. -/
theorem applyAll_spares {key : Key} (h : ∀ child ∈ children, childKey space child ≠ key) :
    Pass.Within (Call.Spares key) (applyAll space children) :=
  applyAll_within fun child hchild => Call.allowsChild_spares (h child hchild)

/-- Applying children settles the document of each; if it does not come to its end, some are left
as they were. -/
theorem applyAll_attempted (spares : u.Spares keys)
    (hkeys : ∀ child ∈ children, keys (childKey space child))
    (distinct : (children.map (childKey space)).Nodup) (scene : Scene) :
    ∀ child ∈ children, child.1.Attempted child.2 (scene.store.get? (childKey space child))
      ((u.pass (applyAll space children) scene).2.store.get? (childKey space child))
      (u.pass (applyAll space children) scene).1.isOk := by
  induction children generalizing scene with
  | nil => exact fun child hchild => nomatch hchild
  | cons first rest ih =>
    obtain ⟨hfirst, hrest⟩ := List.forall_mem_cons.mp hkeys
    obtain ⟨hne, distinct⟩ := List.nodup_cons.mp distinct
    have happly := apply_attempted spares first.1 first.2 hfirst scene
    -- The first child leaves the others alone, and they leave the first one alone.
    have hothers : ∀ child ∈ rest, (u.pass (apply first.1 space first.2) scene).2.store.get?
        (childKey space child) = scene.store.get? (childKey space child) := fun child hchild =>
      run_get? spares (hrest child hchild)
        (apply_spares fun heq => hne (heq ▸ List.mem_map_of_mem hchild)) scene
    have hfirstKept : ∀ middle, (u.pass (applyAll space rest) middle).2.store.get?
        (childKey space first) = middle.store.get? (childKey space first) := fun middle =>
      run_get? spares hfirst
        (applyAll_spares fun child hchild heq => hne (heq ▸ List.mem_map_of_mem hchild)) middle
    rw [applyAll]
    rcases hresult : u.pass (apply first.1 space first.2) scene with ⟨stop | applied, middle⟩
    · rw [u.pass_bind_of_error hresult]
      rw [hresult] at happly hothers
      exact List.forall_mem_cons.mpr ⟨happly, fun child hchild => .inl ⟨hothers child hchild, rfl⟩⟩
    · rw [u.pass_bind_of_ok hresult, pass_bind]
      rw [hresult] at happly hothers
      have hrests := ih hrest distinct middle
      have hkept := hfirstKept middle
      rcases hall : u.pass (applyAll space rest) middle with ⟨result, left⟩
      rw [hall] at hrests hkept
      have hfirstSettled : first.1.Settles first.2 (scene.store.get? (childKey space first))
          (left.store.get? (childKey space first)) := hkept ▸ happly.settles
      have hrestsAttempted : ∀ child ∈ rest, child.1.Attempted child.2
          (scene.store.get? (childKey space child)) (left.store.get? (childKey space child))
          result.isOk := fun child hchild => hothers child hchild ▸ hrests child hchild
      cases result with
      | error stop => exact List.forall_mem_cons.mpr ⟨.inr hfirstSettled, hrestsAttempted⟩
      | ok more => exact List.forall_mem_cons.mpr ⟨.inr hfirstSettled, hrestsAttempted⟩

/-! ### Children that have not drifted -/

namespace Smooth

/-- A child that has not drifted is left alone. -/
theorem apply_unchanged (smooth : u.Smooth) (spares : u.Spares keys) {c : Child}
    {want live : c.Object} (hkey : keys (childKey space ⟨c, want⟩)) {scene : Scene}
    (h : scene.store.get c.kind space (c.kind.metadata want).displayName = .ok (some live))
    (settled : c.drifted want live = false) :
    u.pass (apply c space want) scene =
      (.ok .unchanged, u.requested (childGet space ⟨c, want⟩) scene) := by
  have hget : (u.answer (childGet space ⟨c, want⟩) scene).1 = .ok (some live) :=
    smooth.answer_get spares hkey h
  exact u.pass_apply_of_settled hget settled

/-- Children that have not drifted are left alone: they are only looked up. -/
theorem applyAll_unchanged (smooth : u.Smooth) (spares : u.Spares keys)
    (hkeys : ∀ child ∈ children, keys (childKey space child)) (scene : Scene)
    (h : ∀ child ∈ children, ∃ live, scene.store.get child.1.kind space
      (child.1.kind.metadata child.2).displayName = .ok (some live) ∧
        child.1.drifted child.2 live = false) :
    ∃ left, u.pass (applyAll space children) scene =
        (.ok (children.map fun _ => .unchanged), left) ∧
      left.calls = scene.calls ++ children.map fun child => .request (childGet space child) := by
  induction children generalizing scene with
  | nil => exact ⟨scene, rfl, (List.append_nil _).symm⟩
  | cons first rest ih =>
    obtain ⟨hfirst, hrest⟩ := List.forall_mem_cons.mp hkeys
    obtain ⟨⟨live, hlive, hsettled⟩, hothers⟩ := List.forall_mem_cons.mp h
    have happly := smooth.apply_unchanged spares hfirst hlive hsettled
    have hkept : ∀ child ∈ rest, ∃ live, (u.requested (childGet space first) scene).store.get
        child.1.kind space (child.1.kind.metadata child.2).displayName = .ok (some live) ∧
          child.1.drifted child.2 live = false := fun child hchild => by
      obtain ⟨live, hlive, hsettled⟩ := hothers child hchild
      have hsame : (u.requested (childGet space first) scene).store.get? (childKey space child) =
          scene.store.get? (childKey space child) :=
        answer_get? spares (hrest child hchild) (.inl rfl) scene
      exact ⟨live, (Store.get_congr hsame).trans hlive, hsettled⟩
    obtain ⟨left, hall, hcalls⟩ := ih hrest (u.requested (childGet space first) scene) hkept
    refine ⟨left, ?_, hcalls.trans ?_⟩
    · rw [applyAll, u.pass_bind_of_ok happly, u.pass_bind_of_ok hall]
      rfl
    · exact List.append_assoc _ [_] _

end Smooth

/-! ### Calm surroundings -/

namespace Calm

variable {s : Store} {calls : List Call} {c : Child} {want live : c.Object}

/-- A child that is missing is created. -/
theorem apply_created (calm : u.Calm) (h : s.get? (childKey space ⟨c, want⟩) = none) :
    u.pass (apply c space want) ⟨s, calls⟩ =
      (.ok .created,
        ⟨(s.write (childKey space ⟨c, want⟩) want).2,
          calls ++ [.request (childGet space ⟨c, want⟩)] ++
            [.request (.create c.kind space want)]⟩) := by
  have hget : s.answer (childGet space ⟨c, want⟩) = (.ok none, s) :=
    congrArg (·, s) (Store.get_eq_ok_none.mpr h)
  have hcreate : s.answer (.create c.kind space want) = _ := Store.create_fresh h
  rw [u.pass_apply_of_none (congrArg Prod.fst (calm.answer_of_ok hget)), calm.requested_of_ok hget]
  exact u.pass_bind_of_ok (calm.pass_request hcreate) _

/-- A child that has drifted is updated: the version that is read is the one that is stored. -/
theorem apply_updated (calm : u.Calm) (tidy : s.Tidy)
    (h : s.get c.kind space (c.kind.metadata want).displayName = .ok (some live))
    (drifted : c.drifted want live = true) :
    u.pass (apply c space want) ⟨s, calls⟩ =
      (.ok .updated,
        ⟨(s.write (childKey space ⟨c, c.adopt want live⟩) (c.adopt want live)).2,
          calls ++ [.request (childGet space ⟨c, want⟩)] ++
            [.request (.update c.kind space (c.adopt want live))]⟩) := by
  have hget : s.answer (childGet space ⟨c, want⟩) = (.ok (some live), s) := congrArg (·, s) h
  rw [u.pass_apply_of_drifted (congrArg Prod.fst (calm.answer_of_ok hget)) drifted,
    calm.requested_of_ok hget]
  exact u.pass_bind_of_ok (calm.pass_request (Store.answer_adopted tidy h)) _

/-- A child that has not drifted is left alone. -/
theorem apply_unchanged (calm : u.Calm)
    (h : s.get c.kind space (c.kind.metadata want).displayName = .ok (some live))
    (settled : c.drifted want live = false) :
    u.pass (apply c space want) ⟨s, calls⟩ =
      (.ok .unchanged, ⟨s, calls ++ [.request (childGet space ⟨c, want⟩)]⟩) := by
  have hget : s.answer (childGet space ⟨c, want⟩) = (.ok (some live), s) := congrArg (·, s) h
  refine (calm.smooth.apply_unchanged (calm.spares fun _ => True) trivial h settled).trans ?_
  rw [calm.requested_of_ok hget]

/-- A child is applied if its document, should there be one, can be read. -/
theorem apply_ok (calm : u.Calm) {scene : Scene} (tidy : scene.store.Tidy) {found : Option c.Object}
    (h : scene.store.get c.kind space (c.kind.metadata want).displayName = .ok found) :
    (u.pass (apply c space want) scene).1.isOk = true := by
  cases found with
  | none =>
    have hnone : scene.store.get? (childKey space ⟨c, want⟩) = none := Store.get_eq_ok_none.mp h
    exact (apply_created calm hnone : u.pass (apply c space want) scene = _) ▸ rfl
  | some live =>
    cases hdrifted : c.drifted want live with
    | true =>
      exact (apply_updated calm tidy h hdrifted : u.pass (apply c space want) scene = _) ▸ rfl
    | false =>
      exact (apply_unchanged calm h hdrifted : u.pass (apply c space want) scene = _) ▸ rfl

/-- Children are applied if their documents can be read. -/
theorem applyAll_ok (calm : u.Calm) (distinct : (children.map (childKey space)).Nodup)
    {scene : Scene} (tidy : scene.store.Tidy)
    (h : ∀ child ∈ children, ∃ found, scene.store.get child.1.kind space
      (child.1.kind.metadata child.2).displayName = .ok found) :
    (u.pass (applyAll space children) scene).1.isOk = true := by
  induction children generalizing scene with
  | nil => rfl
  | cons first rest ih =>
    obtain ⟨⟨found, hfirst⟩, hrest⟩ := List.forall_mem_cons.mp h
    obtain ⟨hne, distinct⟩ := List.nodup_cons.mp distinct
    have happly := apply_ok calm tidy hfirst
    rw [applyAll]
    rcases hresult : u.pass (apply first.1 space first.2) scene with ⟨stop | applied, middle⟩
    · rw [hresult] at happly
      cases happly
    · rw [u.pass_bind_of_ok hresult, pass_bind]
      have hmiddle : middle = (u.pass (apply first.1 space first.2) scene).2 := hresult ▸ rfl
      have hrests : (u.pass (applyAll space rest) middle).1.isOk = true := by
        refine ih distinct (hmiddle ▸ run_tidy calm.keepsTidy _ tidy) fun child hchild => ?_
        obtain ⟨found, hfound⟩ := hrest child hchild
        refine ⟨found, (Store.get_congr ?_).trans hfound⟩
        rw [hmiddle]
        exact run_get? (calm.spares fun _ => True) trivial
          (apply_spares fun heq => hne (heq ▸ List.mem_map_of_mem hchild)) scene
      rcases hall : u.pass (applyAll space rest) middle with ⟨stop | more, left⟩
      · rw [hall] at hrests
        cases hrests
      · rfl

end Calm

end Surroundings

end ClusterOperator
