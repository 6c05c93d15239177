import ClusterOperator.Proofs.Children.Apply

/-!
# Children that are applied again after a failure

The first request that fails ends a row of children: those before it are applied as they would be
without the failure, and the rest is untouched. When the row is applied again, a child that was
applied already comes to the same document, except that it may get a newer version. This is so even
for a service that is updated again because it took over an address.

## Main definitions

* `Kind.SameButVersion`, `Store.SameButVersions`: documents that differ at most in their version.
* `Surroundings.Alone`: nobody else writes, and a request that fails is not carried out.

## Main results

* `Child.Settles.again`: settling twice comes to the same as settling once.
* `Child.Settles.sameButVersion`: a child settles in one way only, but for the version.
* `Surroundings.Alone.applyAll_cut`: where a failure leaves a row of children.
* `Surroundings.Alone.applyAll_resumed`: a row of children is applied again after a failure.
-/

namespace ClusterOperator

open Kubernetes

/-- Two documents are the same, or they are written from one object with different versions. -/
inductive Kind.SameButVersion (k : Kind) : Json → Json → Prop
  | same (j : Json) : SameButVersion k j j
  | versions (v w : Option String) (o : k.Object) :
      SameButVersion k (Document.write (k.withVersion v o)) (Document.write (k.withVersion w o))

/-- A service adopts from one with the addresses that it has adopted what it adopted before. -/
theorem Kubernetes.Service.adopt_adopted {want live live' : Service}
    (h : live'.spec = (want.adopt live).spec) : want.adopt live' = want.adopt live := by
  obtain ⟨metadata, spec, others⟩ := want
  cases spec with
  | none => rfl
  | some w =>
    cases hlive : live.spec with
    | none =>
      have hwant : adopt ⟨metadata, some w, others⟩ live = ⟨metadata, some w, others⟩ := by
        simp only [adopt, hlive]
      rw [hwant] at h ⊢
      simp only [adopt, h]
    | some l =>
      simp only [adopt, hlive] at h ⊢
      simp only [h]

/-- Two stores hold the same documents but for their versions. -/
def Store.SameButVersions (s s' : Store) : Prop :=
  ∀ key, Option.Rel key.kind.SameButVersion (s.get? key) (s'.get? key)

theorem Kind.sameButVersion_refl (k : Kind) (found : Option Json) :
    Option.Rel k.SameButVersion found found := by
  cases found with
  | none => exact .none
  | some j => exact .some (.same j)

namespace Child

variable {c : Child} {want : c.Object} {before middle after : Option Json}

/-- What is settled from one document is the same but for the version. -/
theorem Settles.sameButVersion {other : Option Json} (h : c.Settles want before after)
    (h' : c.Settles want before other) : Option.Rel c.kind.SameButVersion after other := by
  cases h with
  | created v =>
    cases h' with
    | created w => exact .some (.versions v w want)
  | @updated j live v read drifted =>
    cases h' with
    | updated w read' =>
      cases read.symm.trans read'
      exact .some (.versions v w (c.adopt want live))
    | unchanged read' settled =>
      cases read.symm.trans read'
      cases settled.symm.trans drifted
  | @unchanged j live read settled =>
    cases h' with
    | updated w read' drifted =>
      cases read.symm.trans read'
      cases settled.symm.trans drifted
    | unchanged => exact .some (.same j)

/-- What a child adopts when it is updated again is what it adopted before, but for the version. -/
theorem adopt_updated (proper : Document.Proper want) (live : c.Object) (v w : Option String)
    (h : c.drifted want (Document.reread (c.kind.withVersion v (c.adopt want live))) = true) :
    c.kind.withVersion w
        (c.adopt want (Document.reread (c.kind.withVersion v (c.adopt want live)))) =
      c.kind.withVersion w (c.adopt want live) := by
  have hdiffers := (drifted_updated proper live v).symm.trans h
  cases c with
  | configMap => cases hdiffers
  | statefulSet => cases hdiffers
  | service =>
    have hspec : Service.spec (Document.reread (Child.service.kind.withVersion v
        (Child.service.adopt want live))) = (Service.adopt want live).spec := Service.spec_reread _
    -- the version that is adopted gives way to the one that is stamped
    have hadopted := congrArg (Kind.withVersion .service w) (Service.adopt_adopted hspec)
    exact hadopted

/-- Settling a document that was settled already comes to the same as settling it once. -/
theorem Settles.again (proper : Document.Proper want) (h : c.Settles want before middle)
    (h' : c.Settles want middle after) : c.Settles want before after := by
  cases h with
  | created v =>
    cases h' with
    | updated w read drifted =>
      cases (Document.read_write c.wellFormed _).symm.trans read
      cases (drifted_created proper v).symm.trans drifted
    | unchanged => exact .created v
  | @updated j live v read drifted =>
    cases h' with
    | updated w read' drifted' =>
      cases (Document.read_write c.wellFormed _).symm.trans read'
      rw [adopt_updated proper live v w drifted']
      exact .updated w read drifted
    | unchanged => exact .updated v read drifted
  | unchanged => exact h'

end Child

namespace Surroundings

/-- Nobody else writes, and a request that fails is not carried out. -/
structure Alone (u : Surroundings) : Prop where
  others : ∀ earlier r s, u.others earlier r s = s
  untouched : ∀ earlier r f, u.failure earlier r = some f → f.carriedOut = false

/-- The last call was a request for a key that failed, and its error is the one that stopped a
program. -/
def StoppedAt (u : Surroundings) (key : Key) (stop : Stop) (calls : List Call) : Prop :=
  ∃ earlier r f, calls = earlier ++ [.request r] ∧ r.key = key ∧
    u.failure earlier r = some f ∧ stop = .error f.error

variable {u v w : Surroundings} {space : String} {s : Store} {calls : List Call}

namespace Alone

/-- A request that would succeed does so, or it fails and leaves the store as it is. -/
theorem answer (alone : u.Alone) {r : Request} {a : r.Result} {left : Store}
    (h : s.answer r = (.ok a, left)) (calls : List Call) :
    u.answer r ⟨s, calls⟩ = (.ok a, left) ∨
      ∃ e, u.answer r ⟨s, calls⟩ = (.error e, s) ∧
        u.StoppedAt r.key (.error e) (calls ++ [.request r]) := by
  have hfound : (u.others calls r s).answer r = (.ok a, left) :=
    (congrArg (Store.answer · r) (alone.others calls r s)).trans h
  cases hfailure : u.failure calls r with
  | none =>
    left
    simp only [Surroundings.answer, hfailure, hfound]
    rfl
  | some f =>
    refine .inr ⟨f.error, ?_, calls, r, f, rfl, rfl, hfailure, rfl⟩
    simp only [Surroundings.answer, hfailure, alone.untouched calls r f hfailure, alone.others]
    rfl

/-- A write that would succeed does so, or it fails and leaves the store as it is. -/
theorem write_or_stopped (alone : u.Alone) {r : Request} {b : r.Result} {left : Store}
    (h : s.answer r = (.ok b, left)) (a : Applied) :
    u.pass (do let _ ← Pass.request r; return a) ⟨s, calls⟩ =
        (.ok a, ⟨left, calls ++ [.request r]⟩) ∨
      ∃ stop, u.pass (do let _ ← Pass.request r; return a) ⟨s, calls⟩ =
          (.error stop, ⟨s, calls ++ [.request r]⟩) ∧
        u.StoppedAt r.key stop (calls ++ [.request r]) := by
  rcases alone.answer h calls with hanswer | ⟨e, hanswer, hstopped⟩
  · left
    rw [pass_bind_pure, pass_request, requested, hanswer]
    rfl
  · refine .inr ⟨.error e, ?_, hstopped⟩
    rw [pass_bind_pure, pass_request, requested, hanswer]
    rfl

variable {c : Child} {want : c.Object} {found : Option c.Object}

/-- A child is applied as it would be without failures, or a request for it fails and leaves the
store as it is. -/
theorem apply_or_stopped (alone : u.Alone) (calm : v.Calm) (tidy : s.Tidy)
    (readable : s.get c.kind space (c.kind.metadata want).displayName = .ok found)
    (calls : List Call) :
    (∃ a left more, u.pass (apply c space want) ⟨s, calls⟩ = (.ok a, ⟨left, more⟩) ∧
      ∀ calls, ∃ more, v.pass (apply c space want) ⟨s, calls⟩ = (.ok a, ⟨left, more⟩)) ∨
    ∃ stop more, u.pass (apply c space want) ⟨s, calls⟩ = (.error stop, ⟨s, more⟩) ∧
      u.StoppedAt (childKey space ⟨c, want⟩) stop more := by
  have hget : s.answer (childGet space ⟨c, want⟩) = (.ok found, s) := congrArg (·, s) readable
  rcases alone.answer hget calls with hanswer | ⟨e, hanswer, hstopped⟩
  · have hfound := congrArg Prod.fst hanswer
    have hafter : u.requested (childGet space ⟨c, want⟩) ⟨s, calls⟩ =
        ⟨s, calls ++ [.request (childGet space ⟨c, want⟩)]⟩ := by rw [requested, hanswer]
    cases found with
    | none =>
      have hnone := Store.get_eq_ok_none.mp readable
      have hcreate : s.answer (.create c.kind space want) = _ := Store.create_fresh hnone
      rw [u.pass_apply_of_none hfound, hafter]
      rcases alone.write_or_stopped hcreate .created with hok | ⟨stop, hstop, hstopped⟩
      · exact .inl ⟨_, _, _, hok, fun calls => ⟨_, calm.apply_created hnone⟩⟩
      · exact .inr ⟨_, _, hstop, hstopped⟩
    | some live =>
      cases hdrifted : c.drifted want live with
      | false =>
        rw [u.pass_apply_of_settled hfound hdrifted, hafter]
        exact .inl ⟨_, _, _, rfl, fun calls => ⟨_, calm.apply_unchanged readable hdrifted⟩⟩
      | true =>
        have hupdate := Store.answer_adopted tidy readable
        rw [u.pass_apply_of_drifted hfound hdrifted, hafter]
        rcases alone.write_or_stopped hupdate .updated with hok | ⟨stop, hstop, hstopped⟩
        · exact .inl ⟨_, _, _, hok, fun calls => ⟨_, calm.apply_updated tidy readable hdrifted⟩⟩
        · have hkey : (Request.update c.kind space (c.adopt want live)).key =
              childKey space ⟨c, want⟩ := c.keyOf_adopt space want live
          exact .inr ⟨_, _, hstop, hkey ▸ hstopped⟩
  · refine .inr ⟨_, _, (u.pass_apply_of_error (congrArg Prod.fst hanswer)).trans ?_, hstopped⟩
    rw [requested, hanswer]

/-- A row of children that stops before its end stops at a child: those before it are applied as
they would be without failures, and nothing else is done. -/
theorem applyAll_cut (alone : u.Alone) (calm : v.Calm)
    {children : List ((c : Child) × c.Object)} (distinct : (children.map (childKey space)).Nodup)
    (tidy : s.Tidy)
    (readable : ∀ child ∈ children, ∃ found, s.get child.1.kind space
      (child.1.kind.metadata child.2).displayName = .ok found)
    {stop : Stop} {cut : Scene}
    (h : u.pass (applyAll space children) ⟨s, calls⟩ = (.error stop, cut)) :
    ∃ before failing after applied, children = before ++ failing :: after ∧
      u.StoppedAt (childKey space failing) stop cut.calls ∧
      ∀ calls, ∃ more, v.pass (applyAll space before) ⟨s, calls⟩ =
        (.ok applied, ⟨cut.store, more⟩) := by
  induction children generalizing s calls with
  | nil => cases h
  | cons first rest ih =>
    obtain ⟨⟨found, hfirst⟩, hrest⟩ := List.forall_mem_cons.mp readable
    obtain ⟨hne, distinct⟩ := List.nodup_cons.mp distinct
    rw [applyAll] at h
    rcases alone.apply_or_stopped calm tidy hfirst calls with
      ⟨a, left, more, hpass, hcalm⟩ | ⟨stop', more, hpass, hstopped⟩
    · rw [u.pass_bind_of_ok hpass, pass_bind_pure] at h
      obtain ⟨more', hfirstCalm⟩ := hcalm []
      have hleft : left = (v.pass (apply first.1 space first.2) ⟨s, []⟩).2.store :=
        (congrArg (fun result => result.2.store) hfirstCalm).symm
      have htidy : left.Tidy := hleft ▸ run_tidy calm.keepsTidy _ tidy
      have hreadable : ∀ child ∈ rest, ∃ found, left.get child.1.kind space
          (child.1.kind.metadata child.2).displayName = .ok found := fun child hchild => by
        obtain ⟨found, hfound⟩ := hrest child hchild
        refine ⟨found, (Store.get_congr ?_).trans hfound⟩
        rw [hleft]
        exact run_get? (calm.spares fun _ => True) trivial
          (apply_spares fun heq => hne (heq ▸ List.mem_map_of_mem hchild)) _
      rcases hall : u.pass (applyAll space rest) ⟨left, more⟩ with ⟨stop' | applied, cut'⟩
      · rw [hall] at h
        cases h
        obtain ⟨before, failing, after, applied, rfl, hstopped, hbefore⟩ :=
          ih distinct htidy hreadable hall
        refine ⟨first :: before, failing, after, a :: applied, rfl, hstopped, fun calls => ?_⟩
        obtain ⟨more, hfirstCalm⟩ := hcalm calls
        obtain ⟨more, hrestCalm⟩ := hbefore more
        refine ⟨more, ?_⟩
        rw [applyAll, v.pass_bind_of_ok hfirstCalm, pass_bind_pure, hrestCalm]
        rfl
      · rw [hall] at h
        cases h
    · rw [u.pass_bind_of_error hpass] at h
      cases h
      exact ⟨[], first, rest, [], rfl, hstopped, fun calls => ⟨calls, rfl⟩⟩

end Alone

section Rows

variable {children before after : List ((c : Child) × c.Object)} {scene : Scene}

/-- A row of children goes on where its first part leaves off. -/
theorem applyAll_append {applied : List Applied} {left : Scene}
    (h : u.pass (applyAll space before) scene = (.ok applied, left)) :
    (u.pass (applyAll space (before ++ after)) scene).2 =
      (u.pass (applyAll space after) left).2 := by
  induction before generalizing applied scene with
  | nil =>
    cases h
    rfl
  | cons first rest ih =>
    rw [applyAll] at h
    rw [List.cons_append, applyAll]
    rcases hfirst : u.pass (apply first.1 space first.2) scene with ⟨stop | a, middle⟩
    · cases (u.pass_bind_of_error hfirst _).symm.trans h
    · rw [u.pass_bind_of_ok hfirst, pass_bind_pure] at h ⊢
      rcases hrest : u.pass (applyAll space rest) middle with ⟨stop | more, last⟩
      · rw [hrest] at h
        cases h
      · rw [hrest] at h
        cases h
        exact ih hrest

/-- Children whose documents can be read are all applied, and their documents settled. -/
theorem Calm.applyAll_settles (calm : u.Calm) (distinct : (children.map (childKey space)).Nodup)
    (scene : Scene) (tidy : scene.store.Tidy)
    (readable : ∀ child ∈ children, ∃ found, scene.store.get child.1.kind space
      (child.1.kind.metadata child.2).displayName = .ok found) :
    (u.pass (applyAll space children) scene).1.isOk = true ∧
      ∀ child ∈ children, child.1.Settles child.2 (scene.store.get? (childKey space child))
        ((u.pass (applyAll space children) scene).2.store.get? (childKey space child)) := by
  have hok := calm.applyAll_ok distinct tidy readable
  refine ⟨hok, fun child hchild => ?_⟩
  have hattempted := applyAll_attempted (calm.spares fun _ => True) (fun _ _ => trivial) distinct
    scene child hchild
  exact (hok ▸ hattempted).settles

/-- A row of children of which a first part was applied already is applied again: each child comes
to a document to which it could have come at once. -/
theorem Calm.applyAll_again (calm : u.Calm) (calm' : v.Calm)
    (distinct : ((before ++ after).map (childKey space)).Nodup) (tidy : scene.store.Tidy)
    (proper : ∀ child ∈ before, Document.Proper child.2)
    (readable : ∀ child ∈ before ++ after, ∃ found, scene.store.get child.1.kind space
      (child.1.kind.metadata child.2).displayName = .ok found)
    {applied : List Applied} {middle : Scene}
    (h : u.pass (applyAll space before) scene = (.ok applied, middle)) (calls : List Call) :
    (v.pass (applyAll space (before ++ after)) ⟨middle.store, calls⟩).1.isOk = true ∧
      ∀ child ∈ before ++ after,
        child.1.Settles child.2 (scene.store.get? (childKey space child))
          ((v.pass (applyAll space (before ++ after)) ⟨middle.store, calls⟩).2.store.get?
            (childKey space child)) := by
  obtain ⟨hbefore, hafter⟩ := List.forall_mem_append.mp readable
  have hdistinct := List.map_append ▸ distinct
  obtain ⟨distinctBefore, -, hapart⟩ := List.nodup_append.mp hdistinct
  have hmiddle : middle = (u.pass (applyAll space before) scene).2 := (congrArg Prod.snd h).symm
  have hsettled := (calm.applyAll_settles distinctBefore scene tidy hbefore).2
  rw [h] at hsettled
  have hkept : ∀ child ∈ after, middle.store.get? (childKey space child) =
      scene.store.get? (childKey space child) := fun child hchild => by
    rw [hmiddle]
    exact run_get? (calm.spares fun _ => True) trivial
      (applyAll_spares fun other hother heq => hapart _ (List.mem_map_of_mem hother) _
        (List.mem_map_of_mem hchild) heq) scene
  have hreadable : ∀ child ∈ before ++ after, ∃ found, middle.store.get child.1.kind space
      (child.1.kind.metadata child.2).displayName = .ok found := by
    refine List.forall_mem_append.mpr ⟨fun child hchild => ?_, fun child hchild => ?_⟩
    · obtain ⟨j, live, hj, hread, -⟩ := (hsettled child hchild).read (proper child hchild)
      exact ⟨some live, Store.get_eq_ok_some.mpr ⟨j, hj, hread⟩⟩
    · obtain ⟨found, hfound⟩ := hafter child hchild
      exact ⟨found, (Store.get_congr (hkept child hchild)).trans hfound⟩
  obtain ⟨hok, hagain⟩ := calm'.applyAll_settles distinct ⟨middle.store, calls⟩
    (hmiddle ▸ run_tidy calm.keepsTidy _ tidy) hreadable
  refine ⟨hok, fun child hchild => ?_⟩
  rcases List.mem_append.mp hchild with hmem | hmem
  · exact (hsettled child hmem).again (proper child hmem) (hagain child hchild)
  · exact hkept child hmem ▸ hagain child hchild

/-- A row of children that a failure ended is applied again: all documents are as if nothing had
failed, but for their versions. The failure left the children before the failing one as they would
be without it, and all others untouched. -/
theorem Alone.applyAll_resumed (alone : u.Alone) (calm : v.Calm) (calm' : w.Calm)
    (distinct : (children.map (childKey space)).Nodup)
    (proper : ∀ child ∈ children, Document.Proper child.2) (tidy : s.Tidy)
    (readable : ∀ child ∈ children, ∃ found, s.get child.1.kind space
      (child.1.kind.metadata child.2).displayName = .ok found)
    {stop : Stop} {cut : Scene}
    (h : u.pass (applyAll space children) ⟨s, calls⟩ = (.error stop, cut))
    (calls' calls'' : List Call) :
    let again := v.pass (applyAll space children) ⟨cut.store, calls'⟩
    let whole := w.pass (applyAll space children) ⟨s, calls''⟩
    again.1.isOk = true ∧ whole.1.isOk = true ∧
      again.2.store.SameButVersions whole.2.store ∧
      ∃ before failing after, children = before ++ failing :: after ∧
        u.StoppedAt (childKey space failing) stop cut.calls ∧
        (∀ child ∈ before, cut.store.get? (childKey space child) =
          whole.2.store.get? (childKey space child)) ∧
        ∀ child ∈ failing :: after, cut.store.get? (childKey space child) =
          s.get? (childKey space child) := by
  intro again whole
  obtain ⟨before, failing, after, applied, rfl, hstopped, hbefore⟩ :=
    alone.applyAll_cut calm' distinct tidy readable h
  obtain ⟨more, hbefore⟩ := hbefore calls''
  obtain ⟨hagain, hsettledAgain⟩ := calm'.applyAll_again calm distinct tidy
    (fun child hchild => proper child (List.mem_append_left _ hchild)) readable hbefore calls'
  obtain ⟨hwhole, hsettledWhole⟩ :=
    calm'.applyAll_settles distinct ⟨s, calls''⟩ tidy readable
  have hdistinct := List.map_append ▸ distinct
  obtain ⟨-, -, hapart⟩ := List.nodup_append.mp hdistinct
  have hcut : cut.store = (w.pass (applyAll space before) ⟨s, calls''⟩).2.store :=
    (congrArg (fun result => result.2.store) hbefore).symm
  -- the children that were applied before the failure leave all others alone
  have hkept : ∀ key, (∀ child ∈ before, childKey space child ≠ key) →
      cut.store.get? key = s.get? key := fun key hkey => by
    rw [hcut]
    exact run_get? (calm'.spares fun _ => True) trivial (applyAll_spares hkey) _
  refine ⟨hagain, hwhole, fun key => ?_, before, failing, after, rfl, hstopped,
    fun child hchild => ?_, fun child hchild => ?_⟩
  · by_cases hkey : ∃ child ∈ before ++ failing :: after, childKey space child = key
    · obtain ⟨child, hchild, rfl⟩ := hkey
      exact (hsettledAgain child hchild).sameButVersion (hsettledWhole child hchild)
    · have hother : ∀ child ∈ before ++ failing :: after, childKey space child ≠ key :=
        fun child hchild heq => hkey ⟨child, hchild, heq⟩
      have hagainKept : again.2.store.get? key = cut.store.get? key :=
        run_get? (calm.spares fun _ => True) trivial (applyAll_spares hother) _
      have hwholeKept : whole.2.store.get? key = s.get? key :=
        run_get? (calm'.spares fun _ => True) trivial (applyAll_spares hother) _
      rw [hagainKept, hwholeKept,
        hkept key fun child hchild => hother child (List.mem_append_left _ hchild)]
      exact key.kind.sameButVersion_refl _
  · have hlast : whole.2 = (w.pass (applyAll space (failing :: after)) ⟨cut.store, more⟩).2 :=
      applyAll_append hbefore
    have hlater : (w.pass (applyAll space (failing :: after)) ⟨cut.store, more⟩).2.store.get?
        (childKey space child) = cut.store.get? (childKey space child) :=
      run_get? (calm'.spares fun _ => True) trivial (applyAll_spares fun other hother heq =>
        hapart _ (List.mem_map_of_mem hchild) _ (List.mem_map_of_mem hother) heq.symm) _
    exact hlast ▸ hlater.symm
  · exact hkept _ fun other hother heq =>
      hapart _ (List.mem_map_of_mem hother) _ (List.mem_map_of_mem hchild) heq

end Rows

end Surroundings

end ClusterOperator
