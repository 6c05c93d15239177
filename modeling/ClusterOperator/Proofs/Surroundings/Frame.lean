import ClusterOperator.Proofs.Stores.Frame
import ClusterOperator.Proofs.Surroundings.Runs

/-!
# What a program leaves alone

Which calls a program can make is seen from the program alone, whatever the replies are. If none of
them changes the document under a key, and neither do the other clients, a run leaves this document
as it is.

## Main definitions

* `Call.Spares`, `Call.Mild`: calls that leave a document alone, or create and update none.
* `Program.Within`, `Pass.Within`: every call that a program can make is of a kind.
* `Surroundings.Spares`, `Surroundings.KeepsTidy`: what the other clients leave alone.

## Main results

* `Surroundings.run_calls`: the calls of a run are those that the program can make.
* `Surroundings.run_related`: what every request preserves is preserved by a run.
* `Surroundings.run_get?`: what a run leaves alone.
* `Surroundings.run_tidy`: a run keeps documents tidy.
-/

namespace ClusterOperator

/-- A call that leaves the document under a key alone. -/
def Call.Spares (key : Key) : Call → Prop
  | .request r => r.Spares key
  | .poll _ _ | .heal _ _ | .clock => True

/-- A call that neither creates, updates nor deletes an object. -/
def Call.Mild : Call → Prop
  | .request r => r.verb = .get ∨ r.verb = .list ∨ r.verb = .updateStatus
  | .poll _ _ | .heal _ _ | .clock => True

/-- A call that changes nothing: it gets or lists objects, polls servers, or reads the clock. -/
def Call.Reads : Call → Prop
  | .request r => r.reads = true
  | .poll _ _ | .clock => True
  | .heal _ _ => False

instance (key : Key) (c : Call) : Decidable (c.Spares key) :=
  match c with
  | .request r => inferInstanceAs (Decidable (r.reads = true ∨ r.key ≠ key))
  | .poll _ _ | .heal _ _ | .clock => .isTrue trivial

theorem Call.Reads.spares {c : Call} (h : c.Reads) (key : Key) : c.Spares key := by
  cases c with
  | request r => exact .inl h
  | _ => trivial

theorem Call.Reads.mild {c : Call} (h : c.Reads) : c.Mild := by
  cases c with
  | request r =>
    cases r with
    | get => exact .inl rfl
    | list => exact .inr (.inl rfl)
    | _ => cases h
  | _ => trivial

theorem Call.Mild.spares {c : Call} (h : c.Mild) {key : Key} (hkey : key.kind ≠ .declaration) :
    c.Spares key := by
  cases c with
  | request r =>
    cases r with
    | get => exact .inl rfl
    | list => exact .inl rfl
    | updateStatus d => exact .inr fun heq => hkey (heq ▸ rfl)
    | _ => rcases h with h | h | h <;> cases h
  | _ => trivial

namespace Program

variable {α β : Type}

/-- Every call that a program can make is of a kind. -/
def Within (P : Call → Prop) : Program α → Prop
  | done _ => True
  | call c next => P c ∧ ∀ r, (next r).Within P

variable {P Q : Call → Prop}

theorem within_pure (a : α) : (pure a : Program α).Within P := trivial

theorem within_perform {c : Call} (h : P c) : (perform c).Within P := ⟨h, fun _ => trivial⟩

theorem Within.bind {p : Program α} {f : α → Program β} (hp : p.Within P)
    (hf : ∀ a, (f a).Within P) : (p >>= f).Within P := by
  induction p with
  | done a => exact hf a
  | call c next ih => exact ⟨hp.1, fun r => ih r (hp.2 r)⟩

theorem Within.mono {p : Program α} (hp : p.Within P) (h : ∀ c, P c → Q c) : p.Within Q := by
  induction p with
  | done a => trivial
  | call c next ih => exact ⟨h c hp.1, fun r => ih r (hp.2 r)⟩

theorem within_true (p : Program α) : p.Within fun _ => True := by
  induction p with
  | done a => trivial
  | call c next ih => exact ⟨trivial, ih⟩

end Program

namespace Pass

variable {α β : Type} {P : Call → Prop}

/-- Every call that a program which may stop early can make is of a kind. -/
def Within (P : Call → Prop) (x : Pass α) : Prop := Program.Within P x.run

theorem within_pure (a : α) : Within P (pure a : Pass α) := trivial

theorem within_fault (f : Fault) : Within P (fault f : Pass α) := trivial

theorem within_ofExcept (r : Except Error α) : Within P (ofExcept r) := trivial

theorem within_request {r : Request} (h : P (.request r)) : Within P (Pass.request r) :=
  ⟨h, fun _ => trivial⟩

theorem Within.bind {x : Pass α} {f : α → Pass β} (hx : Within P x)
    (hf : ∀ a, Within P (f a)) : Within P (x >>= f) := by
  refine Program.Within.bind (p := x.run) hx fun result => ?_
  cases result with
  | error stop => trivial
  | ok a => exact hf a

end Pass

namespace Surroundings

variable {α : Type}

/-- The other clients leave the documents under some keys alone. -/
def Spares (u : Surroundings) (keys : Key → Prop) : Prop :=
  ∀ earlier r s key, keys key → (u.others earlier r s).get? key = s.get? key

/-- The other clients keep documents tidy. -/
def KeepsTidy (u : Surroundings) : Prop :=
  ∀ earlier r s, s.Tidy → (u.others earlier r s).Tidy

variable {u : Surroundings}

theorem Calm.spares (calm : u.Calm) (keys : Key → Prop) : u.Spares keys := fun _ _ _ _ _ => by
  rw [calm.others]

theorem Calm.keepsTidy (calm : u.Calm) : u.KeepsTidy := fun _ _ _ tidy => by
  rwa [calm.others]

/-- The store after a request is that of the other clients, changed by the request or, if it
failed, perhaps not. -/
theorem answer_store (u : Surroundings) (r : Request) (scene : Scene) :
    (u.answer r scene).2 = ((u.others scene.calls r scene.store).answer r).2 ∨
      ((u.answer r scene).2 = u.others scene.calls r scene.store ∧
        ∃ e, (u.answer r scene).1 = .error e) := by
  unfold answer
  split
  · exact .inl rfl
  · next f _ =>
    cases f.carriedOut with
    | true => exact .inl rfl
    | false => exact .inr ⟨rfl, f.error, rfl⟩

theorem answer_get? {keys : Key → Prop} (spares : u.Spares keys) {key : Key} (hkey : keys key)
    {r : Request} (h : r.Spares key) (scene : Scene) :
    (u.answer r scene).2.get? key = scene.store.get? key := by
  have hothers := spares scene.calls r scene.store key hkey
  rcases u.answer_store r scene with hstore | ⟨hstore, -⟩
  · rw [hstore, Store.get?_answer _ h, hothers]
  · rw [hstore, hothers]

theorem answer_tidy (keeps : u.KeepsTidy) (r : Request) {scene : Scene}
    (tidy : scene.store.Tidy) : (u.answer r scene).2.Tidy := by
  have hothers := keeps scene.calls r scene.store tidy
  rcases u.answer_store r scene with hstore | ⟨hstore, -⟩
  · exact hstore ▸ hothers.answer r
  · exact hstore ▸ hothers

/-! ### Answers -/

variable {keys : Key → Prop} {scene : Scene}

/-- A request that succeeds was answered by the store as the other clients left it. -/
theorem answer_eq_ok {r : Request} {a : r.Result} (h : (u.answer r scene).1 = .ok a) :
    ((u.others scene.calls r scene.store).answer r).1 = .ok a := by
  unfold answer at h
  split at h
  · exact mapError_eq_ok.mp h
  · cases h

/-- An object that a request gets is the one that is stored. -/
theorem answer_get (spares : u.Spares keys) {k : Kind} {space name : String}
    (hkey : keys ⟨k, space, name⟩) {found : Option k.Object}
    (h : (u.answer (.get k space name) scene).1 = .ok found) :
    scene.store.get k space name = .ok found :=
  (Store.get_congr (spares _ _ _ _ hkey)).symm.trans (answer_eq_ok h)

/-- Objects that a request lists are those that are stored. -/
theorem answer_list (spares : u.Spares keys) {k : Kind} {space : String}
    (hkeys : ∀ name, keys ⟨k, space, name⟩) {selector : Option String} {found : List k.Object}
    (h : (u.answer (.list k space selector) scene).1 = .ok found) :
    scene.store.list k space selector = .ok found :=
  (Store.list_congr (fun name => spares _ _ _ _ (hkeys name)) selector).symm.trans
    (answer_eq_ok h)

/-- An object that is stored is got. -/
theorem Smooth.answer_get (smooth : u.Smooth) (spares : u.Spares keys) {k : Kind}
    {space name : String} (hkey : keys ⟨k, space, name⟩) {found : Option k.Object}
    (h : scene.store.get k space name = .ok found) :
    (u.answer (.get k space name) scene).1 = .ok found := by
  rw [smooth.answer]
  exact mapError_eq_ok.mpr ((Store.get_congr (spares _ _ _ _ hkey)).trans h)

/-! ### Runs -/

/-- The calls of a run are those that the program can make. -/
theorem run_calls (u : Surroundings) {P : Call → Prop} {p : Program α} (h : p.Within P)
    (scene : Scene) :
    ∃ more, (u.run p scene).2.calls = scene.calls ++ more ∧ ∀ c ∈ more, P c := by
  induction p generalizing scene with
  | done a => exact ⟨[], (List.append_nil _).symm, fun c hc => nomatch hc⟩
  | call c next ih =>
    have hcall : (u.world.reply c scene).2.calls = scene.calls ++ [c] := by cases c <;> rfl
    obtain ⟨more, hmore, hP⟩ := ih (u.world.reply c scene).1 (h.2 _) (u.world.reply c scene).2
    refine ⟨c :: more, ?_, List.forall_mem_cons.mpr ⟨h.1, hP⟩⟩
    refine hmore.trans ?_
    rw [hcall, List.append_assoc]
    rfl

/-- What holds between the stores before and after every request of a kind holds between those
before and after a run that makes only such requests. -/
theorem run_related (u : Surroundings) {R : Store → Store → Prop} (refl : ∀ s, R s s)
    (trans : ∀ s t v, R s t → R t v → R s v) {P : Call → Prop}
    (step : ∀ r scene, P (.request r) → R scene.store (u.answer r scene).2) {p : Program α}
    {scene : Scene} {more : List Call} (calls : (u.run p scene).2.calls = scene.calls ++ more)
    (h : ∀ c ∈ more, P c) : R scene.store (u.run p scene).2.store := by
  induction p generalizing scene more with
  | done a => exact refl _
  | call c next ih =>
    have hcall : (u.world.reply c scene).2.calls = scene.calls ++ [c] := by cases c <;> rfl
    obtain ⟨rest, hrest, -⟩ := u.run_calls (p := next (u.world.reply c scene).1)
      (Program.within_true _) (u.world.reply c scene).2
    have hmore : scene.calls ++ c :: rest = scene.calls ++ more := by
      rw [List.append_cons, ← hcall]
      exact hrest.symm.trans calls
    obtain ⟨hc, hothers⟩ := List.forall_mem_cons.mp (List.append_cancel_left hmore ▸ h)
    refine trans _ _ _ ?_ (ih (u.world.reply c scene).1 hrest hothers)
    cases c with
    | request r => exact step r scene hc
    | _ => exact refl _

/-- A run leaves a document alone that neither its calls nor the other clients change. -/
theorem run_get?_of_calls {keys : Key → Prop} (spares : u.Spares keys) {key : Key}
    (hkey : keys key) {p : Program α} {scene : Scene} {more : List Call}
    (calls : (u.run p scene).2.calls = scene.calls ++ more) (h : ∀ c ∈ more, c.Spares key) :
    (u.run p scene).2.store.get? key = scene.store.get? key :=
  u.run_related (R := fun s s' => s'.get? key = s.get? key) (fun _ => rfl)
    (fun _ _ _ hst htv => htv.trans hst) (fun _ _ hr => answer_get? spares hkey hr _) calls h

theorem run_get? {keys : Key → Prop} (spares : u.Spares keys) {key : Key} (hkey : keys key)
    {p : Program α} (h : p.Within (Call.Spares key)) (scene : Scene) :
    (u.run p scene).2.store.get? key = scene.store.get? key := by
  obtain ⟨more, hcalls, hspares⟩ := u.run_calls h scene
  exact run_get?_of_calls spares hkey hcalls hspares

/-- A run keeps documents tidy. -/
theorem run_tidy (keeps : u.KeepsTidy) (p : Program α) {scene : Scene}
    (tidy : scene.store.Tidy) : (u.run p scene).2.store.Tidy := by
  obtain ⟨more, hcalls, htrue⟩ := u.run_calls p.within_true scene
  exact u.run_related (R := fun s s' => s.Tidy → s'.Tidy) (fun _ => id)
    (fun _ _ _ hst htv => htv ∘ hst) (fun r _ _ => answer_tidy keeps r) hcalls htrue tidy

/-- In calm surroundings a run that only reads leaves the store as it is. -/
theorem Calm.run_store (calm : u.Calm) {p : Program α} {scene : Scene} {more : List Call}
    (calls : (u.run p scene).2.calls = scene.calls ++ more) (h : ∀ c ∈ more, c.Reads) :
    (u.run p scene).2.store = scene.store :=
  u.run_related (R := fun s s' => s' = s) (fun _ => rfl) (fun _ _ _ hst htv => htv.trans hst)
    (fun r scene hr => by rw [calm.answer, Store.answer_of_reads _ hr]) calls h

end Surroundings

end ClusterOperator
