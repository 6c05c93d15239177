import ClusterOperator.Proofs.Stores.Agreement

/-!
# Programs that run together

Two programs run in one store and take turns call by call, each in surroundings of its own. A
program that minds its own documents is not influenced by another one that minds different ones,
whatever the order of their turns: it makes the calls and comes to the result that it would alone,
and leaves its own documents as it would, but for the versions of those that it wrote.

What a program does next may depend on an object that it has written before, but must not depend on
the version of this object, since the other program moves the counter of versions.

## Main definitions

* `Task`, `Task.step`: a program under way, and its next call.
* `together`: two tasks that take turns.
* `Surroundings.KeepsTo`: a run that minds its own documents and does not look at versions.
* `Surroundings.Abreast`: a task in the store that it would find alone and in the common one.

## Main results

* `Surroundings.KeepsTo.bind`, `Surroundings.KeepsTo.request_bind`: programs after each other.
* `Surroundings.Calm.together_eq`: programs that keep to different documents do not influence each
  other.
-/

namespace ClusterOperator

variable {α β : Type}

/-! ### Taking turns -/

/-- A program under way: what is left to do, and the calls that were made. -/
structure Task (α : Type) where
  rest : Program α
  calls : List Call := []

namespace Task

/-- The scene in which a task goes on. -/
def scene (t : Task α) (s : Store) : Scene := ⟨s, t.calls⟩

/-- A task makes its next call, if there is one. -/
def step (u : Surroundings) (t : Task α) (s : Store) : Task α × Store :=
  match t.rest with
  | .done _ => (t, s)
  | .call c next =>
    let (reply, left) := u.world.reply c (t.scene s)
    (⟨next reply, left.calls⟩, left.store)

/-- A task makes all calls that are left. -/
def finish (u : Surroundings) (t : Task α) (s : Store) : α × Scene := u.run t.rest (t.scene s)

/-- A task that has made its next call comes to the same end. -/
theorem finish_step (u : Surroundings) (t : Task α) (s : Store) :
    (t.step u s).1.finish u (t.step u s).2 = t.finish u s := by
  obtain ⟨rest, calls⟩ := t
  cases rest <;> rfl

end Task

/-- Whose turn it is. -/
inductive Turn where
  | first
  | second
  deriving DecidableEq, Repr

/-- How two tasks ended: the result and the calls of each, and the store that they leave. -/
structure Joint (α β : Type) where
  first : α × List Call
  second : β × List Call
  store : Store

/-- Two tasks in one store. At every turn one of them makes its next call, and a task that is done
lets its turns pass. What is left after the last turn is done by the first task and then by the
second one, so that every order of their calls comes from some turns. -/
def together (u v : Surroundings) : List Turn → Task α → Task β → Store → Joint α β
  | [], first, second, s =>
    let (a, left) := first.finish u s
    let (b, last) := second.finish v left.store
    ⟨(a, left.calls), (b, last.calls), last.store⟩
  | .first :: turns, first, second, s =>
    let (first, s) := first.step u s
    together u v turns first second s
  | .second :: turns, first, second, s =>
    let (second, s) := second.step v s
    together u v turns first second s

/-! ### Calls about documents of one's own -/

namespace Call

/-- A call that gives the document under a key a new version. -/
def Stamps (c : Call) (key : Key) : Prop :=
  match c with
  | .request r => r.Stamps key
  | .poll _ _ | .heal _ _ | .clock => False

/-- A call about documents of one's own, if it is a request. -/
def Minds (mine written : Key → Prop) : Call → Prop
  | .request r => r.Minds mine written
  | .poll _ _ | .heal _ _ | .clock => True

/-- Replies to a call that are the same, but for the versions of objects. -/
def Alike (written : Key → Prop) : (c : Call) → c.Reply → c.Reply → Prop
  | .request r, a, b => r.Alike written a b
  | .poll _ _, a, b => a = b
  | .heal _ _, a, b => a = b
  | .clock, a, b => a = b

variable {mine before written : Key → Prop} {c : Call}

theorem Minds.anti (h : c.Minds mine written) (le : ∀ key, before key → written key) :
    c.Minds mine before := by
  cases c with
  | request r => exact Request.Minds.anti h le
  | _ => trivial

theorem Minds.spares (h : c.Minds mine written) {key : Key} (hkey : mine key → key.kind = .pod) :
    c.Spares key := by
  cases c with
  | request r => exact Request.Minds.spares h hkey
  | _ => trivial

theorem Alike.mono {a b : c.Reply} (h : c.Alike before a b)
    (le : ∀ key, before key → written key) : c.Alike written a b := by
  cases c with
  | request r => exact Request.Alike.mono h le
  | _ => exact h

end Call

namespace Surroundings

variable {u v : Surroundings} {mine theirs written before middle after : Key → Prop}
  {scene : Scene} {s t : Store}

/-! ### Programs that keep to documents of their own -/

/-- A program that, run in a scene, makes only calls about documents of its own, and would go on in
the same way after replies that are alike. It has written some of the documents before, and when it
is done it has written others besides. -/
inductive KeepsTo (u : Surroundings) (mine after : Key → Prop) {α : Type} :
    (Key → Prop) → Program α → Scene → Prop
  | done {written : Key → Prop} {a : α} {scene : Scene}
      (within : ∀ key, written key → after key) : KeepsTo u mine after written (.done a) scene
  | call {written : Key → Prop} {c : Call} {next : c.Reply → Program α} {scene : Scene}
      (minds : c.Minds mine written)
      (blind : ∀ reply, c.Alike written (u.world.reply c scene).1 reply →
        next (u.world.reply c scene).1 = next reply)
      (goes : KeepsTo u mine after (fun key => written key ∨ c.Stamps key)
        (next (u.world.reply c scene).1) (u.world.reply c scene).2) :
      KeepsTo u mine after written (.call c next) scene

namespace KeepsTo

theorem anti {p : Program α} (h : u.KeepsTo mine after written p scene)
    (le : ∀ key, before key → written key) : u.KeepsTo mine after before p scene := by
  induction h generalizing before with
  | done within => exact .done fun key hkey => within key (le key hkey)
  | call minds blind goes ih =>
    exact .call (minds.anti le) (fun reply h => blind reply (h.mono le))
      (ih fun key => Or.imp_left (le key))

/-- A program after another one. -/
theorem bind {p : Program α} {f : α → Program β} (hp : u.KeepsTo mine middle written p scene)
    (hf : u.KeepsTo mine after middle (f (u.run p scene).1) (u.run p scene).2) :
    u.KeepsTo mine after written (p >>= f) scene := by
  induction hp with
  | done within => exact hf.anti within
  | call minds blind goes ih =>
    exact .call minds (fun reply h => congrArg (Program.bind · f) (blind reply h)) (ih hf)

/-- What is made of a result at the end. -/
theorem map {p : Program α} (hp : u.KeepsTo mine after written p scene) (f : α → β) :
    u.KeepsTo mine after written (do let a ← p; return f a) scene :=
  hp.bind (.done fun _ => id)

/-- A program after another one that may stop early. -/
theorem pass_bind {x : Pass α} {f : α → Pass β} (hx : u.KeepsTo mine middle written x.run scene)
    (le : ∀ key, middle key → after key)
    (hf : ∀ a left, u.pass x scene = (.ok a, left) → u.KeepsTo mine after middle (f a).run left) :
    u.KeepsTo mine after written (x >>= f).run scene := by
  have hrun : (x >>= f).run = x.run >>= ExceptT.bindCont f := rfl
  rw [hrun]
  refine hx.bind ?_
  cases hresult : (u.run x.run scene).1 with
  | error stop => exact .done le
  | ok a => exact hf a _ (Prod.ext hresult rfl)

/-- A program after a request. -/
theorem request_bind {r : Request} {f : Except Error r.Result → Program α} (middle : Key → Prop)
    (minds : r.Minds mine written)
    (blind : ∀ a b, r.Alike written a b → f a = f b)
    (stamps : ∀ key, written key ∨ r.Stamps key → middle key)
    (goes : u.KeepsTo mine after middle (f (u.answer r scene).1) (u.requested r scene)) :
    u.KeepsTo mine after written (Program.request r >>= f) scene :=
  .call minds (fun reply h => blind _ reply h) (goes.anti stamps)

/-- A program that may stop early after a request. -/
theorem pass_request_bind {r : Request} {f : r.Result → Pass α} (middle : Key → Prop)
    (minds : r.Minds mine written)
    (blind : ∀ a b, r.Alike written (.ok a : Except Error r.Result) (.ok b) → f a = f b)
    (stamps : ∀ key, written key ∨ r.Stamps key → middle key)
    (le : ∀ key, middle key → after key)
    (goes : ∀ a, (u.answer r scene).1 = .ok a →
      u.KeepsTo mine after middle (f a).run (u.requested r scene)) :
    u.KeepsTo mine after written (Pass.request r >>= f).run scene := by
  have hrun : (Pass.request r >>= f).run =
      Program.request r >>= fun reply => ExceptT.bindCont f (reply.mapError .error) := rfl
  rw [hrun]
  refine request_bind middle minds (fun a b halike => ?_) stamps ?_
  · rcases halike.eq_or_ok with rfl | ⟨x, y, rfl, rfl⟩
    · rfl
    · exact congrArg ExceptT.run (blind x y halike)
  · cases hanswer : (u.answer r scene).1 with
    | error e => exact .done le
    | ok a => exact goes a hanswer

/-- A program that may stop early after a request that only reads. -/
theorem pass_read_bind {r : Request} {f : r.Result → Pass α} (reads : r.reads = true)
    (minds : r.Minds mine written)
    (blind : ∀ a b, r.Alike written (.ok a : Except Error r.Result) (.ok b) → f a = f b)
    (le : ∀ key, written key → after key)
    (goes : ∀ a, (u.answer r scene).1 = .ok a →
      u.KeepsTo mine after written (f a).run (u.requested r scene)) :
    u.KeepsTo mine after written (Pass.request r >>= f).run scene :=
  pass_request_bind written minds blind
    (fun key => (Or.resolve_right · (Request.not_stamps_of_reads reads key))) le goes

/-- A call that is no request. -/
theorem perform {c : Call} (h : ∀ r, c ≠ .request r) :
    u.KeepsTo mine written written (Program.perform c) scene := by
  cases c with
  | request r => exact absurd rfl (h r)
  | _ =>
    exact .call trivial (fun _ => congrArg Program.done) (.done fun _ => (Or.resolve_right · id))

end KeepsTo

/-! ### Side by side -/

/-- A call is answered alike in stores that agree on documents of its own, and they agree
afterwards. -/
theorem Calm.reply_alike (calm : u.Calm) (agree : s.AgreesOn mine written t) {c : Call}
    (minds : c.Minds mine written) (calls : List Call) :
    c.Alike written (u.world.reply c ⟨s, calls⟩).1 (u.world.reply c ⟨t, calls⟩).1 ∧
      (u.world.reply c ⟨s, calls⟩).2.calls = (u.world.reply c ⟨t, calls⟩).2.calls ∧
      (u.world.reply c ⟨s, calls⟩).2.store.AgreesOn mine (fun key => written key ∨ c.Stamps key)
        (u.world.reply c ⟨t, calls⟩).2.store := by
  cases c with
  | request r =>
    obtain ⟨halike, hagree⟩ := agree.answer minds
    refine ⟨?_, rfl, ?_⟩
    · have hreplies : r.Alike written (u.answer r ⟨s, calls⟩).1 (u.answer r ⟨t, calls⟩).1 := by
        rw [calm.answer, calm.answer]
        exact halike.mapError _
      exact hreplies
    · have hstores : (u.answer r ⟨s, calls⟩).2.AgreesOn mine
          (fun key => written key ∨ r.Stamps key) (u.answer r ⟨t, calls⟩).2 := by
        rw [calm.answer, calm.answer]
        exact hagree
      exact hstores
  | _ => exact ⟨rfl, rfl, agree.mono fun _ => .inl⟩

/-- A task that keeps to its own documents, in the store that it would find alone and in another
one that agrees with it. -/
def Abreast (u : Surroundings) (mine after : Key → Prop) (task : Task α) (s t : Store) : Prop :=
  ∃ written, s.AgreesOn mine written t ∧ u.KeepsTo mine after written task.rest (task.scene s)

namespace Abreast

variable {task : Task α}

/-- What happens to other documents makes no difference. -/
theorem of_get? {t' : Store} (h : u.Abreast mine after task s t)
    (kept : ∀ key, mine key → t'.get? key = t.get? key) : u.Abreast mine after task s t' := by
  obtain ⟨written, agree, keeps⟩ := h
  exact ⟨written, agree.of_get? kept, keeps⟩

/-- The next call of a task leaves the same task in both stores. -/
theorem step (calm : u.Calm) (h : u.Abreast mine after task s t) :
    (task.step u t).1 = (task.step u s).1 ∧
      u.Abreast mine after (task.step u s).1 (task.step u s).2 (task.step u t).2 := by
  obtain ⟨rest, calls⟩ := task
  obtain ⟨written, agree, keeps⟩ := h
  cases keeps with
  | done within => exact ⟨rfl, written, agree, .done within⟩
  | @call _ c next _ minds blind goes =>
    obtain ⟨halike, hcalls, hagree⟩ := calm.reply_alike agree minds calls
    exact ⟨(congrArg₂ Task.mk (blind _ halike) hcalls).symm, _, hagree, goes⟩

/-- The next call of a task leaves the documents alone that are none of its own. -/
theorem get?_step (calm : u.Calm) (h : u.Abreast mine after task s t) {key : Key}
    (hkey : mine key → key.kind = .pod) : (task.step u t).2.get? key = t.get? key := by
  obtain ⟨rest, calls⟩ := task
  obtain ⟨written, agree, keeps⟩ := h
  cases keeps with
  | done => rfl
  | @call _ c next _ minds blind goes =>
    cases c with
    | request r => exact answer_get? (calm.spares fun _ => True) trivial (minds.spares hkey) _
    | _ => rfl

/-- A task comes to the same end in both stores. -/
theorem finish (calm : u.Calm) (h : u.Abreast mine after task s t) :
    (task.finish u t).1 = (task.finish u s).1 ∧
      (task.finish u t).2.calls = (task.finish u s).2.calls ∧
      (task.finish u s).2.store.AgreesOn mine after (task.finish u t).2.store ∧
      ∀ key, (mine key → key.kind = .pod) → (task.finish u t).2.store.get? key = t.get? key := by
  obtain ⟨rest, calls⟩ := task
  -- by induction on what is left to do: a call leads to the same rest in both stores
  induction rest generalizing calls s t with
  | done a =>
    obtain ⟨written, agree, ⟨within⟩⟩ := h
    exact ⟨rfl, rfl, agree.mono within, fun _ _ => rfl⟩
  | call c next ih =>
    obtain ⟨hsame, hnext⟩ := h.step calm
    obtain ⟨hresult, hcalls, hagree, hkept⟩ := ih _ _ hnext
    rw [← Task.finish_step u _ t, ← Task.finish_step u _ s, hsame]
    exact ⟨hresult, hcalls, hagree,
      fun key hkey => (hkept key hkey).trans (h.get?_step calm hkey)⟩

end Abreast

/-- Two tasks that keep to different documents of their own, but for pods. Whatever their turns are,
each makes the calls and comes to the result that it would alone, and the documents of each are what
they would be, but for the versions of those that it wrote. -/
theorem Calm.together_eq (calm : u.Calm) (calm' : v.Calm) {after' : Key → Prop}
    (apart : ∀ key, mine key → theirs key → key.kind = .pod) {first : Task α} {second : Task β}
    {s s' : Store} (hfirst : u.Abreast mine after first s t)
    (hsecond : v.Abreast theirs after' second s' t) (turns : List Turn) :
    let both := together u v turns first second t
    both.first = ((first.finish u s).1, (first.finish u s).2.calls) ∧
      both.second = ((second.finish v s').1, (second.finish v s').2.calls) ∧
      (first.finish u s).2.store.AgreesOn mine after both.store ∧
      (second.finish v s').2.store.AgreesOn theirs after' both.store := by
  -- a turn moves one task on, in its own store and in the common one; the other task only finds
  -- that documents have changed that are none of its own
  induction turns generalizing first second s s' t with
  | nil =>
    obtain ⟨hresult, hcalls, hagree, hkept⟩ := hfirst.finish calm
    have hsecond := hsecond.of_get? fun key htheirs =>
      hkept key fun hmine => apart key hmine htheirs
    obtain ⟨hresult', hcalls', hagree', hkept'⟩ := hsecond.finish calm'
    refine ⟨Prod.ext hresult hcalls, Prod.ext hresult' hcalls', ?_, hagree'⟩
    exact hagree.of_get? fun key hmine => hkept' key (apart key hmine)
  | cons turn turns ih =>
    cases turn with
    | first =>
      obtain ⟨hsame, hnext⟩ := hfirst.step calm
      have hother := hsecond.of_get? fun key htheirs =>
        hfirst.get?_step calm fun hmine => apart key hmine htheirs
      have hboth := ih hnext hother
      rw [first.finish_step, ← hsame] at hboth
      exact hboth
    | second =>
      obtain ⟨hsame, hnext⟩ := hsecond.step calm'
      have hother := hfirst.of_get? fun key hmine =>
        hsecond.get?_step calm' fun htheirs => apart key hmine htheirs
      have hboth := ih hother hnext
      rw [second.finish_step, ← hsame] at hboth
      exact hboth

end Surroundings

end ClusterOperator
