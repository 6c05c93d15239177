import ClusterOperator.Rehearsal

/-!
# Surroundings

What a program of calls meets besides the objects that are stored: requests that fail, other
clients that write between two requests, servers and remedies that answer as they do, and a clock.
A failed request may have been carried out all the same, if only its answer was lost. What happens
may depend on all calls made before, so that any schedule of failures and of other writers is a
choice of surroundings.

In calm surroundings no request fails and nobody else writes. A rehearsal is a world of this kind:
its injected failures and its race are surroundings of the store it starts with.

## Main definitions

* `Failure`, `Surroundings`: what a program meets.
* `Scene`: the stored objects and the calls made so far.
* `Surroundings.run`, `Surroundings.pass`: what comes of a program.
* `Surroundings.Smooth`, `Surroundings.Calm`: no failures, and no other writers.
* `Rehearsal.surroundings`: the surroundings in a rehearsal.

## Main results

* `Surroundings.run_bind`, `Surroundings.pass_bind`: a program after another one.
* `Surroundings.Calm.answer_of_ok`: in calm surroundings the store answers.
* `Rehearsal.play_eq_run`: a program comes to the same in a rehearsal and in its surroundings.
-/

namespace ClusterOperator

/-- A failure of a request: the error that comes back, and whether the request was carried out
all the same. -/
structure Failure where
  error : Error
  carriedOut : Bool := false

/-- What a program meets besides the stored objects; requests and the clock may depend on the calls
made before. -/
structure Surroundings where
  /-- The failure that a request runs into. -/
  failure : List Call → Request → Option Failure := fun _ _ => none
  /-- What other clients have made of the store when a request arrives. -/
  others : List Call → Request → Store → Store := fun _ _ s => s
  /-- How the servers reply, by address. -/
  probe : String → TimedReply
  healed : Healed := .returned
  clock : List Call → Instant
  /-- The error that stands for a refusal of the store. -/
  refusal : Store.Refusal → Error := Store.Refusal.error

/-- The stored objects, and the calls made so far. -/
structure Scene where
  store : Store
  calls : List Call := []

namespace Scene

/-- The scene after a call that leaves the store as it is. -/
def after (scene : Scene) (c : Call) : Scene := { scene with calls := scene.calls ++ [c] }

@[simp] theorem store_after (scene : Scene) (c : Call) : (scene.after c).store = scene.store := rfl

@[simp] theorem calls_after (scene : Scene) (c : Call) :
    (scene.after c).calls = scene.calls ++ [c] := rfl

end Scene

namespace Surroundings

variable {α β : Type}

/-- The answer to a request, and the store that it leaves. -/
def answer (u : Surroundings) (r : Request) (scene : Scene) : Except Error r.Result × Store :=
  let found := u.others scene.calls r scene.store
  match u.failure scene.calls r with
  | none => ((found.answer r).1.mapError u.refusal, (found.answer r).2)
  | some f => (.error f.error, if f.carriedOut then (found.answer r).2 else found)

/-- The scene after a request. -/
def requested (u : Surroundings) (r : Request) (scene : Scene) : Scene :=
  ⟨(u.answer r scene).2, scene.calls ++ [.request r]⟩

/-- How the surroundings reply to calls. -/
def world (u : Surroundings) : World Scene where
  reply
    | .request r, scene => ((u.answer r scene).1, u.requested r scene)
    | .poll limit targets, scene =>
      (Polling.run limit (targets.map (Target.job u.probe)), scene.after (.poll limit targets))
    | .heal limit d, scene => (u.healed, scene.after (.heal limit d))
    | .clock, scene => (u.clock scene.calls, scene.after .clock)

/-- The result of a program, and the scene that it leaves. -/
def run (u : Surroundings) (p : Program α) (scene : Scene) : α × Scene := p.run u.world scene

/-- The result of a program that may stop early, and the scene that it leaves. -/
def pass (u : Surroundings) (x : Pass α) (scene : Scene) : Except Stop α × Scene :=
  u.run x.run scene

variable (u : Surroundings)

/-! ### Programs -/

@[simp] theorem run_pure (a : α) (scene : Scene) :
    u.run (pure a : Program α) scene = (a, scene) := rfl

theorem run_bind (p : Program α) (f : α → Program β) (scene : Scene) :
    u.run (p >>= f) scene = u.run (f (u.run p scene).1) (u.run p scene).2 :=
  Program.run_bind u.world p f scene

theorem run_request (r : Request) (scene : Scene) :
    u.run (Program.request r) scene = ((u.answer r scene).1, u.requested r scene) := rfl

theorem run_heal (limit : Nat) (d : Declaration) (scene : Scene) :
    u.run (Program.perform (.heal limit d)) scene = (u.healed, scene.after (.heal limit d)) := rfl

/-! ### Programs that may stop early -/

@[simp] theorem pass_pure (a : α) (scene : Scene) :
    u.pass (pure a : Pass α) scene = (.ok a, scene) := rfl

/-- What follows is run only if there is a result to go on with. -/
theorem pass_bind (x : Pass α) (f : α → Pass β) (scene : Scene) :
    u.pass (x >>= f) scene =
      match u.pass x scene with
      | (.ok a, left) => u.pass (f a) left
      | (.error stop, left) => (.error stop, left) := by
  have h := u.run_bind x.run (ExceptT.bindCont f) scene
  unfold pass
  refine Eq.trans h ?_
  rcases u.run x.run scene with ⟨_ | a, left⟩ <;> rfl

/-- A program goes on from the result of the one before. -/
theorem pass_bind_of_ok {x : Pass α} {scene left : Scene} {a : α}
    (h : u.pass x scene = (.ok a, left)) (f : α → Pass β) :
    u.pass (x >>= f) scene = u.pass (f a) left := by
  rw [pass_bind, h]

theorem pass_bind_of_error {x : Pass α} {scene left : Scene} {stop : Stop}
    (h : u.pass x scene = (.error stop, left)) (f : α → Pass β) :
    u.pass (x >>= f) scene = (.error stop, left) := by
  rw [pass_bind, h]

/-- A result of a program in two parts is one of the second part after one of the first. -/
theorem pass_bind_eq_ok {x : Pass α} {f : α → Pass β} {scene : Scene} {b : β}
    (h : (u.pass (x >>= f) scene).1 = .ok b) :
    ∃ a left, u.pass x scene = (.ok a, left) ∧ (u.pass (f a) left).1 = .ok b := by
  rw [pass_bind] at h
  rcases hx : u.pass x scene with ⟨_ | a, left⟩
  · rw [hx] at h
    cases h
  · rw [hx] at h
    exact ⟨a, left, rfl, h⟩

/-- What is made of a result at the end changes nothing else. -/
theorem pass_bind_pure (x : Pass α) (f : α → β) (scene : Scene) :
    u.pass (do let a ← x; return f a) scene =
      ((u.pass x scene).1.map f, (u.pass x scene).2) := by
  rw [pass_bind]
  rcases u.pass x scene with ⟨_ | a, left⟩ <;> rfl

theorem pass_request (r : Request) (scene : Scene) :
    u.pass (Pass.request r) scene =
      ((u.answer r scene).1.mapError .error, u.requested r scene) := rfl

theorem pass_request_of_ok {r : Request} {scene : Scene} {a : r.Result}
    (h : (u.answer r scene).1 = .ok a) :
    u.pass (Pass.request r) scene = (.ok a, u.requested r scene) := by
  rw [pass_request, h]
  rfl

theorem pass_request_of_error {r : Request} {scene : Scene} {e : Error}
    (h : (u.answer r scene).1 = .error e) :
    u.pass (Pass.request r) scene = (.error (.error e), u.requested r scene) := by
  rw [pass_request, h]
  rfl

/-- A result after a request is one after its answer. -/
theorem pass_request_bind_eq_ok {r : Request} {f : r.Result → Pass β} {scene : Scene} {b : β}
    (h : (u.pass (Pass.request r >>= f) scene).1 = .ok b) :
    ∃ a, (u.answer r scene).1 = .ok a ∧ (u.pass (f a) (u.requested r scene)).1 = .ok b := by
  obtain ⟨a, left, ha, hb⟩ := u.pass_bind_eq_ok h
  cases hanswer : (u.answer r scene).1 with
  | error e => cases (u.pass_request_of_error hanswer).symm.trans ha
  | ok a' =>
    cases (u.pass_request_of_ok hanswer).symm.trans ha
    exact ⟨a, rfl, hb⟩

theorem pass_ofExcept (r : Except Error α) (scene : Scene) :
    u.pass (Pass.ofExcept r) scene = (r.mapError .error, scene) := rfl

theorem pass_poll (limit : Nat) (targets : List Target) (scene : Scene) :
    u.pass (ExceptT.mk (Program.perform (.poll limit targets))) scene =
      (Polling.run limit (targets.map (Target.job u.probe)),
        scene.after (.poll limit targets)) := rfl

/-! ### Calm surroundings -/

/-- No request fails. -/
def Smooth (u : Surroundings) : Prop := ∀ earlier r, u.failure earlier r = none

/-- No request fails, and nobody else writes. -/
structure Calm (u : Surroundings) : Prop where
  failure : ∀ earlier r, u.failure earlier r = none
  others : ∀ earlier r s, u.others earlier r s = s

variable {u}

theorem Calm.smooth (calm : u.Calm) : u.Smooth := calm.failure

theorem Smooth.answer (smooth : u.Smooth) (r : Request) (scene : Scene) :
    u.answer r scene =
      (((u.others scene.calls r scene.store).answer r).1.mapError u.refusal,
        ((u.others scene.calls r scene.store).answer r).2) := by
  simp only [Surroundings.answer, smooth scene.calls r]

theorem Calm.answer (calm : u.Calm) (r : Request) (scene : Scene) :
    u.answer r scene = ((scene.store.answer r).1.mapError u.refusal, (scene.store.answer r).2) := by
  rw [calm.smooth.answer, calm.others]

/-- In calm surroundings the store answers. -/
theorem Calm.answer_of_ok (calm : u.Calm) {r : Request} {scene : Scene} {a : r.Result}
    {s : Store} (h : scene.store.answer r = (.ok a, s)) : u.answer r scene = (.ok a, s) := by
  rw [calm.answer, h]
  rfl

theorem Calm.requested_of_ok (calm : u.Calm) {r : Request} {scene : Scene} {a : r.Result}
    {s : Store} (h : scene.store.answer r = (.ok a, s)) :
    u.requested r scene = ⟨s, scene.calls ++ [.request r]⟩ := by
  rw [requested, calm.answer_of_ok h]

theorem Calm.pass_request (calm : u.Calm) {r : Request} {scene : Scene} {a : r.Result}
    {s : Store} (h : scene.store.answer r = (.ok a, s)) :
    u.pass (Pass.request r) scene = (.ok a, ⟨s, scene.calls ++ [.request r]⟩) := by
  rw [Surroundings.pass_request, requested, calm.answer_of_ok h]
  rfl

/-- Surroundings in which all goes well. -/
def well : Surroundings where
  probe _ := ⟨0, .report { code := NodeReport.healthy }⟩
  clock _ := Instant.epoch

theorem calm_well : well.Calm := ⟨fun _ _ => rfl, fun _ _ _ => rfl⟩

end Surroundings

/-! ### Rehearsals -/

namespace Rehearsal

/-- The failures that are left for later after calls. -/
def injectionsAfter (is : List (Injection Error)) : List Call → List (Injection Error)
  | [] => is
  | .request r :: rest =>
    match Injection.first? r is with
    | some (_, left) => injectionsAfter left rest
    | none => injectionsAfter is rest
  | _ :: rest => injectionsAfter is rest

/-- The surroundings in a rehearsal: its injected failures, and the writer of its race. -/
def surroundings (s : Rehearsal) : Surroundings where
  failure earlier r :=
    (Injection.first? r (injectionsAfter s.injections earlier)).map fun found => ⟨found.1, false⟩
  others earlier r store :=
    match Injection.first? r (injectionsAfter s.injections earlier) with
    | some _ => store
    | none => { s with store }.storeFor r
  probe := s.server
  healed := s.remedy.healed
  clock _ := s.clock
  refusal := s.refusalError

theorem injectionsAfter_append (is : List (Injection Error)) (calls : List Call) (c : Call) :
    injectionsAfter is (calls ++ [c]) = injectionsAfter (injectionsAfter is calls) [c] := by
  induction calls generalizing is with
  | nil => rfl
  | cons first rest ih =>
    cases first with
    | request r =>
      simp only [List.cons_append, injectionsAfter]
      cases Injection.first? r is with
      | none => exact ih is
      | some found => exact ih found.2
    | _ => exact ih is

/-- A rehearsal that began as another one and has come to a scene. -/
structure At (began : Rehearsal) (scene : Scene) (s : Rehearsal) : Prop where
  store : s.store = scene.store
  injections : s.injections = injectionsAfter began.injections scene.calls
  race : s.race = began.race
  servers : s.servers = began.servers
  remedy : s.remedy = began.remedy
  now : s.now = began.now
  refusalError : s.refusalError = began.refusalError

namespace At

variable {began s : Rehearsal} {scene : Scene}

theorem initial (s : Rehearsal) : s.At ⟨s.store, []⟩ s := ⟨rfl, rfl, rfl, rfl, rfl, rfl, rfl⟩

theorem server (h : began.At scene s) : s.server = began.server := by
  funext address
  simp only [Rehearsal.server, h.servers]

theorem storeFor (h : began.At scene s) (r : Request) :
    s.storeFor r = { began with store := scene.store }.storeFor r := by
  simp only [Rehearsal.storeFor, h.race, h.store]

/-- A request is answered in the rehearsal as in its surroundings. -/
theorem answer (h : began.At scene s) (r : Request) :
    (s.answer r).1 = (began.surroundings.answer r scene).1 ∧
      began.At ⟨(began.surroundings.answer r scene).2, scene.calls ++ [.request r]⟩
        (s.answer r).2 := by
  have hleft := injectionsAfter_append began.injections scene.calls (.request r)
  rw [← h.injections] at hleft
  have hfailure : began.surroundings.failure scene.calls r =
      (Injection.first? r s.injections).map fun found => ⟨found.1, false⟩ :=
    h.injections ▸ rfl
  cases hhit : Injection.first? r s.injections with
  | some found =>
    have hothers : began.surroundings.others scene.calls r scene.store = scene.store := by
      simp only [surroundings, ← h.injections, hhit]
    simp only [injectionsAfter, hhit] at hleft
    simp only [hhit, Option.map_some] at hfailure
    simp only [Rehearsal.answer, hhit, Surroundings.answer, hfailure, hothers, Bool.false_eq_true,
      if_false]
    exact ⟨trivial, h.store, hleft.symm, h.race, h.servers, h.remedy, h.now, h.refusalError⟩
  | none =>
    have hothers : began.surroundings.others scene.calls r scene.store = s.storeFor r := by
      simp only [surroundings, ← h.injections, hhit, h.storeFor]
    simp only [injectionsAfter, hhit] at hleft
    simp only [hhit, Option.map_none] at hfailure
    simp only [Rehearsal.answer, hhit, Surroundings.answer, hfailure, hothers]
    rcases hanswer : (s.storeFor r).answer r with ⟨refusal | result, store⟩
    · exact ⟨congrArg (fun wording => Except.error (wording refusal)) h.refusalError, rfl,
        hleft.symm, h.race, h.servers, h.remedy, h.now, h.refusalError⟩
    · exact ⟨rfl, rfl, hleft.symm, h.race, h.servers, h.remedy, h.now, h.refusalError⟩

/-- A call that is no request leaves the injected failures. -/
theorem after (h : began.At scene s) {c : Call} (hc : ∀ is, injectionsAfter is [c] = is)
    (asked : List String) (heals : Nat) :
    began.At (scene.after c) { s with asked, heals } := by
  refine ⟨h.store, ?_, h.race, h.servers, h.remedy, h.now, h.refusalError⟩
  rw [Scene.calls_after, injectionsAfter_append, hc]
  exact h.injections

/-- A call gets the reply in the rehearsal that it gets in its surroundings. -/
theorem reply (h : began.At scene s) (c : Call) :
    (world.reply c s).1 = (began.surroundings.world.reply c scene).1 ∧
      began.At (began.surroundings.world.reply c scene).2 (world.reply c s).2 := by
  cases c with
  | request r => exact h.answer r
  | poll limit targets =>
    refine ⟨?_, h.after (fun _ => rfl) _ _⟩
    exact congrArg (fun server => Polling.run limit (targets.map (Target.job server))) h.server
  | heal limit d => exact ⟨congrArg Remedy.healed h.remedy, h.after (fun _ => rfl) _ _⟩
  | clock => exact ⟨congrArg Instant.offSecond h.now, h.after (fun _ => rfl) _ _⟩

theorem play {α : Type} (h : began.At scene s) (p : Program α) :
    (s.play p).1 = (began.surroundings.run p scene).1 ∧
      began.At (began.surroundings.run p scene).2 (s.play p).2 := by
  induction p generalizing s scene with
  | done a => exact ⟨rfl, h⟩
  | call c next ih =>
    obtain ⟨hreply, hat⟩ := h.reply c
    have hnext := ih (world.reply c s).1 hat
    refine ⟨hnext.1.trans ?_, ?_⟩
    · exact congrArg
        (fun r => (began.surroundings.run (next r) (began.surroundings.world.reply c scene).2).1)
        hreply
    · have hscene : began.surroundings.run (next (world.reply c s).1)
          (began.surroundings.world.reply c scene).2 =
            began.surroundings.run (Program.call c next) scene :=
        congrArg
          (fun r => began.surroundings.run (next r) (began.surroundings.world.reply c scene).2)
          hreply
      exact hscene ▸ hnext.2

end At

/-- A program comes to the same in a rehearsal and in its surroundings. -/
theorem play_eq_run {α : Type} (s : Rehearsal) (p : Program α) :
    (s.play p).1 = (s.surroundings.run p ⟨s.store, []⟩).1 ∧
      (s.play p).2.store = (s.surroundings.run p ⟨s.store, []⟩).2.store :=
  ⟨((At.initial s).play p).1, ((At.initial s).play p).2.store⟩

/-- A rehearsal without injected failures and without a race has calm surroundings. -/
theorem calm_surroundings {s : Rehearsal} (injections : s.injections = []) (race : s.race = false) :
    s.surroundings.Calm := by
  have hnone : ∀ earlier, injectionsAfter s.injections earlier = [] := by
    intro earlier
    rw [injections]
    induction earlier with
    | nil => rfl
    | cons c rest ih => cases c <;> exact ih
  refine ⟨fun earlier r => ?_, fun earlier r store => ?_⟩
  · simp only [surroundings, hnone, Injection.first?, Option.map_none]
  · simp only [surroundings, hnone, Injection.first?, storeFor, race, Bool.false_and,
      Bool.false_eq_true, if_false]

end Rehearsal

end ClusterOperator
