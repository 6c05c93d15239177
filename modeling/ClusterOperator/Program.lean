import ClusterOperator.Health.NodeReport
import ClusterOperator.Request

/-!
# Programs of calls

What the operator does to the world is a sequence of calls: requests to the orchestration API,
questions to the servers, the remedy for a failed deployment, and a look at the clock. A `Program`
is that sequence as a value: each call is followed by what is done with its reply. A `World` gives
the replies, and the same program can be run in any world, or a call of one program between two
calls of another.

## Main definitions

* `Call`, `Call.Reply`: the calls and the types of their replies.
* `Program`: a result, or a call and what follows its reply.
* `World`, `Program.run`: what replies, and the result of a program in a world.
* `Pass`: programs that may stop early.

## Main results

* `Program.run_bind`: a program after another one is run in the world that the first one leaves.
-/

namespace ClusterOperator

/-- A pod whose server is asked how it is, at its address if it has one. -/
structure Target where
  pod : String
  address : Option String
  deriving DecidableEq

/-- Why a program stops early: an error, or a panic in something that was called. -/
inductive Stop where
  | error (e : Error)
  | panic
  deriving DecidableEq

/-- How a remedy ended: it came to its end or to its time limit, or it panicked. -/
inductive Healed where
  | returned
  | panicked
  deriving DecidableEq, Repr

/-- The calls to the world. -/
inductive Call where
  | request (r : Request)
  /-- Asks the servers of pods how they are, so many at a time. -/
  | poll (limit : Nat) (targets : List Target)
  /-- Applies the remedy, for at most so many seconds. -/
  | heal (limit : Nat) (declaration : Declaration)
  | clock

/-- The type of the reply to a call. -/
@[reducible] def Call.Reply : Call → Type
  | request r => Except Error r.Result
  | poll _ _ => Except Stop Unit
  | heal _ _ => Healed
  | clock => Instant

/-- A sequence of calls, each followed by what is done with its reply. -/
inductive Program (α : Type) where
  | done (result : α)
  | call (c : Call) (next : c.Reply → Program α)

namespace Program

variable {α β : Type}

/-- One call. -/
def perform (c : Call) : Program c.Reply := call c done

/-- One request to the orchestration API. -/
def request (r : Request) : Program (Except Error r.Result) := perform (.request r)

/-- A program followed by another one, which depends on the result of the first. -/
def bind : Program α → (α → Program β) → Program β
  | done a, f => f a
  | call c next, f => call c fun r => (next r).bind f

instance : Monad Program where
  pure := done
  bind := bind

theorem bind_done (p : Program α) : p.bind done = p := by
  induction p with
  | done a => rfl
  | call c next ih => exact congrArg (call c) (funext ih)

theorem bind_assoc {γ : Type} (p : Program α) (f : α → Program β) (g : β → Program γ) :
    (p.bind f).bind g = p.bind fun a => (f a).bind g := by
  induction p with
  | done a => rfl
  | call c next ih => exact congrArg (call c) (funext ih)

instance : LawfulMonad Program :=
  LawfulMonad.mk' Program (fun p => bind_done p) (fun _ _ => rfl) bind_assoc

end Program

/-- What replies to calls, in a state that calls change. -/
structure World (σ : Type) where
  reply : (c : Call) → σ → c.Reply × σ

namespace Program

variable {α β σ : Type}

/-- The result of a program in a world, and the state it leaves. -/
def run (w : World σ) : Program α → σ → α × σ
  | done a, s => (a, s)
  | call c next, s =>
    let (r, s') := w.reply c s
    (next r).run w s'

@[simp] theorem run_done (w : World σ) (a : α) (s : σ) : (done a).run w s = (a, s) := rfl

theorem run_bind (w : World σ) (p : Program α) (f : α → Program β) (s : σ) :
    (p.bind f).run w s = (f (p.run w s).1).run w (p.run w s).2 := by
  induction p generalizing s with
  | done a => rfl
  | call c next ih => exact ih _ _

end Program

/-- A program that may stop early. -/
abbrev Pass (α : Type) : Type := ExceptT Stop Program α

namespace Pass

variable {α : Type}

/-- A program whose error stops the pass. -/
def ofProgram (p : Program (Except Error α)) : Pass α :=
  ExceptT.mk (p.bind fun r => .done (r.mapError .error))

/-- A request whose failure stops the pass. -/
def request (r : Request) : Pass r.Result := ofProgram (.request r)

/-- A result that is an error stops the pass. -/
def ofExcept (r : Except Error α) : Pass α := ExceptT.mk (.done (r.mapError .error))

/-- Stops with a fault of the deployment. -/
def fault (f : Fault) : Pass α := throw (.error (.fatal f))

end Pass

end ClusterOperator
