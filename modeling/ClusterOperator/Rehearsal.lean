import ClusterOperator.Health.Polling
import ClusterOperator.Injection
import ClusterOperator.Store

/-!
# Rehearsals

A rehearsal is a world in which the operator can be tried out. Its orchestration API is an object
store, requests can be made to fail, another writer can be at work before every update, each server
answers after a delay as it is told, and so does the remedy. Every request is written into a log
together with how it ended.

## Main definitions

* `Rehearsal`: the state of the world.
* `Rehearsal.Entry`: a line of the log.
* `Rehearsal.world`: how the world replies.
* `Rehearsal.play`: the result of a program.
* `Rehearsal.insert`, `Rehearsal.failWrites`, `Rehearsal.answered`: setting up and counting.
-/

namespace ClusterOperator

/-- The key of the object that a request is about. -/
def Request.key (r : Request) : Key := ⟨r.kind, r.space, r.name⟩

namespace Rehearsal

/-- How a request ended. -/
inductive Ending where
  | answered
  /-- It ran into an injected failure. -/
  | injected
  /-- The store turned it down. -/
  | denied
  deriving DecidableEq, Repr

/-- What an ending adds to the line of its request. -/
def Ending.mark : Ending → String
  | answered => ""
  | injected => " !fault"
  | denied => " !refused"

/-- A line of the log. -/
structure Entry where
  request : Request
  ending : Ending

/-- The text of a line. -/
def Entry.describe (e : Entry) : String := e.request.describe ++ e.ending.mark

/-- What the remedy does. -/
inductive Remedy where
  | returns
  | hangs
  | panics
  deriving DecidableEq, Repr

/-- How a remedy ends under a time limit. -/
def Remedy.healed : Remedy → Healed
  | returns | hangs => .returned
  | panics => .panicked

end Rehearsal

/-- The state of a world for trying things out. -/
structure Rehearsal where
  store : Store := {}
  injections : List (Injection Error) := []
  /-- Whether another writer changes an object before each update. -/
  race : Bool := false
  /-- How the servers reply, by address; one that is not told replies that it is well. -/
  servers : Dict TimedReply := ∅
  remedy : Rehearsal.Remedy := .returns
  /-- How often the remedy was applied. -/
  heals : Nat := 0
  /-- The second in which all happens. -/
  now : Instant
  log : List Rehearsal.Entry := []
  /-- The addresses that were asked. -/
  asked : List String := []
  /-- The error that stands for a refusal of the store. -/
  refusalError : Store.Refusal → Error := Store.Refusal.error

namespace Rehearsal

/-- The reply of the server at an address. -/
def server (s : Rehearsal) (address : String) : TimedReply :=
  (s.servers.get? address).getD ⟨0, .report { code := NodeReport.healthy }⟩

/-- The world with a request written into the log. -/
def logged (s : Rehearsal) (r : Request) (ending : Ending) : Rehearsal :=
  { s with log := s.log ++ [⟨r, ending⟩] }

/-- The store as a request finds it: before an update, another writer may have changed the
object. -/
def storeFor (s : Rehearsal) (r : Request) : Store :=
  if s.race && r.verb == .update then s.store.amend r.key id else s.store

/-- How the orchestration API answers a request. -/
def answer (s : Rehearsal) (r : Request) : Except Error r.Result × Rehearsal :=
  match Injection.first? r s.injections with
  | some (e, rest) => (.error e, { s.logged r .injected with injections := rest })
  | none =>
    match (s.storeFor r).answer r with
    | (.ok result, store) => (.ok result, { s.logged r .answered with store })
    | (.error refusal, store) =>
      let ending : Ending := if refusal.isDenial then .denied else .answered
      (.error (s.refusalError refusal), { s.logged r ending with store })

/-- How many requests of a verb were answered. -/
def answered (s : Rehearsal) (verb : Verb) : Nat :=
  (s.log.filter fun e => e.request.verb == verb && e.ending == .answered).length

/-- What the clock reads. It is never on the second, so it never reads what a status says. -/
def clock (s : Rehearsal) : Instant := s.now.offSecond

/-- Asks one server. -/
def askServer (s : Rehearsal) (address : String) : ProbeReply × Rehearsal :=
  ((s.server address).reply, { s with asked := s.asked ++ [address] })

/-- The world in which every write fails with an error from now on. -/
def failWrites (s : Rehearsal) (error : Error) : Rehearsal :=
  { s with
    injections := [Verb.create, .update, .delete].map fun verb => ⟨some verb, none, error, none⟩ }

/-- The world with an object stored from outside. -/
def insert (s : Rehearsal) (k : Kind) (o : k.Object) : Rehearsal :=
  { s with store := (s.store.write (Store.keyOf k (k.metadata o).spaceOrEmpty o) o).2 }

/-- How the world replies. -/
def world : World Rehearsal where
  reply
    | .request r, s => s.answer r
    | .poll limit targets, s =>
      (Polling.run limit (targets.map (Target.job s.server)),
        { s with asked := s.asked ++ Polling.asked s.server limit targets })
    | .heal _ _, s => (s.remedy.healed, { s with heals := s.heals + 1 })
    | .clock, s => (s.clock, s)

/-- The result of a program, and the world that it leaves. -/
def play {α : Type} (p : Program α) (s : Rehearsal) : α × Rehearsal := p.run world s

end Rehearsal

end ClusterOperator
