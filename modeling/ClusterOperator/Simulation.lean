import ClusterOperator.Client
import ClusterOperator.Controller
import ClusterOperator.Health.NodeProbe
import ClusterOperator.Injection

/-!
# A simulated day of the controller

The controller runs against an orchestration API that is an object store, under a clock that moves
from one event to the next. A script says what other users of the API do and when; what is stored
or removed is delivered by the watches at once. Requests can be made to fail with a status code.

A pass takes no time, so its requests carry the second in which it was made. The servers cannot be
reached.

## Main definitions

* `Simulation`: the state of the simulated cluster.
* `Simulation.Step`: what the script can do.
* `Simulation.run`: the cluster after a script, up to a second.
* `Simulation.passes`: what was requested, by seconds.
-/

namespace ClusterOperator

namespace Simulation

/-- A request that was made. -/
structure Entry where
  second : Nat
  request : Request
  /-- The status code of the failure that the request ran into. -/
  failure : Option Nat

/-- The text of an entry. -/
def Entry.describe (e : Entry) : String :=
  e.request.summary ++ (e.failure.map fun code => " !" ++ code.repr).getD ""

/-- What the script can do. -/
inductive Step where
  | put (key : Key) (object : Json)
  | patch (key : Key) (merge : Json)
  | remove (key : Key)
  /-- Removes an object without any delivery. -/
  | vanish (key : Key)
  | inject (injection : Injection Nat)
  | clearInjections

end Simulation

/-- The state of a simulated cluster. -/
structure Simulation where
  settings : Settings
  /-- The reading of the clock at the start. -/
  start : Instant
  /-- The seconds since the start. -/
  now : Nat := 0
  store : Store := {}
  injections : List (Injection Nat) := []
  controller : Controller := {}
  /-- Whether the watches deliver what happens. -/
  watching : Bool := false
  /-- The requests that were made, the latest first. -/
  log : List Simulation.Entry := []

namespace Simulation

/-! ### Watches -/

/-- What the watches deliver about a document under a key; they skip one that cannot be read. -/
def deliveryOf? (key : Key) (gone : Bool) (j : Json) : Option Delivery :=
  (Document.read key.kind.Object j).toOption.bind (Delivery.of gone key.kind)

/-- Delivers what became of a document. -/
def deliver (s : Simulation) (key : Key) (gone : Bool) (document : Option Json) : Simulation :=
  match document.bind (deliveryOf? key gone) with
  | some delivery =>
    if s.watching then { s with controller := s.controller.deliver s.now delivery } else s
  | none => s

/-- Delivers what is stored under a key. -/
def announce (s : Simulation) (key : Key) : Simulation :=
  s.deliver key false (s.store.get? key)

/-- The watches start and deliver all that is stored. -/
def watch (s : Simulation) : Simulation :=
  s.store.objects.keys.foldl announce { s with watching := true }

/-! ### Steps of the script -/

/-- What a step of the script does. -/
def step (s : Simulation) : Step → Simulation
  | .put key object => { s with store := s.store.put key object }.announce key
  | .patch key merge =>
    { s with store := s.store.amend key (·.mergePatch merge) }.announce key
  | .remove key =>
    { s with store := s.store.remove key }.deliver key true (s.store.get? key)
  | .vanish key => { s with store := s.store.remove key }
  | .inject i => { s with injections := s.injections ++ [i] }
  | .clearInjections => { s with injections := [] }

/-! ### Passes -/

/-- The response to a request that is made to fail with a status code. -/
def failureResponse (code : Nat) : Web.Response where
  code := code
  body := (Json.object
    [("status", .string "Failure"), ("message", .string "injected"),
      ("reason", .string "Injected"), ("code", .integer code)]).render

/-- The simulation with a request written into the log. -/
def logged (s : Simulation) (request : Request) (failure : Option Nat) : Simulation :=
  { s with log := ⟨s.now, request, failure⟩ :: s.log }

/-- What is delivered after a request was granted: a write is, a deletion is as such. -/
def deliverResult (s : Simulation) (r : Request) (before : Option Json) : Simulation :=
  match r.verb with
  | .create | .update | .updateStatus => s.announce ⟨r.kind, r.space, r.name⟩
  | .delete => s.deliver ⟨r.kind, r.space, r.name⟩ true before
  | .get | .list => s

/-- How the orchestration API answers a request. -/
def answer (s : Simulation) (r : Request) : Except Error r.Result × Simulation :=
  match Injection.first? r s.injections with
  | some (code, rest) =>
    (r.accept (some (failureResponse code)), { s.logged r (some code) with injections := rest })
  | none =>
    let before := s.store.get? ⟨r.kind, r.space, r.name⟩
    match s.store.answer r with
    | (.ok result, store) => (.ok result, { s.logged r none with store }.deliverResult r before)
    | (.error refusal, store) => (.error refusal.error, { s.logged r none with store })

/-- What the clock reads. It is never on the second, so it never reads what a status says. -/
def clock (s : Simulation) : Instant := ((s.start.addSeconds? s.now).getD s.start).offSecond

/-- The reply of the server at an address: no server can be reached. -/
def server (address : String) : TimedReply :=
  ⟨0, match NodeProbe.ask NodeProbe.offline address with
    | .ok report => .report report
    | .error e => .failed e⟩

/-- How the simulated cluster replies. -/
def world : World Simulation where
  reply
    | .request r, s => s.answer r
    | .poll limit targets, s => (Polling.run limit (targets.map (Target.job server)), s)
    | .heal _ _, s => (.returned, s)
    | .clock, s => (s.clock, s)

/-- Makes a pass of a deployment that was taken, unless it is gone. -/
def pass (s : Simulation) (key : Key) : Simulation :=
  match s.controller.cache.get? key with
  | none => s
  | some d =>
    let (result, s) :=
      (reconcile s.settings d.metadata.spaceOrEmpty d.displayName).run world s
    { s with controller := s.controller.finish s.settings s.now key result }

/-- Makes the passes that are due, but no more than a number of them. -/
def settle : Nat → Simulation → Simulation
  | 0, s => s
  | passes + 1, s =>
    match s.controller.take? s.now with
    | none => s
    | some (key, controller) => settle passes ({ s with controller }.pass key)

/-- How many passes are made in one second at most. -/
def passesPerSecond : Nat := 100

/-! ### Time -/

/-- The script of a second and what comes later; a step whose second has gone by is done at once. -/
def split (now : Nat) (script : List (Nat × Step)) : List Step × List (Nat × Step) :=
  ((script.takeWhile (·.1 ≤ now)).map (·.2), script.dropWhile (·.1 ≤ now))

/-- The next second at which something happens. -/
def nextSecond? (s : Simulation) (script : List (Nat × Step)) : Option Nat :=
  match s.controller.nextTime?, script.head?.map (·.1) with
  | some a, some b => some (min a b)
  | a, b => a.or b

/-- Goes from second to second, at most so many times: in each, first the script and then the
passes. -/
def advance (last : Nat) : Nat → List (Nat × Step) → Simulation → Simulation
  | 0, _, s => s
  | seconds + 1, script, s =>
    let (steps, later) := split s.now script
    let s := settle passesPerSecond (steps.foldl step s)
    match s.nextSecond? later with
    | none => s
    | some next =>
      let next := max next (s.now + 1)
      if last < next then s else advance last seconds later { s with now := next }

/-- The cluster after a script, up to a second. What the script does at the start comes before the
watches. -/
def run (s : Simulation) (script : List (Nat × Step)) (last : Nat) : Simulation :=
  let s := ((script.filter (·.1 = 0)).map (·.2)).foldl step s
  advance last (last + 1) (script.filter (·.1 ≠ 0)) s.watch

/-- The texts of the requests of each second in which there were any, each text once. -/
def passes (s : Simulation) : List (Nat × List String) :=
  let log := s.log.reverse
  (log.map (·.second)).eraseDups.map fun second =>
    (second, ((log.filter (·.second = second)).map Entry.describe).eraseDups)

end Simulation

end ClusterOperator
