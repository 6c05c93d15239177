import ClusterOperator.Program

/-!
# Polling servers

The servers of a deployment are asked how they are, in the order of their pods and a limited number
at a time. A request starts when the pod that lies the limit before it has been accounted for, and
pods are accounted for in their order, each once it and all before it have answered. The first pod
that is unwell ends the polling. So which failure is reported does not depend on how fast the
others are; only a panic ends the polling at the moment it happens.

Time is counted in milliseconds from the start of the polling.

## Main definitions

* `Target.verdict`: what the reply of a server says about its pod.
* `Polling.Job`, `Polling.Outcome`: a request, how long it takes and how it ends.
* `Polling.timeline`: when each request starts, ends and is accounted for.
* `Polling.run`: how the polling ends.
* `Polling.oneByOne`: the first failure in the order of the pods.
-/

namespace ClusterOperator

/-- How a server replied: with a report, with an error, or by a panic of the one who asked. -/
inductive ProbeReply where
  | report (r : NodeReport)
  | failed (e : Error)
  | panicked

/-- The reply of a server and after how many milliseconds it came. -/
structure TimedReply where
  delay : Nat
  reply : ProbeReply

namespace Polling

/-- How the request to a pod ends. -/
inductive Outcome where
  | healthy
  | unwell (fault : Fault)
  | panicked
  deriving DecidableEq

/-- A request to a pod. -/
structure Job where
  delay : Nat
  outcome : Outcome

end Polling

namespace Target

/-- What the reply of a server at an address says about its pod: healthy by the right code alone. -/
def verdict (pod address : String) : ProbeReply → Polling.Outcome
  | .report r =>
    if r.code = NodeReport.healthy then .healthy else .unwell (.unhealthy pod address r.code)
  | .failed e => .unwell (.unreachable pod address e.message)
  | .panicked => .panicked

/-- The request to a pod. One without an address is not asked and unwell at once. -/
def job (probe : String → TimedReply) (t : Target) : Polling.Job :=
  match t.address with
  | none => ⟨0, .unwell (.noAddress t.pod)⟩
  | some address => ⟨(probe address).delay, verdict t.pod address (probe address).reply⟩

end Target

namespace Polling

/-- When a request starts, ends and is accounted for. -/
structure Slot where
  start : Nat
  finish : Nat
  accounted : Nat
  outcome : Outcome

/-- The times of requests; `before` holds when the requests before them were accounted for, the
latest first. -/
def timeline (limit : Nat) : List Nat → List Job → List Slot
  | _, [] => []
  | before, job :: rest =>
    let start := before[limit - 1]?.getD 0
    let finish := start + job.delay
    let accounted := max finish (before.head?.getD 0)
    ⟨start, finish, accounted, job.outcome⟩ :: timeline limit (accounted :: before) rest

/-- How the polling ends, from the times of the requests. A panic of a later request counts if it
happens before the first unwell pod is accounted for. -/
def conclude : List Slot → Except Stop Unit
  | [] => .ok ()
  | slot :: rest =>
    match slot.outcome with
    | .healthy => conclude rest
    | .panicked => .error .panic
    | .unwell fault =>
      if rest.any fun later => later.outcome = .panicked ∧ later.finish < slot.accounted then
        .error .panic
      else .error (.error (.fatal fault))

/-- How the polling of a list of requests ends, so many at a time but at least one. -/
def run (limit : Nat) (jobs : List Job) : Except Stop Unit :=
  conclude (timeline (max 1 limit) [] jobs)

/-- How polling ends if the requests are made one after the other. -/
def oneByOne : List Job → Except Stop Unit
  | [] => .ok ()
  | job :: rest =>
    match job.outcome with
    | .healthy => oneByOne rest
    | .panicked => .error .panic
    | .unwell fault => .error (.error (.fatal fault))

/-- How many requests are made at most: all, or as many as are under way when a pod is found
unwell. -/
def reached (limit : Nat) (jobs : List Job) : Nat :=
  match jobs.findIdx? fun job => job.outcome ≠ .healthy with
  | none => jobs.length
  | some i => min jobs.length (i + max 1 limit)

/-- The addresses that are asked, in order. -/
def asked (probe : String → TimedReply) (limit : Nat) (targets : List Target) : List String :=
  (targets.take (reached limit (targets.map (Target.job probe)))).filterMap (·.address)

end Polling

end ClusterOperator
