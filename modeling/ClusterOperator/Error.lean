import ClusterOperator.Document

/-!
# What can go wrong

Two families of failures are kept apart. A *fault* is the deployment's own: a declaration that
makes no sense, or servers that are missing or unwell. It ends a pass and is recorded in the status
of the deployment, under its code. Every other error concerns the means by which the operator
works: the orchestration API, the network, documents that cannot be read. It ends a pass too, but is
not recorded in the status.

Each cause is a constructor; the wording is given by `Fault.message` and `Error.message`.

## Main definitions

* `Fault`, `Fault.code`, `Fault.message`.
* `ApiResponse`, `ApiProblem`: how the orchestration API refuses.
* `UrlProblem`, `HttpProblem`: how a request over HTTP fails.
* `Error`, `Error.message`.
-/

namespace ClusterOperator

/-- What is wrong with a deployment. -/
inductive Fault where
  | unknownMode (value : String)
  | unknownBackend (value : String)
  | negativeReplicas (replicas : Signed32)
  | workloadMissing (space name : String)
  | replicasDiffer (live : Option Signed32) (declared : Signed32)
  | tooFewReady (ready : Signed32) (required : Int) (replicas : Signed32)
  | noAddress (pod : String)
  | unreachable (pod address reason : String)
  | unhealthy (pod address : String) (code : Signed32)
  /-- Any other fault, with its code and wording. -/
  | other (code : Signed32) (message : String)
  deriving DecidableEq

namespace Fault

/-- The code of a declaration that makes no sense. -/
def badParameter : Signed32 := ⟨400, by decide⟩

/-- The code of a workload that has not the declared number of replicas. -/
def replicaMismatch : Signed32 := ⟨501, by decide⟩

/-- The code of a deployment without a quorum of ready instances. -/
def quorumLost : Signed32 := ⟨502, by decide⟩

/-- The code of a server that cannot be reached or is unwell. -/
def serverUnreachable : Signed32 := ⟨503, by decide⟩

/-- The code under which a fault is recorded. -/
def code : Fault → Signed32
  | unknownMode _ | unknownBackend _ | negativeReplicas _ => badParameter
  | workloadMissing _ _ | replicasDiffer _ _ => replicaMismatch
  | tooFewReady _ _ _ => quorumLost
  | noAddress _ | unreachable _ _ _ | unhealthy _ _ _ => serverUnreachable
  | other code _ => code

/-- A number that may be missing, as messages show it. -/
def showOption : Option Signed32 → String
  | none => "None"
  | some n => "Some(" ++ n.val.repr ++ ")"

/-- The wording of a fault. -/
def message : Fault → String
  | unknownMode value => "invalid value " ++ Text.quoted value ++ " for spec.type"
  | unknownBackend value => "invalid value " ++ Text.quoted value ++ " for spec.database.type"
  | negativeReplicas replicas =>
    "spec.replicas must not be negative, got " ++ replicas.val.repr
  | workloadMissing space name => "workload " ++ space ++ "/" ++ name ++ " does not exist"
  | replicasDiffer live declared =>
    "workload replicas " ++ showOption live ++ " do not match spec replicas " ++
      declared.val.repr
  | tooFewReady ready required replicas =>
    "too few ready instances: " ++ ready.val.repr ++ " ready, " ++ required.repr ++
      " required of " ++ replicas.val.repr
  | noAddress pod => "pod " ++ pod ++ " is ready but has no address"
  | unreachable pod address reason =>
    "nacos on " ++ pod ++ " (" ++ address ++ ") is unreachable: " ++ reason
  | unhealthy pod address code =>
    "nacos on " ++ pod ++ " (" ++ address ++ ") reported code " ++ code.val.repr
  | other _ message => message

end Fault

/-- The body by which the orchestration API refuses a request. -/
structure ApiResponse where
  status : String
  message : String
  reason : String
  code : Width.unsigned16.Val
  deriving DecidableEq

namespace ApiResponse

instance : Document ApiResponse :=
  .ofMembers (.strictNamed "ErrorResponse")
    (.required "status" String <|
      .defaulted "message" String <|
      .defaulted "reason" String <|
      .required "code" Width.unsigned16.Val .nil)
    (fun (status, message, reason, code, _) => { status, message, reason, code })
    (fun r => (r.status, r.message, r.reason, r.code, ()))
    (fun _ => rfl) (fun _ => rfl)

/-- The wording of a refusal. -/
def describe (r : ApiResponse) : String :=
  "ApiError: " ++ r.message ++ ": " ++ r.reason ++ " (ErrorResponse \x7b status: " ++
    Text.quoted r.status ++ ", message: " ++ Text.quoted r.message ++ ", reason: " ++
    Text.quoted r.reason ++ ", code: " ++ r.code.val.repr ++ " \x7d)"

end ApiResponse

/-- Why the orchestration API gave no usable answer. -/
inductive ApiProblem where
  /-- A request was refused. -/
  | refused (response : ApiResponse)
  /-- An answer could not be read. -/
  | undecodable
  /-- No connection came about. -/
  | disconnected
  /-- An object was asked for without a name. -/
  | emptyName
  /-- A name does not fit into the path of a request. -/
  | badUri
  deriving DecidableEq

/-- The wording of a problem with the orchestration API. -/
def ApiProblem.message : ApiProblem → String
  | refused response => response.describe
  | undecodable => "Error deserializing response"
  | disconnected => "ServiceError: connection refused"
  | emptyName =>
    "Failed to build request: failed to validate request: A non-empty name is required"
  | badUri => "Failed to build request: failed to build request: invalid uri character"

/-- Why a text is no address of the web. -/
inductive UrlProblem where
  | emptyHost
  | badDomain
  | badPort
  | badIpv4
  | badIpv6
  deriving DecidableEq, Repr

/-- The wording of a problem with an address. -/
def UrlProblem.message : UrlProblem → String
  | emptyHost => "empty host"
  | badDomain => "invalid international domain name"
  | badPort => "invalid port number"
  | badIpv4 => "invalid IPv4 address"
  | badIpv6 => "invalid IPv6 address"

/-- Why a request over HTTP failed. -/
inductive HttpProblem where
  | badUrl (problem : UrlProblem)
  | networkUnreachable (url : String)
  deriving DecidableEq

/-- The wording of a failed request. -/
def HttpProblem.message : HttpProblem → String
  | badUrl problem => "builder error: " ++ problem.message
  | networkUnreachable url =>
    "error sending request for url (" ++ url ++ "): error trying to connect: " ++
      "tcp connect error: Network is unreachable (os error 101)"

/-- What can go wrong in a pass. -/
inductive Error where
  | fatal (fault : Fault)
  | api (problem : ApiProblem)
  /-- A write that came too late; says what was written. -/
  | conflict (subject : String)
  | http (problem : HttpProblem)
  /-- A document that is not of its type. -/
  | undecodable (problem : ReadProblem)
  /-- A text that is not of its type. -/
  | unreadable (problem : Located)
  /-- A deployment without a namespace. -/
  | noNamespace (name : String)
  /-- Anything else. -/
  | internal (text : String)
  deriving DecidableEq

namespace Error

/-- The wording of an error. -/
def message : Error → String
  | fatal fault => "[" ++ fault.code.val.repr ++ "] " ++ fault.message
  | api problem => "Kubernetes error: " ++ problem.message
  | conflict subject => "Conflict writing " ++ subject
  | http problem => "HTTP error: " ++ problem.message
  | undecodable problem => "Serialization error: " ++ problem.message
  | unreadable problem => "Serialization error: " ++ problem.message
  | noNamespace name => "Internal error: Nacos " ++ name ++ " has no namespace"
  | internal text => "Internal error: " ++ text

/-- Whether the error is recorded in the status of the deployment. -/
def isFatal : Error → Bool
  | fatal _ => true
  | _ => false

/-- Whether a write came too late. -/
def isConflict : Error → Bool
  | conflict _ => true
  | _ => false

/-- The code of a fault. -/
def code? : Error → Option Signed32
  | fatal fault => some fault.code
  | _ => none

end Error

end ClusterOperator
