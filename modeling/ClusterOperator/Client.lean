import ClusterOperator.Error
import ClusterOperator.Request
import ClusterOperator.Web.Exchange
import ClusterOperator.Text.Percent

/-!
# The client of the orchestration API

A request to the orchestration API is sent over the web: the kind, the namespace and the name make
up the path, and an object travels as a JSON document. The response is the object asked for or a
body that says why the request failed; what such a body says counts, not the status code it came
with.

An object that is not found is no failure of a `get` or of a `delete`. A write that comes too late
is told from other failures.

## Main definitions

* `Request.message`: what is sent for a request.
* `Client.refusal`: why a request failed.
* `Request.accept`: the result in a response.
* `Client.answer`: a request sent over a connection.
-/

namespace ClusterOperator

open Web (Method Message Response)

namespace Client

/-- The path under which the objects of a kind are found. -/
def root : Kind → String
  | .configMap | .pod | .service => "/api/v1"
  | .statefulSet => "/apis/apps/v1"
  | .declaration => "/apis/" ++ Declaration.apiVersion

/-- The name of all objects of a kind. -/
def plural : Kind → String
  | .configMap => "configmaps"
  | .pod => "pods"
  | .service => "services"
  | .statefulSet => "statefulsets"
  | .declaration => "nacos"

/-- The path of the objects of a kind in a namespace. -/
def collection (k : Kind) (space : String) : String :=
  root k ++ "/namespaces/" ++ space ++ "/" ++ plural k

/-- The path of an object, which must have a name. -/
def member (k : Kind) (space name : String) : Except ApiProblem String :=
  if name.isEmpty then .error .emptyName else .ok (collection k space ++ "/" ++ name)

/-- The parameters of a request; each comes after an ampersand. -/
def parameters (ps : List (String × String)) : String :=
  "?" ++ String.join (ps.map fun p => "&" ++ p.1 ++ "=" ++ Percent.formValue p.2)

/-- The one in whose name a status is written. -/
def fieldManager : String := "nacos-operator"

/-- The type of JSON documents. -/
def documentType : String := "application/json"

/-- The type of JSON documents that are merged into the stored one. -/
def patchType : String := "application/merge-patch+json"

/-- The body of a deletion: what belongs to an object is deleted first. -/
def deletion : Json := .object [("propagationPolicy", .string "Foreground")]

/-- The body by which a status is written. -/
def statusPatch (d : Declaration) : Json :=
  .object [("status", (d.status.map Document.write).getD .null)]

/-- A message to a target, if the target can be written. -/
def message (method : Method) (target : String) (body : Option (String × Json)) :
    Except ApiProblem Message :=
  match Web.Target.parse target with
  | some target =>
    .ok { method, target, contentType := body.map (·.1), body := body.map (·.2) }
  | none => .error .badUri

/-- The body of a refusal that does not say why. -/
def unexplained (r : Response) : ApiResponse where
  status := Web.statusLine r.code
  message := Text.quoted r.body
  reason := "Failed to parse error data"
  code := (Width.ofInt? .unsigned16 r.code).getD default

/-- Why a request failed. -/
def refusal (r : Response) : ApiResponse :=
  match Document.readText ApiResponse r.body with
  | .ok refusal => refusal
  | .error _ => unexplained r

/-- The body of a response, unless it is a refusal. -/
def bodyOf : Option Response → Except ApiProblem String
  | none => .error .disconnected
  | some r => if r.isFailure then .error (.refused (refusal r)) else .ok r.body

/-- A document in a body. -/
def decode (α : Type) [Document α] (body : String) : Except ApiProblem α :=
  (Document.readText α body).mapError fun _ => .undecodable

/-! ### Lists and reports -/

/-- The shape of the metadata of a list. -/
def listMeta : Shape :=
  .lenient "ListMeta" (.optionals
    [("continue", .text), ("remainingItemCount", .integer .signed64),
      ("resourceVersion", .text), ("selfLink", .text)] .nil)

/-- The shape of a list of objects. -/
def listShape (item : Shape) : Shape :=
  .strict "ObjectList" (.cons "metadata" .defaulted listMeta
    (.cons "items" .nullable (.sequence item) .nil))

/-- The objects in the body of a list. The items must be given, if only as null. -/
def decodeList (k : Kind) (body : String) : Except ApiProblem (List k.Object) := do
  let some _ := (Json.parse body).toOption.bind (·.get? "items") | .error .undecodable
  match (listShape (Document.shape k.Object)).readText body with
  | .ok (_, items, _) => return ((items : Option (List _)).getD []).map Document.ofVal
  | .error _ => .error .undecodable

/-- The shape of a report about a request, in place of an object. -/
def reportShape : Shape :=
  .strict "Status" <|
    .optionals [("status", .choice "Success" ["Failure"])] <|
    .defaults [("code", .integer .unsigned16), ("message", .text), ("reason", .text)] <|
    .optionals
      [("details", .strict "StatusDetails" <|
        .defaults
          [("name", .text), ("group", .text), ("kind", .text), ("uid", .text),
            ("causes", .sequence <| .strict "StatusCause" <|
              .defaults [("reason", .text), ("message", .text), ("field", .text)] .nil),
            ("retryAfterSeconds", .integer .unsigned32)] .nil)] .nil

/-- Whether the body of an answer to a deletion can be read: it is a report or the object that is
being deleted. -/
def checkDeleted (k : Kind) (body : String) : Except ApiProblem Unit := do
  let some j := (Json.parse body).toOption | .error .undecodable
  if j.get? "kind" matches some (.string "Status") then
    match reportShape.readText body with
    | .ok _ => return ()
    | .error _ => .error .undecodable
  else
    let _ ← decode k.Object body
    return ()

end Client

namespace Request

open Client

/-- What is sent for a request. -/
def message : Request → Except ApiProblem Message
  | get k space name => do Client.message .get (← member k space name) none
  | create k space o =>
    Client.message .post (collection k space ++ parameters [])
      (some (documentType, Document.write o))
  | update k space o => do
    let path ← member k space (k.metadata o).displayName
    Client.message .put (path ++ parameters []) (some (documentType, Document.write o))
  | delete k space name => do
    Client.message .delete ((← member k space name) ++ parameters [])
      (some (documentType, deletion))
  | list k space selector =>
    let ps := selector.toList.map fun s => ("labelSelector", s)
    Client.message .get (collection k space ++ parameters ps) none
  | updateStatus d => do
    let path ← member .declaration d.metadata.spaceOrEmpty d.displayName
    Client.message .patch (path ++ "/status" ++ parameters [("fieldManager", fieldManager)])
      (some (patchType, statusPatch d))

/-- The failure of a write: one that comes too late is told by the code of the refusal. -/
def writeError (r : Request) : ApiProblem → Error
  | .refused refusal =>
    if refusal.code.val = 409 then
      .conflict (r.kind.name ++ " " ++ r.space ++ "/" ++ r.name ++ ": " ++ refusal.message)
    else .api (.refused refusal)
  | problem => .api problem

/-- The result of a request in its response; no response means that no connection came about. -/
def accept (r : Request) (response : Option Response) : Except Error r.Result :=
  match r with
  | get k _ _ =>
    match bodyOf response with
    | .ok body => ((decode k.Object body).map some).mapError .api
    | .error (.refused refusal) =>
      if refusal.reason = "NotFound" then .ok none else .error (.api (.refused refusal))
    | .error problem => .error (.api problem)
  | create k space o =>
    ((bodyOf response).bind (decode k.Object)).mapError (create k space o).writeError
  | update k space o =>
    ((bodyOf response).bind (decode k.Object)).mapError (update k space o).writeError
  | delete k _ _ =>
    match bodyOf response with
    | .ok body => (checkDeleted k body).mapError .api
    | .error (.refused refusal) =>
      if refusal.code.val = 404 then .ok () else .error (.api (.refused refusal))
    | .error problem => .error (.api problem)
  | list k _ _ => ((bodyOf response).bind (decodeList k)).mapError .api
  | updateStatus d =>
    (((bodyOf response).bind (decode Declaration)).map fun _ => ()).mapError
      (updateStatus d).writeError

end Request

namespace Client

variable {σ : Type}

/-- A request sent over a connection, which gives a response or none. A request that cannot be
written is not sent. -/
def answer (send : Message → σ → Option Response × σ) (r : Request) (s : σ) :
    Except Error r.Result × σ :=
  match r.message with
  | .error problem => (.error (.api problem), s)
  | .ok m =>
    let (response, s) := send m s
    (r.accept response, s)

end Client

end ClusterOperator
