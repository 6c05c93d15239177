import ClusterOperator.Kubernetes.Quantity
import ClusterOperator.Objects

/-!
# Drift

A live child has drifted when it differs from the desired one in something the operator looks
after. The API server fills in fields that were left open, respells amounts and owns some fields of
its own, and none of that is drift. Before a drifted child is written, what the server owns is
adopted from the live one.

## Main definitions

* `Drift.covers`: whether every value that one document states also stands in another.
* `Drift.sameResources`, `Drift.sameProbe`.
* `Child.drifted`, `Child.adopt`.
-/

namespace ClusterOperator

open Kubernetes

namespace Drift

/-- Whether two values that are neither lists nor objects are equal. -/
def sameScalar : Json → Json → Bool
  | .bool a, .bool b => a == b
  | .integer a, .integer b => a == b
  | .real a, .real b => Binary64.same a.toNat b.toNat
  | .string a, .string b => a == b
  | _, _ => false

mutual

/-- Whether every value that `want` states also stands in `have`: null states nothing, an object
states its members, a list its items and their number. An empty list or object may be missing. -/
def covers : Json → Json → Bool
  | .null, _ => true
  | .object members, .null => members.isEmpty
  | .array items, .null => items.isEmpty
  | .object members, .object others => coversMembers members others
  | .array items, .array others => coversItems items others
  | want, other => sameScalar want other

/-- Whether every member of an object is covered by the member of the same name. -/
def coversMembers : List (String × Json) → List (String × Json) → Bool
  | [], _ => true
  | (name, want) :: rest, others =>
    covers want ((SortedMap.Entries.lookup name others).getD .null) && coversMembers rest others

/-- Whether two lists are as long as each other and cover each other item by item. -/
def coversItems : List Json → List Json → Bool
  | [], [] => true
  | want :: rest, other :: others => covers want other && coversItems rest others
  | _, _ => false

end

/-- Whether the document of one value covers that of another. -/
def sameFields {α : Type} [Document α] (want live : α) : Bool :=
  covers (Document.write want) (Document.write live)

/-- Whether two maps of amounts have the same keys with the same amounts. -/
def sameQuantities (want live : Option Quantities) : Bool :=
  let want := want.getD ∅
  let live := live.getD ∅
  want.size == live.size &&
    want.entries.all fun (name, amount) => (live.get? name).any (Quantity.same amount)

/-- Whether two requirements, an absent one being empty, ask for the same. -/
def sameResources (want live : Option ResourceRequirements) : Bool :=
  let want := want.getD {}
  let live := live.getD {}
  sameQuantities want.limits live.limits && sameQuantities want.requests live.requests

/-- Whether two probes are both absent, or the live one covers the desired one. -/
def sameProbe : Option Probe → Option Probe → Bool
  | none, none => true
  | some want, some live => sameFields want live
  | _, _ => false

/-- Whether a container differs in something the operator looks after. -/
def containerDrifted (want live : Container) : Bool :=
  want.image != live.image ||
    !sameResources want.resources live.resources ||
    !sameFields (want.env.getD []) (live.env.getD []) ||
    !sameFields (want.volumeMounts.getD []) (live.volumeMounts.getD []) ||
    !sameProbe want.livenessProbe live.livenessProbe ||
    !sameProbe want.readinessProbe live.readinessProbe

end Drift

namespace Kubernetes

namespace StatefulSet

/-- The specification of the pods of a stateful set. -/
def podSpec? (s : StatefulSet) : Option PodSpec := s.spec.bind (·.template.spec)

/-- The first container of the pods. -/
def container? (s : StatefulSet) : Option Container := s.podSpec?.bind (·.containers.head?)

/-- The volumes of the pods. -/
def volumes (s : StatefulSet) : List Volume := (s.podSpec?.bind (·.volumes)).getD []

/-- The declared number of pods. -/
def replicas? (s : StatefulSet) : Option Signed32 := s.spec.bind (·.replicas)

/-- Whether a live stateful set differs in its number of pods, their volumes or their first
container. Claims cannot be changed once they are made and are not compared. -/
def drifted (want live : StatefulSet) : Bool :=
  want.replicas? != live.replicas? ||
    !Drift.sameFields want.volumes live.volumes ||
    match want.container?, live.container? with
    | some w, some l => Drift.containerDrifted w l
    | w, l => w.isSome != l.isSome

/-- The desired stateful set with the claims of the live one. -/
def adopt (want live : StatefulSet) : StatefulSet :=
  match want.spec, live.spec with
  | some w, some l =>
    { want with spec := some { w with volumeClaimTemplates := l.volumeClaimTemplates } }
  | _, _ => want

end StatefulSet

/-- Whether a live configuration map differs in its texts. -/
def ConfigMap.drifted (want live : ConfigMap) : Bool :=
  decide (want.data.getD ∅ ≠ live.data.getD ∅)

namespace ServiceSpec

/-- The names and numbers of the ports. -/
def namedPorts (s : ServiceSpec) : List (Option String × Signed32) :=
  (s.ports.getD []).map fun p => (p.name, p.port)

/-- Whether the service has no address of its own. -/
def isHeadless (s : ServiceSpec) : Bool := s.clusterIP == some "None"

/-- Whether pods that are not ready are found under the name of the service. -/
def publishesNotReady (s : ServiceSpec) : Bool := s.publishNotReadyAddresses.getD false

end ServiceSpec

namespace Service

/-- Whether a live service differs in its ports, its pods or the kind of its address. -/
def drifted (want live : Service) : Bool :=
  match want.spec, live.spec with
  | some w, some l =>
    w.namedPorts != l.namedPorts || decide (w.selector ≠ l.selector) ||
      w.isHeadless != l.isHeadless || w.publishesNotReady != l.publishesNotReady
  | w, l => w.isSome != l.isSome

/-- The desired service with the addresses of the live one. -/
def adopt (want live : Service) : Service :=
  match want.spec, live.spec with
  | some w, some l =>
    { want with spec := some { w with clusterIP := l.clusterIP, clusterIPs := l.clusterIPs } }
  | _, _ => want

end Service

end Kubernetes

namespace Child

/-- Whether a live child differs from the desired one in something the operator looks after. -/
def drifted : (c : Child) → (want live : c.Object) → Bool
  | configMap, want, live => ConfigMap.drifted want live
  | statefulSet, want, live => StatefulSet.drifted want live
  | service, want, live => Service.drifted want live

/-- The desired child with what the server owns taken over from the live one. -/
def adopt (c : Child) (want live : c.Object) : c.Object :=
  let version := (c.kind.metadata live).resourceVersion
  match c, want, live with
  | configMap, want, _ => Kind.withVersion .configMap version want
  | statefulSet, want, live => Kind.withVersion .statefulSet version (StatefulSet.adopt want live)
  | service, want, live => Kind.withVersion .service version (Service.adopt want live)

end Child

end ClusterOperator
