import ClusterOperator.Kubernetes.Metadata

/-!
# Resource requirements

How much of each resource a container or a volume asks for and may use at most. Amounts are kept
as they are written.

## Main definitions

* `Kubernetes.Quantities`: amounts by the name of the resource.
* `Kubernetes.ResourceRequirements`, `Kubernetes.VolumeResourceRequirements`.
-/

namespace ClusterOperator

namespace Kubernetes

/-- Amounts of resources by name, as they are written. -/
abbrev Quantities : Type := Dict String

/-- The members of the requirements of a container that are not looked at. -/
def ResourceRequirements.otherFields : Fields :=
  .optionals
    [("claims", .sequence <|
      .lenient "ResourceClaim"
        (.defaults [("name", .text)] (.optionals [("request", .text)] .nil)))]
    .nil

/-- What a container asks for and may use at most. -/
structure ResourceRequirements where
  limits : Option Quantities := none
  requests : Option Quantities := none
  others : ResourceRequirements.otherFields.Val := ResourceRequirements.otherFields.default

instance : Document ResourceRequirements :=
  .ofMembers (.lenientNamed "ResourceRequirements")
    (.optional "limits" Quantities <|
      .optional "requests" Quantities <|
      .others ResourceRequirements.otherFields)
    (fun (limits, requests, others) => { limits, requests, others })
    (fun r => (r.limits, r.requests, r.others))
    (fun _ => rfl) (fun _ => rfl)

/-- What a volume asks for and may use at most. -/
structure VolumeResourceRequirements where
  limits : Option Quantities := none
  requests : Option Quantities := none

instance : Document VolumeResourceRequirements :=
  .ofMembers (.lenientNamed "VolumeResourceRequirements")
    (.optional "limits" Quantities <| .optional "requests" Quantities .nil)
    (fun (limits, requests, _) => { limits, requests })
    (fun r => (r.limits, r.requests, ()))
    (fun _ => rfl) (fun _ => rfl)

end Kubernetes

end ClusterOperator
