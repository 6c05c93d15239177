import ClusterOperator.Kubernetes.Metadata

/-!
# Configuration maps

Named texts and bytes that pods read their settings from.

## Main definitions

* `Kubernetes.ConfigMap`.
-/

namespace ClusterOperator

namespace Kubernetes

/-- The members of a configuration map that are not looked at. -/
def ConfigMap.otherFields : Fields :=
  .optionals [("binaryData", .dictionary .bytes), ("immutable", .boolean)] .nil

/-- A configuration map. -/
structure ConfigMap where
  metadata : ObjectMeta := {}
  data : Option (Dict String) := none
  others : ConfigMap.otherFields.Val := ConfigMap.otherFields.default

instance : Document ConfigMap :=
  .ofMembers (.objectNamed "v1" "ConfigMap")
    (.defaulted "metadata" ObjectMeta <|
      .optional "data" (Dict String) <|
      .others ConfigMap.otherFields)
    (fun (metadata, data, others) => { metadata, data, others })
    (fun m => (m.metadata, m.data, m.others))
    (fun _ => rfl) (fun _ => rfl)

end Kubernetes

end ClusterOperator
