import ClusterOperator.Declaration.Spec
import ClusterOperator.Declaration.Status

/-!
# Declared deployments

The object by which a deployment is declared: metadata, the declared state, and the state that the
operator observed last, if it has looked at all.

## Main definitions

* `Declaration`: a declared deployment.
* `Declaration.phase`, `Declaration.controllerReference?`.
-/

namespace ClusterOperator

open Kubernetes

/-- A declared deployment. -/
structure Declaration where
  metadata : ObjectMeta := {}
  spec : Spec := {}
  status : Option Status := none

namespace Declaration

/-- The group and version of the kind. -/
def apiVersion : String := "nacos.io/v1alpha1"

/-- The name of the kind. -/
def kind : String := "Nacos"

instance : Inhabited Declaration := ⟨{}⟩

instance : Document Declaration :=
  .ofMembers { name := kind, lenient := false, identity := some (apiVersion, kind) }
    (.required "metadata" ObjectMeta <| .required "spec" Spec <| .optional "status" Status .nil)
    (fun (metadata, spec, status, _) => { metadata, spec, status })
    (fun d => (d.metadata, d.spec, d.status, ()))
    (fun _ => rfl) (fun _ => rfl)

/-- What the deployment is called. -/
def displayName (d : Declaration) : String := d.metadata.displayName

/-- The phase that was observed last. -/
def phase (d : Declaration) : Phase := (d.status.getD {}).phase

/-- How children refer to the deployment that owns them: only by name and unique identifier. -/
def controllerReference? (d : Declaration) : Option OwnerReference := do
  let name ← d.metadata.name
  let uid ← d.metadata.uid
  return { apiVersion, controller := some true, kind, name, uid }

end Declaration

end ClusterOperator
