import ClusterOperator.Declaration.Defaults
import ClusterOperator.Labels
import ClusterOperator.Objects

/-!
# Sample objects

A declared deployment with nothing unusual about it, and a pod that belongs to one.

## Main definitions

* `Declaration.sample`, `Kubernetes.Pod.sample`.
-/

namespace ClusterOperator

/-- The namespace of the samples. -/
def sampleSpace : String := "default"

/-- The image of a sample. -/
def sampleImage : String := "nacos:v2"

/-- A deployment with its defaults filled in. -/
def Declaration.sample (name type : String) (replicas : Signed32) (image : String := sampleImage) :
    Declaration where
  metadata := { name := some name, space := some sampleSpace, uid := some ("uid-" ++ name) }
  spec := ({ type, image, replicas := some replicas } : Spec).withDefaults
  status := none

namespace Kubernetes

/-- The pod of a workload with an ordinal, at an address made from the ordinal. -/
def Pod.sample (workload : String) (ordinal : Nat) (ready : Bool) : Pod where
  metadata :=
    { name := some (workload ++ "-" ++ ordinal.repr)
      space := some sampleSpace
      labels := some (Labels.ofName workload) }
  status := some
    { podIP := some ("10.0.0." ++ ordinal.repr)
      conditions := some [{ type := "Ready", status := if ready then "True" else "False" }] }

end Kubernetes

end ClusterOperator
