import ClusterOperator.Kubernetes.PodTemplate

/-!
# Stateful sets

A stateful set runs a number of numbered pods that look alike, each with storage of its own.

## Main definitions

* `Kubernetes.StatefulSetSpec`, `Kubernetes.StatefulSet`.
-/

namespace ClusterOperator

namespace Kubernetes

/-- The members of the specification of a stateful set that are not looked at. -/
def StatefulSetSpec.otherFields : Fields :=
  .optionals
    [("minReadySeconds", .integer .signed32),
      ("ordinals", .lenient "StatefulSetOrdinals"
        (.optionals [("start", .integer .signed32)] .nil)),
      ("persistentVolumeClaimRetentionPolicy",
        .lenient "StatefulSetPersistentVolumeClaimRetentionPolicy"
          (.optionals [("whenDeleted", .text), ("whenScaled", .text)] .nil)),
      ("revisionHistoryLimit", .integer .signed32),
      ("updateStrategy", .lenient "StatefulSetUpdateStrategy"
        (.optionals
          [("rollingUpdate", .lenient "RollingUpdateStatefulSetStrategy"
              (.optionals
                [("maxUnavailable", .numberOrName), ("partition", .integer .signed32)] .nil)),
            ("type", .text)] .nil))] .nil

/-- The number of pods of a stateful set and what they look like. -/
structure StatefulSetSpec where
  podManagementPolicy : Option String := none
  replicas : Option Signed32 := none
  selector : LabelSelector := {}
  serviceName : String := ""
  template : PodTemplateSpec := {}
  volumeClaimTemplates : Option (List PersistentVolumeClaim) := none
  others : StatefulSetSpec.otherFields.Val := StatefulSetSpec.otherFields.default

instance : Document StatefulSetSpec :=
  .ofMembers (.lenientNamed "StatefulSetSpec")
    (.optional "podManagementPolicy" String <|
      .optional "replicas" Signed32 <|
      .defaulted "selector" LabelSelector <|
      .defaulted "serviceName" String <|
      .defaulted "template" PodTemplateSpec <|
      .optional "volumeClaimTemplates" (List PersistentVolumeClaim) <|
      .others StatefulSetSpec.otherFields)
    (fun (podManagementPolicy, replicas, selector, serviceName, template, volumeClaimTemplates,
        others) =>
      { podManagementPolicy, replicas, selector, serviceName, template, volumeClaimTemplates,
        others })
    (fun s =>
      (s.podManagementPolicy, s.replicas, s.selector, s.serviceName, s.template,
        s.volumeClaimTemplates, s.others))
    (fun _ => rfl) (fun _ => rfl)

/-- The shape of the state of a stateful set. -/
def statefulSetStatus : Shape :=
  .lenient "StatefulSetStatus"
    (.defaults [("replicas", .integer .signed32)] <|
      .optionals
        [("availableReplicas", .integer .signed32), ("collisionCount", .integer .signed32),
          ("conditions", .sequence <|
            .lenient "StatefulSetCondition"
              (.defaults [("status", .text), ("type", .text)] <|
                .optionals
                  [("lastTransitionTime", .instant), ("message", .text), ("reason", .text)] .nil)),
          ("currentReplicas", .integer .signed32), ("currentRevision", .text),
          ("observedGeneration", .integer .signed64), ("readyReplicas", .integer .signed32),
          ("updateRevision", .text), ("updatedReplicas", .integer .signed32)] .nil)

/-- The members of a stateful set that are not looked at. -/
def StatefulSet.otherFields : Fields := .optionals [("status", statefulSetStatus)] .nil

/-- A stateful set. -/
structure StatefulSet where
  metadata : ObjectMeta := {}
  spec : Option StatefulSetSpec := none
  others : StatefulSet.otherFields.Val := StatefulSet.otherFields.default

instance : Document StatefulSet :=
  .ofMembers (.objectNamed "apps/v1" "StatefulSet")
    (.defaulted "metadata" ObjectMeta <|
      .optional "spec" StatefulSetSpec <|
      .others StatefulSet.otherFields)
    (fun (metadata, spec, others) => { metadata, spec, others })
    (fun s => (s.metadata, s.spec, s.others))
    (fun _ => rfl) (fun _ => rfl)

end Kubernetes

end ClusterOperator
