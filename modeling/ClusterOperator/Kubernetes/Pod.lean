import ClusterOperator.Kubernetes.PodTemplate

/-!
# Pods

A running instance of a workload: its address, and the conditions that say whether it is ready.

## Main definitions

* `Kubernetes.PodCondition`, `Kubernetes.PodStatus`, `Kubernetes.Pod`.
* `Kubernetes.Pod.isReady`: whether a pod takes part.
-/

namespace ClusterOperator

namespace Kubernetes

/-- The members of a condition of a pod that are not looked at. -/
def PodCondition.otherFields : Fields :=
  .optionals
    [("lastProbeTime", .instant), ("lastTransitionTime", .instant), ("message", .text),
      ("reason", .text)] .nil

/-- A statement about a pod. -/
structure PodCondition where
  status : String
  type : String
  others : PodCondition.otherFields.Val := PodCondition.otherFields.default

instance : Document PodCondition :=
  .ofMembers (.lenientNamed "PodCondition")
    (.defaulted "status" String <| .defaulted "type" String <| .others PodCondition.otherFields)
    (fun (status, type, others) => { status, type, others })
    (fun c => (c.status, c.type, c.others))
    (fun _ => rfl) (fun _ => rfl)

/-- The shape of what a container does at present. -/
def containerState : Shape :=
  .lenient "ContainerState"
    (.optionals
      [("running", .lenient "ContainerStateRunning" (.optionals [("startedAt", .instant)] .nil)),
        ("terminated", .lenient "ContainerStateTerminated"
          (.defaults [("exitCode", .integer .signed32)] <|
            .optionals
              [("containerID", .text), ("finishedAt", .instant), ("message", .text),
                ("reason", .text), ("signal", .integer .signed32), ("startedAt", .instant)] .nil)),
        ("waiting", .lenient "ContainerStateWaiting"
          (.optionals [("message", .text), ("reason", .text)] .nil))] .nil)

/-- The shape of the state of a container. -/
def containerStatus : Shape :=
  .lenient "ContainerStatus"
    (.defaults
      [("image", .text), ("imageID", .text), ("name", .text), ("ready", .boolean),
        ("restartCount", .integer .signed32)] <|
      .optionals
        [("allocatedResources", textMap),
          ("allocatedResourcesStatus", .sequence <|
            .lenient "ResourceStatus"
              (.defaults [("name", .text)] <|
                .optionals
                  [("resources", .sequence <|
                    .lenient "ResourceHealth"
                      (.defaults [("resourceID", .text)] (.optionals [("health", .text)] .nil)))]
                  .nil)),
          ("containerID", .text), ("lastState", containerState),
          ("resources", Document.shape ResourceRequirements), ("started", .boolean),
          ("state", containerState),
          ("user", .lenient "ContainerUser"
            (.optionals
              [("linux", .lenient "LinuxContainerUser"
                (.defaults [("gid", .integer .signed64), ("uid", .integer .signed64)] <|
                  .optionals [("supplementalGroups", .sequence (.integer .signed64))] .nil))]
              .nil)),
          ("volumeMounts", .sequence <|
            .lenient "VolumeMountStatus"
              (.defaults [("mountPath", .text), ("name", .text)] <|
                .optionals [("readOnly", .boolean), ("recursiveReadOnly", .text)] .nil))] .nil)

/-- The members of the state of a pod that are not looked at. -/
def PodStatus.otherFields : Fields :=
  .optionals
    [("containerStatuses", .sequence containerStatus),
      ("ephemeralContainerStatuses", .sequence containerStatus), ("hostIP", .text),
      ("hostIPs", .sequence (.lenient "HostIP" (.defaults [("ip", .text)] .nil))),
      ("initContainerStatuses", .sequence containerStatus), ("message", .text),
      ("nominatedNodeName", .text), ("phase", .text),
      ("podIPs", .sequence (.lenient "PodIP" (.defaults [("ip", .text)] .nil))),
      ("qosClass", .text), ("reason", .text), ("resize", .text),
      ("resourceClaimStatuses", .sequence <|
        .lenient "PodResourceClaimStatus"
          (.defaults [("name", .text)] (.optionals [("resourceClaimName", .text)] .nil))),
      ("startTime", .instant)] .nil

/-- The state of a pod. -/
structure PodStatus where
  conditions : Option (List PodCondition) := none
  podIP : Option String := none
  others : PodStatus.otherFields.Val := PodStatus.otherFields.default

instance : Document PodStatus :=
  .ofMembers (.lenientNamed "PodStatus")
    (.optional "conditions" (List PodCondition) <|
      .optional "podIP" String <|
      .others PodStatus.otherFields)
    (fun (conditions, podIP, others) => { conditions, podIP, others })
    (fun s => (s.conditions, s.podIP, s.others))
    (fun _ => rfl) (fun _ => rfl)

/-- The members of a pod that are not looked at. -/
def Pod.otherFields : Fields := .optionals [("spec", Document.shape PodSpec)] .nil

/-- A pod. -/
structure Pod where
  metadata : ObjectMeta := {}
  status : Option PodStatus := none
  others : Pod.otherFields.Val := Pod.otherFields.default

namespace Pod

instance : Document Pod :=
  .ofMembers (.objectNamed "v1" "Pod")
    (.defaulted "metadata" ObjectMeta <| .optional "status" PodStatus <| .others otherFields)
    (fun (metadata, status, others) => { metadata, status, others })
    (fun p => (p.metadata, p.status, p.others))
    (fun _ => rfl) (fun _ => rfl)

/-- The conditions of a pod. -/
def conditions (p : Pod) : List PodCondition :=
  ((p.status.bind (·.conditions)).getD [])

/-- A pod is ready if one of its conditions says so. -/
def isReady (p : Pod) : Bool := p.conditions.any fun c => c.type == "Ready" && c.status == "True"

/-- The address of a pod, once it has one. -/
def address? (p : Pod) : Option String := p.status.bind (·.podIP)

end Pod

end Kubernetes

end ClusterOperator
