import ClusterOperator.Kubernetes.Container
import ClusterOperator.Kubernetes.Scheduling

/-!
# Pod templates

What the pods of a workload look like: their labels, their containers and their volumes.

## Main definitions

* `Kubernetes.PodSpec`, `Kubernetes.PodTemplateSpec`.
-/

namespace ClusterOperator

namespace Kubernetes

/-- The shape of the rights of all containers of a pod. -/
def podSecurityContext : Shape :=
  .lenient "PodSecurityContext"
    (.optionals
      [("appArmorProfile", profile "AppArmorProfile"), ("fsGroup", .integer .signed64),
        ("fsGroupChangePolicy", .text), ("runAsGroup", .integer .signed64),
        ("runAsNonRoot", .boolean), ("runAsUser", .integer .signed64),
        ("seLinuxOptions", seLinuxOptions), ("seccompProfile", profile "SeccompProfile"),
        ("supplementalGroups", .sequence (.integer .signed64)),
        ("supplementalGroupsPolicy", .text),
        ("sysctls", .sequence <|
          .lenient "Sysctl" (.defaults [("name", .text), ("value", .text)] .nil)),
        ("windowsOptions", windowsOptions)] .nil)

/-- The shape of how a pod resolves names. -/
def podNameResolution : Shape :=
  .lenient "PodDNSConfig"
    (.optionals
      [("nameservers", texts),
        ("options", .sequence <|
          .lenient "PodDNSConfigOption" (.optionals [("name", .text), ("value", .text)] .nil)),
        ("searches", texts)] .nil)

/-- The members of the specification of a pod that are not looked at. -/
def PodSpec.otherFields : Fields :=
  .optionals
    [("activeDeadlineSeconds", .integer .signed64), ("affinity", affinity),
      ("automountServiceAccountToken", .boolean), ("dnsConfig", podNameResolution),
      ("dnsPolicy", .text), ("enableServiceLinks", .boolean),
      ("ephemeralContainers", .sequence ephemeralContainer),
      ("hostAliases", .sequence <|
        .lenient "HostAlias" (.defaults [("ip", .text)] (.optionals [("hostnames", texts)] .nil))),
      ("hostIPC", .boolean), ("hostNetwork", .boolean), ("hostPID", .boolean),
      ("hostUsers", .boolean), ("hostname", .text),
      ("imagePullSecrets", .sequence localObjectReference),
      ("initContainers", Document.shape (List Container)), ("nodeName", .text),
      ("nodeSelector", textMap),
      ("os", .lenient "PodOS" (.defaults [("name", .text)] .nil)), ("overhead", textMap),
      ("preemptionPolicy", .text), ("priority", .integer .signed32),
      ("priorityClassName", .text),
      ("readinessGates", .sequence <|
        .lenient "PodReadinessGate" (.defaults [("conditionType", .text)] .nil)),
      ("resourceClaims", .sequence <|
        .lenient "PodResourceClaim"
          (.defaults [("name", .text)]
            (.optionals [("resourceClaimName", .text), ("resourceClaimTemplateName", .text)]
              .nil))),
      ("restartPolicy", .text), ("runtimeClassName", .text), ("schedulerName", .text),
      ("schedulingGates", .sequence <|
        .lenient "PodSchedulingGate" (.defaults [("name", .text)] .nil)),
      ("securityContext", podSecurityContext), ("serviceAccount", .text),
      ("serviceAccountName", .text), ("setHostnameAsFQDN", .boolean),
      ("shareProcessNamespace", .boolean), ("subdomain", .text),
      ("terminationGracePeriodSeconds", .integer .signed64),
      ("tolerations", .sequence toleration),
      ("topologySpreadConstraints", .sequence topologySpread)] .nil

/-- The containers and volumes of a pod. -/
structure PodSpec where
  containers : List Container := []
  volumes : Option (List Volume) := none
  others : PodSpec.otherFields.Val := PodSpec.otherFields.default

instance : Document PodSpec :=
  .ofMembers (.lenientNamed "PodSpec")
    (.defaulted "containers" (List Container) <|
      .optional "volumes" (List Volume) <|
      .others PodSpec.otherFields)
    (fun (containers, volumes, others) => { containers, volumes, others })
    (fun s => (s.containers, s.volumes, s.others))
    (fun _ => rfl) (fun _ => rfl)

/-- What the pods of a workload look like. -/
structure PodTemplateSpec where
  metadata : Option ObjectMeta := none
  spec : Option PodSpec := none

instance : Document PodTemplateSpec :=
  .ofMembers (.lenientNamed "PodTemplateSpec")
    (.optional "metadata" ObjectMeta <| .optional "spec" PodSpec .nil)
    (fun (metadata, spec, _) => { metadata, spec })
    (fun t => (t.metadata, t.spec, ()))
    (fun _ => rfl) (fun _ => rfl)

end Kubernetes

end ClusterOperator
