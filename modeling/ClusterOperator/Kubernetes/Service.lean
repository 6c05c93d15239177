import ClusterOperator.Kubernetes.Metadata

/-!
# Services

A service gives the pods with certain labels one name and, unless it is headless, one address.

## Main definitions

* `Kubernetes.ServicePort`, `Kubernetes.ServiceSpec`, `Kubernetes.Service`.
-/

namespace ClusterOperator

namespace Kubernetes

/-- The members of a port of a service that are not looked at. -/
def ServicePort.otherFields : Fields :=
  .optionals [("appProtocol", .text), ("nodePort", .integer .signed32)] .nil

/-- A port of a service. -/
structure ServicePort where
  name : Option String := none
  port : Signed32
  protocol : Option String := none
  targetPort : Option (Signed32 ⊕ String) := none
  others : ServicePort.otherFields.Val := ServicePort.otherFields.default

instance : Document ServicePort :=
  .ofMembers (.lenientNamed "ServicePort")
    (.optional "name" String <|
      .defaulted "port" Signed32 <|
      .optional "protocol" String <|
      .optional "targetPort" (Signed32 ⊕ String) <|
      .others ServicePort.otherFields)
    (fun (name, port, protocol, targetPort, others) =>
      { name, port, protocol, targetPort, others })
    (fun p => (p.name, p.port, p.protocol, p.targetPort, p.others))
    (fun _ => rfl) (fun _ => rfl)

/-- The members of the specification of a service that are not looked at. -/
def ServiceSpec.otherFields : Fields :=
  .optionals
    [("allocateLoadBalancerNodePorts", .boolean), ("externalIPs", texts),
      ("externalName", .text), ("externalTrafficPolicy", .text),
      ("healthCheckNodePort", .integer .signed32), ("internalTrafficPolicy", .text),
      ("ipFamilies", texts), ("ipFamilyPolicy", .text), ("loadBalancerClass", .text),
      ("loadBalancerIP", .text), ("loadBalancerSourceRanges", texts),
      ("sessionAffinity", .text),
      ("sessionAffinityConfig", .lenient "SessionAffinityConfig"
        (.optionals
          [("clientIP", .lenient "ClientIPConfig"
            (.optionals [("timeoutSeconds", .integer .signed32)] .nil))] .nil)),
      ("trafficDistribution", .text), ("type", .text)] .nil

/-- The ports, the pods and the address of a service. -/
structure ServiceSpec where
  clusterIP : Option String := none
  clusterIPs : Option (List String) := none
  ports : Option (List ServicePort) := none
  publishNotReadyAddresses : Option Bool := none
  selector : Option (Dict String) := none
  others : ServiceSpec.otherFields.Val := ServiceSpec.otherFields.default

instance : Document ServiceSpec :=
  .ofMembers (.lenientNamed "ServiceSpec")
    (.optional "clusterIP" String <|
      .optional "clusterIPs" (List String) <|
      .optional "ports" (List ServicePort) <|
      .optional "publishNotReadyAddresses" Bool <|
      .optional "selector" (Dict String) <|
      .others ServiceSpec.otherFields)
    (fun (clusterIP, clusterIPs, ports, publishNotReadyAddresses, selector, others) =>
      { clusterIP, clusterIPs, ports, publishNotReadyAddresses, selector, others })
    (fun s =>
      (s.clusterIP, s.clusterIPs, s.ports, s.publishNotReadyAddresses, s.selector, s.others))
    (fun _ => rfl) (fun _ => rfl)

/-- The shape of the state of a service. -/
def serviceStatus : Shape :=
  .lenient "ServiceStatus"
    (.optionals
      [("conditions", .sequence <|
          .lenient "Condition"
            (.cons "lastTransitionTime" .required .instant <|
              .defaults
                [("message", .text), ("reason", .text), ("status", .text), ("type", .text)] <|
              .optionals [("observedGeneration", .integer .signed64)] .nil)),
        ("loadBalancer", .lenient "LoadBalancerStatus"
          (.optionals
            [("ingress", .sequence <|
              .lenient "LoadBalancerIngress"
                (.optionals
                  [("hostname", .text), ("ip", .text), ("ipMode", .text),
                    ("ports", .sequence <|
                      .lenient "PortStatus"
                        (.defaults [("port", .integer .signed32), ("protocol", .text)]
                          (.optionals [("error", .text)] .nil)))] .nil))] .nil))] .nil)

/-- The members of a service that are not looked at. -/
def Service.otherFields : Fields := .optionals [("status", serviceStatus)] .nil

/-- A service. -/
structure Service where
  metadata : ObjectMeta := {}
  spec : Option ServiceSpec := none
  others : Service.otherFields.Val := Service.otherFields.default

instance : Document Service :=
  .ofMembers (.objectNamed "v1" "Service")
    (.defaulted "metadata" ObjectMeta <|
      .optional "spec" ServiceSpec <|
      .others Service.otherFields)
    (fun (metadata, spec, others) => { metadata, spec, others })
    (fun s => (s.metadata, s.spec, s.others))
    (fun _ => rfl) (fun _ => rfl)

end Kubernetes

end ClusterOperator
