import ClusterOperator.Kubernetes.Metadata

/-!
# Probes and lifecycle handlers

How the node agent asks a container whether it is alive or ready, and what it runs when a
container starts or stops. The operator passes these on and compares them as documents.

## Main definitions

* `Kubernetes.Probe`: a liveness, readiness or startup probe.
* `Kubernetes.Lifecycle.shape`: handlers run at the start and the end of a container.
-/

namespace ClusterOperator

namespace Kubernetes

/-- The shape of a command that is run in the container. -/
def execAction : Shape := .lenient "ExecAction" (.optionals [("command", texts)] .nil)

/-- The shape of a request by a remote procedure call. -/
def grpcAction : Shape :=
  .lenient "GRPCAction"
    (.defaults [("port", .integer .signed32)] (.optionals [("service", .text)] .nil))

/-- The shape of a request over HTTP. -/
def httpGetAction : Shape :=
  .lenient "HTTPGetAction"
    (.defaults [("port", .numberOrName)] <|
      .optionals
        [("host", .text),
          ("httpHeaders", .sequence <|
            .lenient "HTTPHeader" (.defaults [("name", .text), ("value", .text)] .nil)),
          ("path", .text), ("scheme", .text)] .nil)

/-- The shape of an attempt to connect. -/
def tcpSocketAction : Shape :=
  .lenient "TCPSocketAction"
    (.defaults [("port", .numberOrName)] (.optionals [("host", .text)] .nil))

/-- The shape of a probe. -/
def Probe.shape : Shape :=
  .lenient "Probe"
    (.optionals
      [("exec", execAction), ("failureThreshold", .integer .signed32), ("grpc", grpcAction),
        ("httpGet", httpGetAction), ("initialDelaySeconds", .integer .signed32),
        ("periodSeconds", .integer .signed32), ("successThreshold", .integer .signed32),
        ("tcpSocket", tcpSocketAction), ("terminationGracePeriodSeconds", .integer .signed64),
        ("timeoutSeconds", .integer .signed32)] .nil)

/-- A probe of a container. -/
structure Probe where
  val : Probe.shape.Val

instance : Document Probe where
  shape := Probe.shape
  ofVal v := ⟨v⟩
  toVal p := p.val
  ofVal_toVal _ := rfl
  toVal_ofVal _ := rfl

/-- The shape of a handler that is run once. -/
def lifecycleHandler : Shape :=
  .lenient "LifecycleHandler"
    (.optionals
      [("exec", execAction), ("httpGet", httpGetAction),
        ("sleep", .lenient "SleepAction" (.defaults [("seconds", .integer .signed64)] .nil)),
        ("tcpSocket", tcpSocketAction)] .nil)

/-- The shape of the handlers of a container. -/
def Lifecycle.shape : Shape :=
  .lenient "Lifecycle"
    (.optionals [("postStart", lifecycleHandler), ("preStop", lifecycleHandler)] .nil)

end Kubernetes

end ClusterOperator
