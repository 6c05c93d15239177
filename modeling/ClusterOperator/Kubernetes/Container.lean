import ClusterOperator.Kubernetes.Probe
import ClusterOperator.Kubernetes.Storage

/-!
# Containers

A program that runs in a pod: its image, its environment, the ports it listens on, what it asks
for, where it sees which volume, and how it is probed.

## Main definitions

* `Kubernetes.ContainerPort`, `Kubernetes.Container`.
* `Kubernetes.ephemeralContainer`: the shape of a container added for debugging.
-/

namespace ClusterOperator

namespace Kubernetes

/-! ### Rights -/

/-- The shape of a profile that restricts a program. -/
def profile (name : String) : Shape :=
  .lenient name (.defaults [("type", .text)] (.optionals [("localhostProfile", .text)] .nil))

/-- The shape of the labels by which the kernel tells programs apart. -/
def seLinuxOptions : Shape :=
  .lenient "SELinuxOptions"
    (.optionals [("level", .text), ("role", .text), ("type", .text), ("user", .text)] .nil)

/-- The shape of the rights on a host of the other family. -/
def windowsOptions : Shape :=
  .lenient "WindowsSecurityContextOptions"
    (.optionals
      [("gmsaCredentialSpec", .text), ("gmsaCredentialSpecName", .text),
        ("hostProcess", .boolean), ("runAsUserName", .text)] .nil)

/-- The shape of the rights of a container. -/
def securityContext : Shape :=
  .lenient "SecurityContext"
    (.optionals
      [("allowPrivilegeEscalation", .boolean), ("appArmorProfile", profile "AppArmorProfile"),
        ("capabilities",
          .lenient "Capabilities" (.optionals [("add", texts), ("drop", texts)] .nil)),
        ("privileged", .boolean), ("procMount", .text), ("readOnlyRootFilesystem", .boolean),
        ("runAsGroup", .integer .signed64), ("runAsNonRoot", .boolean),
        ("runAsUser", .integer .signed64), ("seLinuxOptions", seLinuxOptions),
        ("seccompProfile", profile "SeccompProfile"), ("windowsOptions", windowsOptions)] .nil)

/-! ### Ports -/

/-- A port on which a container listens. -/
structure ContainerPort where
  containerPort : Signed32
  hostIP : Option String := none
  hostPort : Option Signed32 := none
  name : Option String := none
  protocol : Option String := none

instance : Document ContainerPort :=
  .ofMembers (.lenientNamed "ContainerPort")
    (.defaulted "containerPort" Signed32 <|
      .optional "hostIP" String <|
      .optional "hostPort" Signed32 <|
      .optional "name" String <|
      .optional "protocol" String .nil)
    (fun (containerPort, hostIP, hostPort, name, protocol, _) =>
      { containerPort, hostIP, hostPort, name, protocol })
    (fun p => (p.containerPort, p.hostIP, p.hostPort, p.name, p.protocol, ()))
    (fun _ => rfl) (fun _ => rfl)

/-! ### Containers -/

/-- The members that every container has besides its name and that are not looked at. -/
def commonContainerFields : List (String × Shape) :=
  [("args", texts), ("command", texts), ("envFrom", .sequence envFromSource),
    ("imagePullPolicy", .text), ("lifecycle", Lifecycle.shape),
    ("resizePolicy", .sequence <|
      .lenient "ContainerResizePolicy"
        (.defaults [("resourceName", .text), ("restartPolicy", .text)] .nil)),
    ("restartPolicy", .text), ("securityContext", securityContext),
    ("startupProbe", Probe.shape), ("stdin", .boolean), ("stdinOnce", .boolean),
    ("terminationMessagePath", .text), ("terminationMessagePolicy", .text), ("tty", .boolean),
    ("volumeDevices", .sequence <|
      .lenient "VolumeDevice" (.defaults [("devicePath", .text), ("name", .text)] .nil)),
    ("workingDir", .text)]

/-- The members of a container that are not looked at. -/
def Container.otherFields : Fields := .optionals commonContainerFields .nil

/-- A container of a pod. -/
structure Container where
  name : String
  image : Option String := none
  env : Option (List EnvVar) := none
  livenessProbe : Option Probe := none
  ports : Option (List ContainerPort) := none
  readinessProbe : Option Probe := none
  resources : Option ResourceRequirements := none
  volumeMounts : Option (List VolumeMount) := none
  others : Container.otherFields.Val := Container.otherFields.default

instance : Document Container :=
  .ofMembers (.lenientNamed "Container")
    (.defaulted "name" String <|
      .optional "image" String <|
      .optional "env" (List EnvVar) <|
      .optional "livenessProbe" Probe <|
      .optional "ports" (List ContainerPort) <|
      .optional "readinessProbe" Probe <|
      .optional "resources" ResourceRequirements <|
      .optional "volumeMounts" (List VolumeMount) <|
      .others Container.otherFields)
    (fun (name, image, env, livenessProbe, ports, readinessProbe, resources, volumeMounts,
        others) =>
      { name, image, env, livenessProbe, ports, readinessProbe, resources, volumeMounts, others })
    (fun c =>
      (c.name, c.image, c.env, c.livenessProbe, c.ports, c.readinessProbe, c.resources,
        c.volumeMounts, c.others))
    (fun _ => rfl) (fun _ => rfl)

/-- The shape of a container that is added to a running pod for debugging. -/
def ephemeralContainer : Shape :=
  .lenient "EphemeralContainer"
    (.defaults [("name", .text)] <|
      .optionals commonContainerFields <|
      .optionals
        [("env", Document.shape (List EnvVar)), ("image", .text), ("livenessProbe", Probe.shape),
          ("ports", Document.shape (List ContainerPort)), ("readinessProbe", Probe.shape),
          ("resources", Document.shape ResourceRequirements), ("targetContainerName", .text),
          ("volumeMounts", Document.shape (List VolumeMount))] .nil)

end Kubernetes

end ClusterOperator
