import ClusterOperator.Declaration.Defaults
import ClusterOperator.Labels
import ClusterOperator.Manifest.Properties
import ClusterOperator.Objects

/-!
# Manifests

What a declaration asks for, derived without looking at the cluster: a configuration map, a
stateful set, and one service for a single server, or a headless and a client-facing service for a
cluster. Peers know each other by stable names under the headless service, which therefore
publishes servers that are not ready yet.

## Main definitions

* `Plan`: a declaration that makes sense, with its words read.
* `Plan.ofDeclaration`: the plan of a declaration, or what is wrong with it.
* `Plan.peers`, `Plan.environment`.
* `Plan.configMap`, `Plan.statefulSet`, `Plan.service`, `Plan.headlessService`.
* `Plan.children`: the children of a deployment in the order in which they are applied.
-/

namespace ClusterOperator

open Kubernetes

/-- A declaration that makes sense: it has a namespace, its mode and its backend are known, and it
asks for no negative number of replicas. -/
structure Plan where
  declaration : Declaration
  name : String
  space : String
  mode : Mode
  backend : Backend
  replicas : Nat
  replicas_le : (replicas : Int) ≤ Width.signed32.greatest
  domain : String

namespace Plan

/-- The plan of a declaration, or what is wrong with it. -/
def ofDeclaration (d : Declaration) (domain : String) : Except Error Plan := do
  let space ← match d.metadata.space with
    | some space => pure space
    | none => throw (.noNamespace d.displayName)
  let mode ← (Mode.parse d.spec.type).mapError .fatal
  let backend ← (Backend.parse d.spec.database.type).mapError .fatal
  let replicas := d.spec.replicas.getD defaultReplicas
  if h : 0 ≤ replicas.val then
    return {
      declaration := d
      name := d.displayName
      space, mode, backend
      replicas := replicas.val.toNat
      replicas_le := by rw [Int.toNat_of_nonneg h]; exact replicas.property.2
      domain }
  else throw (.fatal (.negativeReplicas replicas))

/-- The number of replicas as it is written. -/
def replicaCount (p : Plan) : Signed32 :=
  ⟨p.replicas, Int.le_trans (by decide) (Int.natCast_nonneg _), p.replicas_le⟩

/-! ### Names -/

/-- The port of clients. -/
def clientPort : Signed32 := ⟨8848, by decide⟩

/-- The port of peers. -/
def raftPort : Signed32 := ⟨7848, by decide⟩

/-- The ports of a server with their names. -/
def namedPorts : List (String × Signed32) := [("client", clientPort), ("rpc", raftPort)]

/-- The name of the headless service. -/
def headlessName (p : Plan) : String := p.name ++ "-headless"

/-- The full name under which the headless service is resolved. -/
def headlessDomain (p : Plan) : String :=
  p.headlessName ++ "." ++ p.space ++ ".svc." ++ p.domain

/-- The stable address of the server of an ordinal. -/
def peer (p : Plan) (ordinal : Nat) : String :=
  p.name ++ "-" ++ ordinal.repr ++ "." ++ p.headlessDomain ++ ":" ++ clientPort.val.repr

/-- The stable addresses of all servers in the order of their ordinals. -/
def peers (p : Plan) : List String := (List.range p.replicas).map p.peer

/-! ### Metadata -/

/-- The annotation in which a command-line client keeps what was declared last. -/
def lastApplied : String := "kubectl.kubernetes.io/last-applied-configuration"

/-- The labels by which the pods are selected. -/
def selectorLabels (p : Plan) : Dict String := Labels.ofName p.name

/-- The labels of every child: the declared ones, of which those of the selector are overruled. -/
def labels (p : Plan) : Dict String :=
  (p.declaration.metadata.labels.getD ∅).union p.selectorLabels

/-- A map, or nothing if it is empty. -/
def nonEmptyMap (m : Dict String) : Option (Dict String) := if m.isEmpty then none else some m

/-- A list, or nothing if it is empty. -/
def nonEmptyList {α : Type} (l : List α) : Option (List α) := if l.isEmpty then none else some l

/-- The metadata of a child of a name. -/
def childMeta (p : Plan) (name : String) : ObjectMeta where
  name := some name
  space := some p.space
  labels := some p.labels
  annotations := nonEmptyMap ((p.declaration.metadata.annotations.getD ∅).erase lastApplied)
  ownerReferences := p.declaration.controllerReference?.map fun r => [r]

/-! ### Configuration -/

/-- The key of a declared configuration, and of the file it becomes. -/
def customKey : String := "custom.properties"

/-- The key of the server properties where no configuration is declared. -/
def applicationKey : String := "application.properties"

/-- The key of the list of peers. -/
def peersKey : String := "cluster.conf"

/-- The declared configuration, unless it is empty. -/
def config? (p : Plan) : Option String := p.declaration.spec.config.filter fun c => !c.isEmpty

/-- The texts of the configuration map. -/
def configData (p : Plan) : Dict String :=
  let settings : Dict String := match p.config? with
    | some config => SortedMap.empty.insert customKey config
    | none => SortedMap.empty.insert applicationKey Manifest.serverProperties
  match p.mode with
  | .standalone => settings
  | .cluster => settings.insert peersKey (String.join (p.peers.map fun peer => peer ++ "\n"))

/-- The configuration map. -/
def configMap (p : Plan) : ConfigMap where
  metadata := p.childMeta p.name
  data := some p.configData

/-! ### Workload -/

/-- The variables that say where data is stored. -/
def backendVariables (p : Plan) : List EnvVar :=
  let db := p.declaration.spec.database
  match p.backend with
  | .embedded => [.plain "EMBEDDED_STORAGE" Backend.embedded.name]
  | .mysql =>
    [.plain "MYSQL_SERVICE_HOST" db.host, .plain "MYSQL_SERVICE_PORT" db.port,
      .plain "MYSQL_SERVICE_DB_NAME" db.db, .plain "MYSQL_SERVICE_USER" db.user,
      .plain "MYSQL_SERVICE_PASSWORD" db.password]

/-- The variables that say who the peers are. -/
def modeVariables (p : Plan) : List EnvVar :=
  match p.mode with
  | .standalone => [.plain "MODE" Mode.standalone.name]
  | .cluster =>
    [.plain "NACOS_REPLICAS" p.replicas.repr,
      .plain "NACOS_SERVERS" (String.intercalate " " p.peers)]

/-- The variables that the operator adds. -/
def operatorVariables (p : Plan) : List EnvVar :=
  .plain "PREFER_HOST_MODE" "hostname" :: (p.backendVariables ++ p.modeVariables)

/-- The environment of a server: the declared variables, then those of the operator. -/
def environment (p : Plan) : List EnvVar := p.declaration.spec.env ++ p.operatorVariables

/-- The volume of the data. -/
def dataVolume : String := "db"

/-- The volume of the configuration. -/
def configVolume : String := "config"

/-- The claims for the data, if it is to be kept. -/
def claims (p : Plan) : List PersistentVolumeClaim :=
  let storage := p.declaration.spec.volume
  if storage.enabled then
    [{ metadata := { name := some dataVolume, labels := some p.labels }
       spec := some
        { accessModes := some ["ReadWriteOnce"]
          storageClassName := storage.storageClass
          resources := some { requests := some storage.requests } } }]
  else []

/-- The volumes of a pod: the configuration, if one is declared. -/
def volumes (p : Plan) : List Volume :=
  if p.config?.isSome then
    [{ name := configVolume
       configMap := some
        { name := p.name, items := some [{ key := customKey, path := customKey }] } }]
  else []

/-- Where a server sees its data and its configuration. -/
def mounts (p : Plan) : List VolumeMount :=
  (if p.declaration.spec.volume.enabled then
    [{ name := dataVolume, mountPath := "/home/nacos/data" }] else []) ++
  (if p.config?.isSome then
    [{ name := configVolume, mountPath := "/home/nacos/init.d/custom.properties",
       subPath := some customKey }] else [])

/-- The server. -/
def container (p : Plan) : Container :=
  let spec := p.declaration.spec
  { name := p.name
    image := some spec.image
    ports := some <| namedPorts.map fun (name, port) =>
      { containerPort := port, name := some name, protocol := some "TCP" }
    env := some p.environment
    resources := spec.resources
    livenessProbe := spec.livenessProbe
    readinessProbe := spec.readinessProbe
    volumeMounts := nonEmptyList p.mounts }

/-- The service under which servers find each other. -/
def governingService (p : Plan) : String :=
  match p.mode with
  | .standalone => p.name
  | .cluster => p.headlessName

/-- The stateful set. -/
def statefulSet (p : Plan) : StatefulSet where
  metadata := p.childMeta p.name
  spec := some
    { replicas := some p.replicaCount
      serviceName := p.governingService
      podManagementPolicy := some "Parallel"
      selector := { matchLabels := some p.selectorLabels }
      template :=
        { metadata := some { labels := some p.labels }
          spec := some { containers := [p.container], volumes := nonEmptyList p.volumes } }
      volumeClaimTemplates := nonEmptyList p.claims }

/-! ### Services -/

/-- The ports of a service. -/
def servicePorts : List ServicePort :=
  namedPorts.map fun (name, port) =>
    { name := some name, port, targetPort := some (.inl port), protocol := some "TCP" }

/-- The service for clients. -/
def service (p : Plan) : Service where
  metadata := p.childMeta p.name
  spec := some { ports := some servicePorts, selector := some p.selectorLabels }

/-- The service for peers, without an address of its own. -/
def headlessService (p : Plan) : Service where
  metadata := p.childMeta p.headlessName
  spec := some
    { clusterIP := some "None"
      publishNotReadyAddresses := some true
      ports := some servicePorts
      selector := some p.selectorLabels }

/-- The children of a deployment in the order in which they are applied. -/
def children (p : Plan) : List ((c : Child) × c.Object) :=
  [⟨.configMap, p.configMap⟩, ⟨.statefulSet, p.statefulSet⟩] ++
    match p.mode with
    | .standalone => [⟨.service, p.service⟩]
    | .cluster => [⟨.service, p.headlessService⟩, ⟨.service, p.service⟩]

end Plan

end ClusterOperator
