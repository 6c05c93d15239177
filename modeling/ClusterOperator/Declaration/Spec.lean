import ClusterOperator.Kubernetes.Environment
import ClusterOperator.Kubernetes.Probe
import ClusterOperator.Kubernetes.Resources

/-!
# The declared state of a deployment

What a user declares: one server or a cluster of them, the image, the database behind it, where
data is kept, and what its containers are given. An unset number of replicas is not zero, and an
unset configuration is not an empty one.

## Main definitions

* `Database`, `Storage`, `Spec`.
-/

namespace ClusterOperator

open Kubernetes

/-- The database behind a deployment; all but the type only matters for a server of its own. -/
structure Database where
  type : String := ""
  host : String := ""
  port : String := ""
  db : String := ""
  user : String := ""
  password : String := ""
  deriving DecidableEq

instance : Document Database :=
  .ofMembers (.strictNamed "Database")
    (.defaulted "type" String <|
      .defaulted "host" String <|
      .defaulted "port" String <|
      .defaulted "db" String <|
      .defaulted "user" String <|
      .defaulted "password" String .nil)
    (fun (type, host, port, db, user, password, _) => { type, host, port, db, user, password })
    (fun d => (d.type, d.host, d.port, d.db, d.user, d.password, ()))
    (fun _ => rfl) (fun _ => rfl)

/-- Where the data of the servers is kept. -/
structure Storage where
  enabled : Bool := false
  storageClass : Option String := none
  requests : Quantities := ∅
  deriving DecidableEq

instance : Document Storage :=
  .ofMembers (.strictNamed "Volume")
    (.defaulted "enabled" Bool <|
      .optional "storageClass" String <|
      .defaulted "requests" Quantities .nil)
    (fun (enabled, storageClass, requests, _) => { enabled, storageClass, requests })
    (fun s => (s.enabled, s.storageClass, s.requests, ()))
    (fun _ => rfl) (fun _ => rfl)

/-- The declared state of a deployment. -/
structure Spec where
  type : String := ""
  image : String := ""
  replicas : Option Signed32 := none
  database : Database := {}
  config : Option String := none
  volume : Storage := {}
  env : List EnvVar := []
  resources : Option ResourceRequirements := none
  livenessProbe : Option Probe := none
  readinessProbe : Option Probe := none

namespace Spec

instance : Inhabited Spec := ⟨{}⟩

instance : Document Spec :=
  .ofMembers (.strictNamed "NacosSpec")
    (.defaulted "type" String <|
      .defaulted "image" String <|
      .optional "replicas" Signed32 <|
      .defaulted "database" Database <|
      .optional "config" String <|
      .defaulted "volume" Storage <|
      .defaulted "env" (List EnvVar) <|
      .optional "resources" ResourceRequirements <|
      .optional "livenessProbe" Probe <|
      .optional "readinessProbe" Probe .nil)
    (fun (type, image, replicas, database, config, volume, env, resources, livenessProbe,
        readinessProbe, _) =>
      { type, image, replicas, database, config, volume, env, resources, livenessProbe,
        readinessProbe })
    (fun s =>
      (s.type, s.image, s.replicas, s.database, s.config, s.volume, s.env, s.resources,
        s.livenessProbe, s.readinessProbe, ()))
    (fun _ => rfl) (fun _ => rfl)

end Spec

end ClusterOperator
