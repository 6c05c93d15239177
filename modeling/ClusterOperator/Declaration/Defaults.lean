import ClusterOperator.Declaration.Mode
import ClusterOperator.Declaration.Spec

/-!
# Defaults of a declaration

What a declaration leaves open is filled in before anything is derived from it. Nothing is checked
here: what is declared and makes no sense is refused when manifests are derived.

## Main definitions

* `Database.withDefaults`, `Spec.withDefaults`.
-/

namespace ClusterOperator

/-- The number of replicas where none is declared. -/
def defaultReplicas : Signed32 := ⟨1, by decide⟩

/-- A text, or another one if it is empty. -/
def orIfEmpty (s other : String) : String := if s.isEmpty then other else s

/-- A database with what is left open filled in: its type, and for a MySQL server of its own where
it is and who connects. -/
def Database.withDefaults (d : Database) : Database :=
  let type := orIfEmpty d.type Backend.embedded.name
  if type = Backend.mysql.name then
    { type
      host := orIfEmpty d.host "127.0.0.1"
      port := orIfEmpty d.port "3306"
      db := orIfEmpty d.db "nacos"
      user := orIfEmpty d.user "root"
      password := orIfEmpty d.password "123456" }
  else { d with type }

/-- A declaration with what is left open filled in. -/
def Spec.withDefaults (s : Spec) : Spec :=
  { s with
    type := orIfEmpty s.type Mode.standalone.name
    replicas := some (s.replicas.getD defaultReplicas)
    database := s.database.withDefaults }

end ClusterOperator
