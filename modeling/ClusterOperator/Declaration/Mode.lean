import ClusterOperator.Error

/-!
# Modes and backends

A deployment is a single server or a cluster of peers, and it stores its data itself or in a MySQL
server. Both are declared by a word; any other word is a fault of the declaration.

## Main definitions

* `Mode`, `Mode.parse`; `Backend`, `Backend.parse`.

## Main results

* `Mode.parse_name`, `Backend.parse_name`: the written name is read back.
-/

namespace ClusterOperator

/-- A single server, or a cluster of peers. -/
inductive Mode where
  | standalone
  | cluster
  deriving DecidableEq, Repr

namespace Mode

/-- The word for a mode. -/
def name : Mode → String
  | standalone => "standalone"
  | cluster => "cluster"

/-- The mode of a word. -/
def parse (s : String) : Except Fault Mode :=
  if s = "standalone" then .ok standalone
  else if s = "cluster" then .ok cluster
  else .error (.unknownMode s)

@[simp] theorem parse_name (m : Mode) : parse m.name = .ok m := by cases m <;> rfl

end Mode

/-- Data in the servers themselves, or in a MySQL server. -/
inductive Backend where
  | embedded
  | mysql
  deriving DecidableEq, Repr

namespace Backend

/-- The word for a backend. -/
def name : Backend → String
  | embedded => "embedded"
  | mysql => "mysql"

/-- The backend of a word. -/
def parse (s : String) : Except Fault Backend :=
  if s = "embedded" then .ok embedded
  else if s = "mysql" then .ok mysql
  else .error (.unknownBackend s)

@[simp] theorem parse_name (b : Backend) : parse b.name = .ok b := by cases b <;> rfl

end Backend

end ClusterOperator
