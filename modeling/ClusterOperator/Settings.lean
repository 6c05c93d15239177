import ClusterOperator.Text.Blank
import ClusterOperator.Text.Numeral

/-!
# Settings

The operator is tuned by named settings: when a pass is repeated, how long a server may take to
answer, how many are asked at a time, and the domain under which the cluster resolves names. A
setting that is missing or malformed has its default; white space around a number does not matter.

## Main definitions

* `Settings`, `Settings.default`.
* `Settings.ofLookup`: the settings from their texts.

## Main results

* `Settings.healthConcurrency_pos`: at least one server is asked at a time.
-/

namespace ClusterOperator

/-- The settings of the operator; times are in seconds. -/
structure Settings where
  /-- The pause after a pass that came to an end. -/
  resync : Nat := 30
  /-- The pause after a pass that could not fetch its object. -/
  errorRequeue : Nat := 60
  /-- How long a server may take to answer. -/
  healthTimeout : Nat := 5
  /-- How many servers are asked at a time. -/
  healthConcurrency : Nat := 4
  /-- How long a remedy may take. -/
  healTimeout : Nat := 10
  /-- The domain under which the cluster resolves names. -/
  clusterDomain : String := "cluster.local"
  deriving DecidableEq, Repr

namespace Settings

/-- The settings where nothing is set. -/
def default : Settings := {}

instance : Inhabited Settings := ⟨default⟩

/-- The name of a setting in the environment. -/
def variableName (name : String) : String := "NACOS_OPERATOR_" ++ name

/-- A number of at most 64 bits, with blanks around it. -/
def readNumber (text : String) : Option Nat :=
  Text.unsigned? Text.maxUnsigned64 (Text.trim text.toList)

/-- The number of a setting, or its default. -/
def number (lookup : String → Option String) (name : String) (default : Nat) : Nat :=
  ((lookup (variableName name)).bind readNumber).getD default

/-- The text of a setting, or its default if it is empty. -/
def text (lookup : String → Option String) (name : String) (default : String) : String :=
  ((lookup (variableName name)).filter fun s => !s.isEmpty).getD default

/-- The settings from their texts. -/
def ofLookup (lookup : String → Option String) : Settings where
  resync := number lookup "RESYNC_SECONDS" default.resync
  errorRequeue := number lookup "ERROR_REQUEUE_SECONDS" default.errorRequeue
  healthTimeout := number lookup "HEALTH_TIMEOUT_SECONDS" default.healthTimeout
  healthConcurrency := max 1 (number lookup "HEALTH_CONCURRENCY" default.healthConcurrency)
  healTimeout := number lookup "HEAL_TIMEOUT_SECONDS" default.healTimeout
  clusterDomain := text lookup "CLUSTER_DOMAIN" default.clusterDomain

theorem healthConcurrency_pos (lookup : String → Option String) :
    0 < (ofLookup lookup).healthConcurrency :=
  Nat.lt_of_lt_of_le Nat.zero_lt_one (Nat.le_max_left 1 _)

end Settings

end ClusterOperator
