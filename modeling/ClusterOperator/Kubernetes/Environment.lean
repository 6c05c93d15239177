import ClusterOperator.Kubernetes.Metadata

/-!
# Environment variables

The variables that a container starts with: a name with a value, or with a source from which the
value is taken when the container starts.

## Main definitions

* `Kubernetes.EnvVar`: a variable; `Kubernetes.EnvVar.plain` gives a name its value.
* `Kubernetes.envFromSource`: the shape of a source of many variables.
-/

namespace ClusterOperator

namespace Kubernetes

/-- The shape of a choice of one entry of a map of settings or secrets. -/
def keySelector (name : String) : Shape :=
  .lenient name
    (.defaults [("key", .text), ("name", .text)] (.optionals [("optional", .boolean)] .nil))

/-- The shape of a choice of a field of the object itself. -/
def objectFieldSelector : Shape :=
  .lenient "ObjectFieldSelector"
    (.defaults [("fieldPath", .text)] (.optionals [("apiVersion", .text)] .nil))

/-- The shape of a choice of an amount of resources of a container. -/
def resourceFieldSelector : Shape :=
  .lenient "ResourceFieldSelector"
    (.defaults [("resource", .text)]
      (.optionals [("containerName", .text), ("divisor", .text)] .nil))

/-- The shape of a source from which one value is taken. -/
def envVarSource : Shape :=
  .lenient "EnvVarSource"
    (.optionals
      [("configMapKeyRef", keySelector "ConfigMapKeySelector"),
        ("fieldRef", objectFieldSelector), ("resourceFieldRef", resourceFieldSelector),
        ("secretKeyRef", keySelector "SecretKeySelector")] .nil)

/-- The members of a variable that are not looked at. -/
def EnvVar.otherFields : Fields := .optionals [("valueFrom", envVarSource)] .nil

/-- An environment variable. -/
structure EnvVar where
  name : String
  value : Option String
  others : EnvVar.otherFields.Val := EnvVar.otherFields.default

namespace EnvVar

instance : Document EnvVar :=
  .ofMembers (.lenientNamed "EnvVar")
    (.defaulted "name" String <| .optional "value" String <| .others otherFields)
    (fun (name, value, others) => { name, value, others })
    (fun v => (v.name, v.value, v.others))
    (fun _ => rfl) (fun _ => rfl)

/-- The variable of a name with a given value. -/
def plain (name value : String) : EnvVar := { name, value := some value }

end EnvVar

/-- The shape of a reference to a whole map of settings or secrets. -/
def envSource (name : String) : Shape :=
  .lenient name (.defaults [("name", .text)] (.optionals [("optional", .boolean)] .nil))

/-- The shape of a source of many variables. -/
def envFromSource : Shape :=
  .lenient "EnvFromSource"
    (.optionals
      [("configMapRef", envSource "ConfigMapEnvSource"), ("prefix", .text),
        ("secretRef", envSource "SecretEnvSource")] .nil)

end Kubernetes

end ClusterOperator
