import ClusterOperator.Declaration
import ClusterOperator.Kubernetes.ConfigMap
import ClusterOperator.Kubernetes.Pod
import ClusterOperator.Kubernetes.Service
import ClusterOperator.Kubernetes.StatefulSet

/-!
# Kinds of objects

The operator reads and writes objects of five kinds. A kind determines the type of its objects, so
one program can work with all of them; the three kinds of children are those that the operator
creates and keeps in shape.

## Main definitions

* `Kind`, `Kind.Object`: the kinds and the types of their objects.
* `Kind.metadata`, `Kind.withVersion`: what all objects have in common.
* `Child`: the kinds of children.
-/

namespace ClusterOperator

open Kubernetes

/-- The kinds of objects. -/
inductive Kind where
  | configMap
  | declaration
  | pod
  | service
  | statefulSet
  deriving DecidableEq, Repr

namespace Kind

/-- The name of a kind. -/
def name : Kind → String
  | configMap => "ConfigMap"
  | declaration => Declaration.kind
  | pod => "Pod"
  | service => "Service"
  | statefulSet => "StatefulSet"

/-- All kinds in the order of their names. -/
def all : List Kind := [configMap, declaration, pod, service, statefulSet]

/-- The kind of a name. -/
def ofName? (s : String) : Option Kind := all.find? fun k => k.name == s

/-- The type of the objects of a kind. -/
@[reducible] def Object : Kind → Type
  | configMap => ConfigMap
  | declaration => Declaration
  | pod => Pod
  | service => Service
  | statefulSet => StatefulSet

instance document : (k : Kind) → Document k.Object
  | configMap => inferInstanceAs (Document ConfigMap)
  | declaration => inferInstanceAs (Document Declaration)
  | pod => inferInstanceAs (Document Pod)
  | service => inferInstanceAs (Document Service)
  | statefulSet => inferInstanceAs (Document StatefulSet)

/-- The metadata of an object. -/
def metadata : (k : Kind) → k.Object → ObjectMeta
  | configMap, o => ConfigMap.metadata o
  | declaration, o => Declaration.metadata o
  | pod, o => Pod.metadata o
  | service, o => Service.metadata o
  | statefulSet, o => StatefulSet.metadata o

/-- An object with its metadata changed. -/
def mapMetadata (f : ObjectMeta → ObjectMeta) : (k : Kind) → k.Object → k.Object
  | configMap, o => ({ o with metadata := f o.metadata } : ConfigMap)
  | declaration, o => ({ o with metadata := f o.metadata } : Declaration)
  | pod, o => ({ o with metadata := f o.metadata } : Pod)
  | service, o => ({ o with metadata := f o.metadata } : Service)
  | statefulSet, o => ({ o with metadata := f o.metadata } : StatefulSet)

/-- An object with another resource version. -/
def withVersion (k : Kind) (version : Option String) (o : k.Object) : k.Object :=
  mapMetadata (fun m => { m with resourceVersion := version }) k o

end Kind

/-- The kinds of children. -/
inductive Child where
  | configMap
  | statefulSet
  | service
  deriving DecidableEq, Repr

namespace Child

/-- A kind of children as a kind. -/
def kind : Child → Kind
  | configMap => .configMap
  | statefulSet => .statefulSet
  | service => .service

/-- The kind of children that a kind is, if it is one. -/
def ofKind? : Kind → Option Child
  | .configMap => some configMap
  | .statefulSet => some statefulSet
  | .service => some service
  | .declaration | .pod => none

/-- The type of the children of a kind. -/
@[reducible] def Object (c : Child) : Type := c.kind.Object

end Child

end ClusterOperator
