import ClusterOperator.Document

/-!
# Names, labels and owners of objects

Every stored object carries metadata: the name it is found under, the labels it is selected by, the
objects that own it, and the version the store gave it. What the operator never looks at is kept
beside these members, so that an object which is read and written back loses nothing.

## Main definitions

* `Kubernetes.OwnerReference`, `Kubernetes.ObjectMeta`, `Kubernetes.LabelSelector`.
* `Kubernetes.ObjectMeta.displayName`: what an object is called.
-/

namespace ClusterOperator

namespace Kubernetes

/-- The shape of a list of texts. -/
def texts : Shape := .sequence .text

/-- The shape of a map from texts to texts. -/
def textMap : Shape := .dictionary .text

/-- The members of an owner that are not looked at. -/
def OwnerReference.otherFields : Fields := .optionals [("blockOwnerDeletion", .boolean)] .nil

/-- An object that owns another one. -/
structure OwnerReference where
  apiVersion : String
  controller : Option Bool
  kind : String
  name : String
  uid : String
  others : OwnerReference.otherFields.Val := OwnerReference.otherFields.default

instance : Document OwnerReference :=
  .ofMembers (.lenientNamed "OwnerReference")
    (.defaulted "apiVersion" String <|
      .optional "controller" Bool <|
      .defaulted "kind" String <|
      .defaulted "name" String <|
      .defaulted "uid" String <|
      .others OwnerReference.otherFields)
    (fun (apiVersion, controller, kind, name, uid, others) =>
      { apiVersion, controller, kind, name, uid, others })
    (fun o => (o.apiVersion, o.controller, o.kind, o.name, o.uid, o.others))
    (fun _ => rfl) (fun _ => rfl)

namespace ObjectMeta

/-- The shape of a record of who manages which fields of an object. -/
def managedFields : Shape :=
  .lenient "ManagedFieldsEntry"
    (.optionals
      [("apiVersion", .text), ("fieldsType", .text), ("fieldsV1", .anything), ("manager", .text),
        ("operation", .text), ("subresource", .text), ("time", .instant)] .nil)

/-- The members of the metadata that are not looked at. -/
def otherFields : Fields :=
  .optionals
    [("creationTimestamp", .instant), ("deletionGracePeriodSeconds", .integer .signed64),
      ("deletionTimestamp", .instant), ("finalizers", texts),
      ("managedFields", .sequence managedFields), ("selfLink", .text)] .nil

end ObjectMeta

/-- The metadata of an object; `space` is its namespace. -/
structure ObjectMeta where
  annotations : Option (Dict String) := none
  generateName : Option String := none
  generation : Option Width.signed64.Val := none
  labels : Option (Dict String) := none
  name : Option String := none
  space : Option String := none
  ownerReferences : Option (List OwnerReference) := none
  resourceVersion : Option String := none
  uid : Option String := none
  others : ObjectMeta.otherFields.Val := ObjectMeta.otherFields.default

namespace ObjectMeta

instance : Inhabited ObjectMeta := ⟨{}⟩

instance : Document ObjectMeta :=
  .ofMembers (.lenientNamed "ObjectMeta")
    (.optional "annotations" (Dict String) <|
      .optional "generateName" String <|
      .optional "generation" Width.signed64.Val <|
      .optional "labels" (Dict String) <|
      .optional "name" String <|
      .optional "namespace" String <|
      .optional "ownerReferences" (List OwnerReference) <|
      .optional "resourceVersion" String <|
      .optional "uid" String <|
      .others otherFields)
    (fun (annotations, generateName, generation, labels, name, space, ownerReferences,
        resourceVersion, uid, others) =>
      { annotations, generateName, generation, labels, name, space, ownerReferences,
        resourceVersion, uid, others })
    (fun m =>
      (m.annotations, m.generateName, m.generation, m.labels, m.name, m.space, m.ownerReferences,
        m.resourceVersion, m.uid, m.others))
    (fun _ => rfl) (fun _ => rfl)

/-- What an object is called: its name, else the stem for a name, else nothing. -/
def displayName (m : ObjectMeta) : String := (m.name.or m.generateName).getD ""

/-- The namespace of an object, empty if it has none. -/
def spaceOrEmpty (m : ObjectMeta) : String := m.space.getD ""

end ObjectMeta

/-- The members of a selector that are not looked at. -/
def LabelSelector.otherFields : Fields :=
  .optionals
    [("matchExpressions", .sequence <|
      .lenient "LabelSelectorRequirement"
        (.defaults [("key", .text), ("operator", .text)] (.optionals [("values", texts)] .nil)))]
    .nil

/-- Which objects belong together, by their labels. -/
structure LabelSelector where
  matchLabels : Option (Dict String) := none
  others : LabelSelector.otherFields.Val := LabelSelector.otherFields.default

instance : Document LabelSelector :=
  .ofMembers (.lenientNamed "LabelSelector")
    (.optional "matchLabels" (Dict String) <| .others LabelSelector.otherFields)
    (fun (matchLabels, others) => { matchLabels, others })
    (fun s => (s.matchLabels, s.others))
    (fun _ => rfl) (fun _ => rfl)

instance : Inhabited LabelSelector := ⟨{}⟩

end Kubernetes

end ClusterOperator
