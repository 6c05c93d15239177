import ClusterOperator.Kubernetes.Metadata

/-!
# Where a pod may run

The wishes of a pod about the node it runs on. The operator passes them on unseen.

## Main definitions

* `Kubernetes.affinity`, `Kubernetes.toleration`, `Kubernetes.topologySpread`: their shapes.
-/

namespace ClusterOperator

namespace Kubernetes

/-- The shape of a choice of nodes. -/
def nodeSelectorTerm : Shape :=
  let requirements : Shape := .sequence <|
    .lenient "NodeSelectorRequirement"
      (.defaults [("key", .text), ("operator", .text)] (.optionals [("values", texts)] .nil))
  .lenient "NodeSelectorTerm"
    (.optionals [("matchExpressions", requirements), ("matchFields", requirements)] .nil)

/-- The shape of a nearness to other pods. -/
def podAffinityTerm : Shape :=
  .lenient "PodAffinityTerm"
    (.defaults [("topologyKey", .text)] <|
      .optionals
        [("labelSelector", Document.shape LabelSelector), ("matchLabelKeys", texts),
          ("mismatchLabelKeys", texts), ("namespaceSelector", Document.shape LabelSelector),
          ("namespaces", texts)] .nil)

/-- The shape of the nearness to or distance from other pods. -/
def podAffinity (name : String) : Shape :=
  .lenient name
    (.optionals
      [("preferredDuringSchedulingIgnoredDuringExecution", .sequence <|
          .lenient "WeightedPodAffinityTerm"
            (.defaults [("podAffinityTerm", podAffinityTerm), ("weight", .integer .signed32)]
              .nil)),
        ("requiredDuringSchedulingIgnoredDuringExecution", .sequence podAffinityTerm)] .nil)

/-- The shape of all wishes for nearness. -/
def affinity : Shape :=
  .lenient "Affinity"
    (.optionals
      [("nodeAffinity", .lenient "NodeAffinity"
          (.optionals
            [("preferredDuringSchedulingIgnoredDuringExecution", .sequence <|
                .lenient "PreferredSchedulingTerm"
                  (.defaults [("preference", nodeSelectorTerm), ("weight", .integer .signed32)]
                    .nil)),
              ("requiredDuringSchedulingIgnoredDuringExecution", .lenient "NodeSelector"
                (.defaults [("nodeSelectorTerms", .sequence nodeSelectorTerm)] .nil))] .nil)),
        ("podAffinity", podAffinity "PodAffinity"),
        ("podAntiAffinity", podAffinity "PodAntiAffinity")] .nil)

/-- The shape of a taint of nodes that a pod bears. -/
def toleration : Shape :=
  .lenient "Toleration"
    (.optionals
      [("effect", .text), ("key", .text), ("operator", .text),
        ("tolerationSeconds", .integer .signed64), ("value", .text)] .nil)

/-- The shape of a wish to be spread evenly. -/
def topologySpread : Shape :=
  .lenient "TopologySpreadConstraint"
    (.defaults
      [("maxSkew", .integer .signed32), ("topologyKey", .text), ("whenUnsatisfiable", .text)] <|
      .optionals
        [("labelSelector", Document.shape LabelSelector), ("matchLabelKeys", texts),
          ("minDomains", .integer .signed32), ("nodeAffinityPolicy", .text),
          ("nodeTaintsPolicy", .text)] .nil)

end Kubernetes

end ClusterOperator
