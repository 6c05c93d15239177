import ClusterOperator.Kubernetes.Environment
import ClusterOperator.Kubernetes.Resources

/-!
# Volumes, mounts and claims

What a pod stores data in and reads settings from: volumes with their many sources, the places at
which a container sees them, and claims for storage that outlives a pod.

## Main definitions

* `Kubernetes.Volume`, `Kubernetes.ConfigMapVolumeSource`, `Kubernetes.VolumeMount`.
* `Kubernetes.PersistentVolumeClaim`.
-/

namespace ClusterOperator

namespace Kubernetes

/-! ### Claims -/

/-- The members of the specification of a claim that are not looked at. -/
def PersistentVolumeClaimSpec.otherFields : Fields :=
  .optionals
    [("dataSource", .lenient "TypedLocalObjectReference"
        (.defaults [("kind", .text), ("name", .text)] (.optionals [("apiGroup", .text)] .nil))),
      ("dataSourceRef", .lenient "TypedObjectReference"
        (.defaults [("kind", .text), ("name", .text)]
          (.optionals [("apiGroup", .text), ("namespace", .text)] .nil))),
      ("selector", Document.shape LabelSelector), ("volumeAttributesClassName", .text),
      ("volumeMode", .text), ("volumeName", .text)] .nil

/-- The storage that a claim asks for. -/
structure PersistentVolumeClaimSpec where
  accessModes : Option (List String) := none
  resources : Option VolumeResourceRequirements := none
  storageClassName : Option String := none
  others : PersistentVolumeClaimSpec.otherFields.Val :=
    PersistentVolumeClaimSpec.otherFields.default

instance : Document PersistentVolumeClaimSpec :=
  .ofMembers (.lenientNamed "PersistentVolumeClaimSpec")
    (.optional "accessModes" (List String) <|
      .optional "resources" VolumeResourceRequirements <|
      .optional "storageClassName" String <|
      .others PersistentVolumeClaimSpec.otherFields)
    (fun (accessModes, resources, storageClassName, others) =>
      { accessModes, resources, storageClassName, others })
    (fun s => (s.accessModes, s.resources, s.storageClassName, s.others))
    (fun _ => rfl) (fun _ => rfl)

/-- The shape of the state of a claim. -/
def persistentVolumeClaimStatus : Shape :=
  .lenient "PersistentVolumeClaimStatus"
    (.optionals
      [("accessModes", texts), ("allocatedResourceStatuses", textMap),
        ("allocatedResources", textMap), ("capacity", textMap),
        ("conditions", .sequence <|
          .lenient "PersistentVolumeClaimCondition"
            (.defaults [("status", .text), ("type", .text)] <|
              .optionals
                [("lastProbeTime", .instant), ("lastTransitionTime", .instant),
                  ("message", .text), ("reason", .text)] .nil)),
        ("currentVolumeAttributesClassName", .text),
        ("modifyVolumeStatus", .lenient "ModifyVolumeStatus"
          (.defaults [("status", .text)]
            (.optionals [("targetVolumeAttributesClassName", .text)] .nil))),
        ("phase", .text)] .nil)

/-- The members of a claim that are not looked at. -/
def PersistentVolumeClaim.otherFields : Fields :=
  .optionals [("status", persistentVolumeClaimStatus)] .nil

/-- A claim for storage. -/
structure PersistentVolumeClaim where
  metadata : ObjectMeta := {}
  spec : Option PersistentVolumeClaimSpec := none
  others : PersistentVolumeClaim.otherFields.Val := PersistentVolumeClaim.otherFields.default

instance : Document PersistentVolumeClaim :=
  .ofMembers (.objectNamed "v1" "PersistentVolumeClaim")
    (.defaulted "metadata" ObjectMeta <|
      .optional "spec" PersistentVolumeClaimSpec <|
      .others PersistentVolumeClaim.otherFields)
    (fun (metadata, spec, others) => { metadata, spec, others })
    (fun c => (c.metadata, c.spec, c.others))
    (fun _ => rfl) (fun _ => rfl)

/-! ### Sources of volumes -/

/-- The shape of a reference to an object of the same namespace. -/
def localObjectReference : Shape :=
  .lenient "LocalObjectReference" (.defaults [("name", .text)] .nil)

/-- A key of a map that becomes a file. -/
structure KeyToPath where
  key : String
  mode : Option Signed32 := none
  path : String

instance : Document KeyToPath :=
  .ofMembers (.lenientNamed "KeyToPath")
    (.defaulted "key" String <| .optional "mode" Signed32 <| .defaulted "path" String .nil)
    (fun (key, mode, path, _) => { key, mode, path })
    (fun k => (k.key, k.mode, k.path, ()))
    (fun _ => rfl) (fun _ => rfl)

/-- The shape of the keys that become files. -/
def keysToPaths : Shape := .sequence (Document.shape KeyToPath)

/-- Files from a configuration map. -/
structure ConfigMapVolumeSource where
  defaultMode : Option Signed32 := none
  items : Option (List KeyToPath) := none
  name : String
  isOptional : Option Bool := none

instance : Document ConfigMapVolumeSource :=
  .ofMembers (.lenientNamed "ConfigMapVolumeSource")
    (.optional "defaultMode" Signed32 <|
      .optional "items" (List KeyToPath) <|
      .defaulted "name" String <|
      .optional "optional" Bool .nil)
    (fun (defaultMode, items, name, isOptional, _) => { defaultMode, items, name, isOptional })
    (fun s => (s.defaultMode, s.items, s.name, s.isOptional, ()))
    (fun _ => rfl) (fun _ => rfl)

/-- The shape of the files that show fields of the pod itself. -/
def downwardFiles : Shape :=
  .sequence <| .lenient "DownwardAPIVolumeFile"
    (.defaults [("path", .text)] <|
      .optionals
        [("fieldRef", objectFieldSelector), ("mode", .integer .signed32),
          ("resourceFieldRef", resourceFieldSelector)] .nil)

/-- The shape of one of several sources that are laid over each other. -/
def volumeProjection : Shape :=
  .lenient "VolumeProjection"
    (.optionals
      [("clusterTrustBundle", .lenient "ClusterTrustBundleProjection"
          (.defaults [("path", .text)] <|
            .optionals
              [("labelSelector", Document.shape LabelSelector), ("name", .text),
                ("optional", .boolean), ("signerName", .text)] .nil)),
        ("configMap", .lenient "ConfigMapProjection"
          (.defaults [("name", .text)]
            (.optionals [("items", keysToPaths), ("optional", .boolean)] .nil))),
        ("downwardAPI", .lenient "DownwardAPIProjection"
          (.optionals [("items", downwardFiles)] .nil)),
        ("secret", .lenient "SecretProjection"
          (.defaults [("name", .text)]
            (.optionals [("items", keysToPaths), ("optional", .boolean)] .nil))),
        ("serviceAccountToken", .lenient "ServiceAccountTokenProjection"
          (.defaults [("path", .text)] <|
            .optionals [("audience", .text), ("expirationSeconds", .integer .signed64)] .nil))]
      .nil)

/-- The sources that live in the cluster itself. -/
def clusterSources : List (String × Shape) :=
  [("csi", .lenient "CSIVolumeSource"
      (.defaults [("driver", .text)] <|
        .optionals
          [("fsType", .text), ("nodePublishSecretRef", localObjectReference),
            ("readOnly", .boolean), ("volumeAttributes", textMap)] .nil)),
    ("downwardAPI", .lenient "DownwardAPIVolumeSource"
      (.optionals [("defaultMode", .integer .signed32), ("items", downwardFiles)] .nil)),
    ("emptyDir", .lenient "EmptyDirVolumeSource"
      (.optionals [("medium", .text), ("sizeLimit", .text)] .nil)),
    ("ephemeral", .lenient "EphemeralVolumeSource"
      (.optionals
        [("volumeClaimTemplate", .lenient "PersistentVolumeClaimTemplate"
          (.cons "metadata" .optional (Document.shape ObjectMeta) <|
            .cons "spec" .defaulted (Document.shape PersistentVolumeClaimSpec) .nil))] .nil)),
    ("hostPath", .lenient "HostPathVolumeSource"
      (.defaults [("path", .text)] (.optionals [("type", .text)] .nil))),
    ("image", .lenient "ImageVolumeSource"
      (.optionals [("pullPolicy", .text), ("reference", .text)] .nil)),
    ("persistentVolumeClaim", .lenient "PersistentVolumeClaimVolumeSource"
      (.defaults [("claimName", .text)] (.optionals [("readOnly", .boolean)] .nil))),
    ("projected", .lenient "ProjectedVolumeSource"
      (.optionals
        [("defaultMode", .integer .signed32), ("sources", .sequence volumeProjection)] .nil)),
    ("secret", .lenient "SecretVolumeSource"
      (.optionals
        [("defaultMode", .integer .signed32), ("items", keysToPaths), ("optional", .boolean),
          ("secretName", .text)] .nil))]

/-- The sources that are disks and file systems of others. -/
def foreignSources : List (String × Shape) :=
  [("awsElasticBlockStore", .lenient "AWSElasticBlockStoreVolumeSource"
      (.defaults [("volumeID", .text)] <|
        .optionals
          [("fsType", .text), ("partition", .integer .signed32), ("readOnly", .boolean)] .nil)),
    ("azureDisk", .lenient "AzureDiskVolumeSource"
      (.defaults [("diskName", .text), ("diskURI", .text)] <|
        .optionals
          [("cachingMode", .text), ("fsType", .text), ("kind", .text), ("readOnly", .boolean)]
          .nil)),
    ("azureFile", .lenient "AzureFileVolumeSource"
      (.defaults [("secretName", .text), ("shareName", .text)]
        (.optionals [("readOnly", .boolean)] .nil))),
    ("cephfs", .lenient "CephFSVolumeSource"
      (.defaults [("monitors", texts)] <|
        .optionals
          [("path", .text), ("readOnly", .boolean), ("secretFile", .text),
            ("secretRef", localObjectReference), ("user", .text)] .nil)),
    ("cinder", .lenient "CinderVolumeSource"
      (.defaults [("volumeID", .text)] <|
        .optionals
          [("fsType", .text), ("readOnly", .boolean), ("secretRef", localObjectReference)] .nil)),
    ("fc", .lenient "FCVolumeSource"
      (.optionals
        [("fsType", .text), ("lun", .integer .signed32), ("readOnly", .boolean),
          ("targetWWNs", texts), ("wwids", texts)] .nil)),
    ("flexVolume", .lenient "FlexVolumeSource"
      (.defaults [("driver", .text)] <|
        .optionals
          [("fsType", .text), ("options", textMap), ("readOnly", .boolean),
            ("secretRef", localObjectReference)] .nil)),
    ("flocker", .lenient "FlockerVolumeSource"
      (.optionals [("datasetName", .text), ("datasetUUID", .text)] .nil)),
    ("gcePersistentDisk", .lenient "GCEPersistentDiskVolumeSource"
      (.defaults [("pdName", .text)] <|
        .optionals
          [("fsType", .text), ("partition", .integer .signed32), ("readOnly", .boolean)] .nil)),
    ("gitRepo", .lenient "GitRepoVolumeSource"
      (.defaults [("repository", .text)]
        (.optionals [("directory", .text), ("revision", .text)] .nil))),
    ("glusterfs", .lenient "GlusterfsVolumeSource"
      (.defaults [("endpoints", .text), ("path", .text)]
        (.optionals [("readOnly", .boolean)] .nil))),
    ("iscsi", .lenient "ISCSIVolumeSource"
      (.defaults [("iqn", .text), ("lun", .integer .signed32), ("targetPortal", .text)] <|
        .optionals
          [("chapAuthDiscovery", .boolean), ("chapAuthSession", .boolean), ("fsType", .text),
            ("initiatorName", .text), ("iscsiInterface", .text), ("portals", texts),
            ("readOnly", .boolean), ("secretRef", localObjectReference)] .nil)),
    ("nfs", .lenient "NFSVolumeSource"
      (.defaults [("path", .text), ("server", .text)]
        (.optionals [("readOnly", .boolean)] .nil))),
    ("photonPersistentDisk", .lenient "PhotonPersistentDiskVolumeSource"
      (.defaults [("pdID", .text)] (.optionals [("fsType", .text)] .nil))),
    ("portworxVolume", .lenient "PortworxVolumeSource"
      (.defaults [("volumeID", .text)]
        (.optionals [("fsType", .text), ("readOnly", .boolean)] .nil))),
    ("quobyte", .lenient "QuobyteVolumeSource"
      (.defaults [("registry", .text), ("volume", .text)] <|
        .optionals
          [("group", .text), ("readOnly", .boolean), ("tenant", .text), ("user", .text)] .nil)),
    ("rbd", .lenient "RBDVolumeSource"
      (.defaults [("image", .text), ("monitors", texts)] <|
        .optionals
          [("fsType", .text), ("keyring", .text), ("pool", .text), ("readOnly", .boolean),
            ("secretRef", localObjectReference), ("user", .text)] .nil)),
    ("scaleIO", .lenient "ScaleIOVolumeSource"
      (.defaults
        [("gateway", .text), ("secretRef", localObjectReference), ("system", .text)] <|
        .optionals
          [("fsType", .text), ("protectionDomain", .text), ("readOnly", .boolean),
            ("sslEnabled", .boolean), ("storageMode", .text), ("storagePool", .text),
            ("volumeName", .text)] .nil)),
    ("storageos", .lenient "StorageOSVolumeSource"
      (.optionals
        [("fsType", .text), ("readOnly", .boolean), ("secretRef", localObjectReference),
          ("volumeName", .text), ("volumeNamespace", .text)] .nil)),
    ("vsphereVolume", .lenient "VsphereVirtualDiskVolumeSource"
      (.defaults [("volumePath", .text)] <|
        .optionals
          [("fsType", .text), ("storagePolicyID", .text), ("storagePolicyName", .text)] .nil))]

/-! ### Volumes and mounts -/

/-- The sources of a volume that are not looked at. -/
def Volume.otherFields : Fields := .optionals clusterSources (.optionals foreignSources .nil)

/-- A volume of a pod. -/
structure Volume where
  name : String
  configMap : Option ConfigMapVolumeSource := none
  others : Volume.otherFields.Val := Volume.otherFields.default

instance : Document Volume :=
  .ofMembers (.lenientNamed "Volume")
    (.defaulted "name" String <|
      .optional "configMap" ConfigMapVolumeSource <|
      .others Volume.otherFields)
    (fun (name, configMap, others) => { name, configMap, others })
    (fun v => (v.name, v.configMap, v.others))
    (fun _ => rfl) (fun _ => rfl)

/-- The members of a mount that are not looked at. -/
def VolumeMount.otherFields : Fields :=
  .optionals
    [("mountPropagation", .text), ("readOnly", .boolean), ("recursiveReadOnly", .text),
      ("subPathExpr", .text)] .nil

/-- The place at which a container sees a volume. -/
structure VolumeMount where
  mountPath : String
  name : String
  subPath : Option String := none
  others : VolumeMount.otherFields.Val := VolumeMount.otherFields.default

instance : Document VolumeMount :=
  .ofMembers (.lenientNamed "VolumeMount")
    (.defaulted "mountPath" String <|
      .defaulted "name" String <|
      .optional "subPath" String <|
      .others VolumeMount.otherFields)
    (fun (mountPath, name, subPath, others) => { mountPath, name, subPath, others })
    (fun m => (m.mountPath, m.name, m.subPath, m.others))
    (fun _ => rfl) (fun _ => rfl)

end Kubernetes

end ClusterOperator
