import Testbed.Api.Schema.Basic

namespace Testbed
namespace Schema

/-!
The shapes of volumes: where the files come from that pods mount.
-/

open Shape (optional)

/-- A member of an object that a pod can ask for. -/
def fieldReference : Shape :=
  .record "ObjectFieldSelector" (texts ["apiVersion", "fieldPath"])

/-- A resource of a container that a pod can ask for. -/
def resourceReference : Shape :=
  .record "ResourceFieldSelector" (texts ["containerName", "divisor", "resource"])

/-- Which keys go to which paths. -/
def keyPaths : Shape :=
  .list (.record "KeyToPath" (texts ["key", "path"] ++ integers ["mode"]))

def downwardFiles : Shape :=
  .list (.record "DownwardAPIVolumeFile"
    ([optional "fieldRef" fieldReference, optional "resourceFieldRef" resourceReference] ++
      texts ["path"] ++ integers ["mode"]))

/-- Amounts of resources, which are texts, by the names of the resources. -/
def quantities : Shape :=
  stringMap

def claimSpec : Shape :=
  .record "PersistentVolumeClaimSpec"
    (textLists ["accessModes"] ++
      texts ["storageClassName", "volumeAttributesClassName", "volumeMode", "volumeName"] ++
      [optional "dataSource" (.record "TypedLocalObjectReference" (texts ["apiGroup", "kind", "name"])),
        optional "dataSourceRef" (.record "TypedObjectReference"
          (texts ["apiGroup", "kind", "name", "namespace"])),
        optional "resources" (.record "VolumeResourceRequirements"
          [optional "limits" quantities, optional "requests" quantities]),
        optional "selector" labelSelector])

/-- Disks and shares that are attached over the network. -/
def attachedVolumes : List Field :=
  [optional "awsElasticBlockStore" (.record "AWSElasticBlockStoreVolumeSource"
      (texts ["fsType", "volumeID"] ++ integers ["partition"] ++ flags ["readOnly"])),
    optional "azureDisk" (.record "AzureDiskVolumeSource"
      (texts ["cachingMode", "diskName", "diskURI", "fsType", "kind"] ++ flags ["readOnly"])),
    optional "azureFile" (.record "AzureFileVolumeSource"
      (texts ["secretName", "shareName"] ++ flags ["readOnly"])),
    optional "cephfs" (.record "CephFSVolumeSource"
      (texts ["path", "secretFile", "user"] ++ textLists ["monitors"] ++ flags ["readOnly"] ++
        [optional "secretRef" localReference])),
    optional "cinder" (.record "CinderVolumeSource"
      (texts ["fsType", "volumeID"] ++ flags ["readOnly"] ++ [optional "secretRef" localReference])),
    optional "fc" (.record "FCVolumeSource"
      (texts ["fsType"] ++ integers ["lun"] ++ flags ["readOnly"] ++
        textLists ["targetWWNs", "wwids"])),
    optional "flocker" (.record "FlockerVolumeSource" (texts ["datasetName", "datasetUUID"])),
    optional "gcePersistentDisk" (.record "GCEPersistentDiskVolumeSource"
      (texts ["fsType", "pdName"] ++ integers ["partition"] ++ flags ["readOnly"])),
    optional "glusterfs" (.record "GlusterfsVolumeSource"
      (texts ["endpoints", "path"] ++ flags ["readOnly"])),
    optional "iscsi" (.record "ISCSIVolumeSource"
      (texts ["fsType", "initiatorName", "iqn", "iscsiInterface", "targetPortal"] ++
        flags ["chapAuthDiscovery", "chapAuthSession", "readOnly"] ++ integers ["lun"] ++
        textLists ["portals"] ++ [optional "secretRef" localReference])),
    optional "nfs" (.record "NFSVolumeSource" (texts ["path", "server"] ++ flags ["readOnly"])),
    optional "photonPersistentDisk" (.record "PhotonPersistentDiskVolumeSource"
      (texts ["fsType", "pdID"])),
    optional "portworxVolume" (.record "PortworxVolumeSource"
      (texts ["fsType", "volumeID"] ++ flags ["readOnly"])),
    optional "quobyte" (.record "QuobyteVolumeSource"
      (texts ["group", "registry", "tenant", "user", "volume"] ++ flags ["readOnly"])),
    optional "rbd" (.record "RBDVolumeSource"
      (texts ["fsType", "image", "keyring", "pool", "user"] ++ textLists ["monitors"] ++
        flags ["readOnly"] ++ [optional "secretRef" localReference])),
    optional "scaleIO" (.record "ScaleIOVolumeSource"
      (texts ["fsType", "gateway", "protectionDomain", "storageMode", "storagePool", "system",
          "volumeName"] ++
        flags ["readOnly", "sslEnabled"] ++ [optional "secretRef" localReference])),
    optional "storageos" (.record "StorageOSVolumeSource"
      (texts ["fsType", "volumeName", "volumeNamespace"] ++ flags ["readOnly"] ++
        [optional "secretRef" localReference])),
    optional "vsphereVolume" (.record "VsphereVirtualDiskVolumeSource"
      (texts ["fsType", "storagePolicyID", "storagePolicyName", "volumePath"]))]

/-- What several sources are put together from. -/
def projection : Shape :=
  .record "VolumeProjection"
    [optional "clusterTrustBundle" (.record "ClusterTrustBundleProjection"
        (texts ["name", "path", "signerName"] ++ flags ["optional"] ++
          [optional "labelSelector" labelSelector])),
      optional "configMap" (.record "ConfigMapProjection"
        (texts ["name"] ++ flags ["optional"] ++ [optional "items" keyPaths])),
      optional "downwardAPI" (.record "DownwardAPIProjection" [optional "items" downwardFiles]),
      optional "secret" (.record "SecretProjection"
        (texts ["name"] ++ flags ["optional"] ++ [optional "items" keyPaths])),
      optional "serviceAccountToken" (.record "ServiceAccountTokenProjection"
        (texts ["audience", "path"] ++ longIntegers ["expirationSeconds"]))]

/-- A volume of a pod. -/
def volume : Shape :=
  .record "Volume"
    (texts ["name"] ++ attachedVolumes ++
      [optional "configMap" (.record "ConfigMapVolumeSource"
          (texts ["name"] ++ integers ["defaultMode"] ++ flags ["optional"] ++
            [optional "items" keyPaths])),
        optional "csi" (.record "CSIVolumeSource"
          (texts ["driver", "fsType"] ++ flags ["readOnly"] ++
            [optional "nodePublishSecretRef" localReference, optional "volumeAttributes" stringMap])),
        optional "downwardAPI" (.record "DownwardAPIVolumeSource"
          (integers ["defaultMode"] ++ [optional "items" downwardFiles])),
        optional "emptyDir" (.record "EmptyDirVolumeSource" (texts ["medium", "sizeLimit"])),
        optional "ephemeral" (.record "EphemeralVolumeSource"
          [optional "volumeClaimTemplate" (.record "PersistentVolumeClaimTemplate"
            [optional "metadata" objectMetadata, optional "spec" claimSpec])]),
        optional "flexVolume" (.record "FlexVolumeSource"
          (texts ["driver", "fsType"] ++ flags ["readOnly"] ++
            [optional "options" stringMap, optional "secretRef" localReference])),
        optional "gitRepo" (.record "GitRepoVolumeSource"
          (texts ["directory", "repository", "revision"])),
        optional "hostPath" (.record "HostPathVolumeSource" (texts ["path", "type"])),
        optional "image" (.record "ImageVolumeSource" (texts ["pullPolicy", "reference"])),
        optional "persistentVolumeClaim" (.record "PersistentVolumeClaimVolumeSource"
          (texts ["claimName"] ++ flags ["readOnly"])),
        optional "projected" (.record "ProjectedVolumeSource"
          (integers ["defaultMode"] ++ [optional "sources" (.list projection)])),
        optional "secret" (.record "SecretVolumeSource"
          (texts ["secretName"] ++ integers ["defaultMode"] ++ flags ["optional"] ++
            [optional "items" keyPaths]))])

end Schema
end Testbed
