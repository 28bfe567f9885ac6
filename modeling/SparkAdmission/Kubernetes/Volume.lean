import SparkAdmission.Kubernetes.Meta

/-!
# Volumes

Shapes of the volumes of a pod, of their sources, and of their mounts in a container.
-/

namespace SparkAdmission.Kubernetes

/-- A block store disk. -/
def awsElasticBlockStoreVolumeSource : Shape :=
  .object [
    opt "fsType" .string, opt "partition" .int32, opt "readOnly" .boolean, req "volumeID" .string]

/-- A data disk. -/
def azureDiskVolumeSource : Shape :=
  .object [
    opt "cachingMode" .string, req "diskName" .string, req "diskURI" .string,
    opt "fsType" .string, opt "kind" .string, opt "readOnly" .boolean]

/-- A file share. -/
def azureFileVolumeSource : Shape :=
  .object [opt "readOnly" .boolean, req "secretName" .string, req "shareName" .string]

/-- A volume of a storage driver. -/
def csiVolumeSource : Shape :=
  .object [
    req "driver" .string, opt "fsType" .string, opt "nodePublishSecretRef" localObjectReference,
    opt "readOnly" .boolean, opt "volumeAttributes" (.map .string)]

/-- A distributed file system with its monitors. -/
def cephFSVolumeSource : Shape :=
  .object [
    req "monitors" (.list .string), opt "path" .string, opt "readOnly" .boolean,
    opt "secretFile" .string, opt "secretRef" localObjectReference, opt "user" .string]

/-- A block storage volume. -/
def cinderVolumeSource : Shape :=
  .object [
    opt "fsType" .string, opt "readOnly" .boolean, opt "secretRef" localObjectReference,
    req "volumeID" .string]

/-- A key, and the file that it becomes. -/
def keyToPath : Shape :=
  .object [req "key" .string, opt "mode" .int32, req "path" .string]

/-- A config map as files. -/
def configMapVolumeSource : Shape :=
  .object [
    opt "defaultMode" .int32, opt "items" (.list keyToPath), req "name" .string,
    opt "optional" .boolean]

/-- A field of the pod. -/
def objectFieldSelector : Shape :=
  .object [opt "apiVersion" .string, req "fieldPath" .string]

/-- A resource of a container. -/
def resourceFieldSelector : Shape :=
  .object [opt "containerName" .string, opt "divisor" .string, req "resource" .string]

/-- A file that holds a field of the pod or a resource of a container. -/
def downwardAPIVolumeFile : Shape :=
  .object [
    opt "fieldRef" objectFieldSelector, opt "mode" .int32, req "path" .string,
    opt "resourceFieldRef" resourceFieldSelector]

/-- Fields of the pod as files. -/
def downwardAPIVolumeSource : Shape :=
  .object [opt "defaultMode" .int32, opt "items" (.list downwardAPIVolumeFile)]

/-- A directory that lives as long as the pod. -/
def emptyDirVolumeSource : Shape :=
  .object [opt "medium" .string, opt "sizeLimit" .string]

/-- The size of a claimed volume. -/
def volumeResourceRequirements : Shape :=
  .object [opt "limits" (.map .string), opt "requests" (.map .string)]

/-- What a claim asks for. -/
def persistentVolumeClaimSpec : Shape :=
  .object [
    opt "accessModes" (.list .string), opt "dataSource" typedLocalObjectReference,
    opt "dataSourceRef" typedObjectReference, opt "resources" volumeResourceRequirements,
    opt "selector" labelSelector, opt "storageClassName" .string,
    opt "volumeAttributesClassName" .string, opt "volumeMode" .string, opt "volumeName" .string]

/-- A claim that is made with the pod. -/
def persistentVolumeClaimTemplate : Shape :=
  .object [opt "metadata" objectMeta, req "spec" persistentVolumeClaimSpec]

/-- A volume that is claimed with the pod. -/
def ephemeralVolumeSource : Shape :=
  .object [opt "volumeClaimTemplate" persistentVolumeClaimTemplate]

/-- A fibre channel disk. -/
def fcVolumeSource : Shape :=
  .object [
    opt "fsType" .string, opt "lun" .int32, opt "readOnly" .boolean,
    opt "targetWWNs" (.list .string), opt "wwids" (.list .string)]

/-- A volume of a plugin that is started as a program. -/
def flexVolumeSource : Shape :=
  .object [
    req "driver" .string, opt "fsType" .string, opt "options" (.map .string),
    opt "readOnly" .boolean, opt "secretRef" localObjectReference]

/-- A dataset of a volume manager. -/
def flockerVolumeSource : Shape :=
  .object [opt "datasetName" .string, opt "datasetUUID" .string]

/-- A persistent disk. -/
def gcePersistentDiskVolumeSource : Shape :=
  .object [
    opt "fsType" .string, opt "partition" .int32, req "pdName" .string, opt "readOnly" .boolean]

/-- A directory filled from a repository. -/
def gitRepoVolumeSource : Shape :=
  .object [opt "directory" .string, req "repository" .string, opt "revision" .string]

/-- A distributed file system with its endpoints. -/
def glusterfsVolumeSource : Shape :=
  .object [req "endpoints" .string, req "path" .string, opt "readOnly" .boolean]

/-- A directory of the node. -/
def hostPathVolumeSource : Shape :=
  .object [req "path" .string, opt "type" .string]

/-- A disk of a storage network. -/
def iscsiVolumeSource : Shape :=
  .object [
    opt "chapAuthDiscovery" .boolean, opt "chapAuthSession" .boolean, opt "fsType" .string,
    opt "initiatorName" .string, req "iqn" .string, opt "iscsiInterface" .string,
    req "lun" .int32, opt "portals" (.list .string), opt "readOnly" .boolean,
    opt "secretRef" localObjectReference, req "targetPortal" .string]

/-- The content of an image. -/
def imageVolumeSource : Shape :=
  .object [opt "pullPolicy" .string, opt "reference" .string]

/-- A network file system. -/
def nfsVolumeSource : Shape :=
  .object [req "path" .string, opt "readOnly" .boolean, req "server" .string]

/-- A claim, by name. -/
def persistentVolumeClaimVolumeSource : Shape :=
  .object [req "claimName" .string, opt "readOnly" .boolean]

/-- A persistent disk of a controller. -/
def photonPersistentDiskVolumeSource : Shape :=
  .object [opt "fsType" .string, req "pdID" .string]

/-- A volume of a storage layer. -/
def portworxVolumeSource : Shape :=
  .object [opt "fsType" .string, opt "readOnly" .boolean, req "volumeID" .string]

/-- Trust anchors as a file. -/
def clusterTrustBundleProjection : Shape :=
  .object [
    opt "labelSelector" labelSelector, opt "name" .string, opt "optional" .boolean,
    req "path" .string, opt "signerName" .string]

/-- A config map as files among others. -/
def configMapProjection : Shape :=
  .object [opt "items" (.list keyToPath), req "name" .string, opt "optional" .boolean]

/-- Fields of the pod as files among others. -/
def downwardAPIProjection : Shape :=
  .object [opt "items" (.list downwardAPIVolumeFile)]

/-- A secret as files among others. -/
def secretProjection : Shape :=
  .object [opt "items" (.list keyToPath), req "name" .string, opt "optional" .boolean]

/-- A token of the service account as a file. -/
def serviceAccountTokenProjection : Shape :=
  .object [opt "audience" .string, opt "expirationSeconds" .int64, req "path" .string]

/-- One source of a projected volume. -/
def volumeProjection : Shape :=
  .object [
    opt "clusterTrustBundle" clusterTrustBundleProjection, opt "configMap" configMapProjection,
    opt "downwardAPI" downwardAPIProjection, opt "secret" secretProjection,
    opt "serviceAccountToken" serviceAccountTokenProjection]

/-- Several sources in one directory. -/
def projectedVolumeSource : Shape :=
  .object [opt "defaultMode" .int32, opt "sources" (.list volumeProjection)]

/-- A volume of a registry. -/
def quobyteVolumeSource : Shape :=
  .object [
    opt "group" .string, opt "readOnly" .boolean, req "registry" .string, opt "tenant" .string,
    opt "user" .string, req "volume" .string]

/-- A block device image with its monitors. -/
def rbdVolumeSource : Shape :=
  .object [
    opt "fsType" .string, req "image" .string, opt "keyring" .string,
    req "monitors" (.list .string), opt "pool" .string, opt "readOnly" .boolean,
    opt "secretRef" localObjectReference, opt "user" .string]

/-- A volume of a storage pool. -/
def scaleIOVolumeSource : Shape :=
  .object [
    opt "fsType" .string, req "gateway" .string, opt "protectionDomain" .string,
    opt "readOnly" .boolean, req "secretRef" localObjectReference, opt "sslEnabled" .boolean,
    opt "storageMode" .string, opt "storagePool" .string, req "system" .string,
    opt "volumeName" .string]

/-- A secret as files. -/
def secretVolumeSource : Shape :=
  .object [
    opt "defaultMode" .int32, opt "items" (.list keyToPath), opt "optional" .boolean,
    opt "secretName" .string]

/-- A volume of a namespace. -/
def storageOSVolumeSource : Shape :=
  .object [
    opt "fsType" .string, opt "readOnly" .boolean, opt "secretRef" localObjectReference,
    opt "volumeName" .string, opt "volumeNamespace" .string]

/-- A virtual disk. -/
def vsphereVirtualDiskVolumeSource : Shape :=
  .object [
    opt "fsType" .string, opt "storagePolicyID" .string, opt "storagePolicyName" .string,
    req "volumePath" .string]

/-- A volume of a pod: its name, and one source. -/
def volume : Shape :=
  .object [
    opt "awsElasticBlockStore" awsElasticBlockStoreVolumeSource,
    opt "azureDisk" azureDiskVolumeSource, opt "azureFile" azureFileVolumeSource,
    opt "cephfs" cephFSVolumeSource, opt "cinder" cinderVolumeSource,
    opt "configMap" configMapVolumeSource, opt "csi" csiVolumeSource,
    opt "downwardAPI" downwardAPIVolumeSource, opt "emptyDir" emptyDirVolumeSource,
    opt "ephemeral" ephemeralVolumeSource, opt "fc" fcVolumeSource,
    opt "flexVolume" flexVolumeSource, opt "flocker" flockerVolumeSource,
    opt "gcePersistentDisk" gcePersistentDiskVolumeSource, opt "gitRepo" gitRepoVolumeSource,
    opt "glusterfs" glusterfsVolumeSource, opt "hostPath" hostPathVolumeSource,
    opt "image" imageVolumeSource, opt "iscsi" iscsiVolumeSource, req "name" .string,
    opt "nfs" nfsVolumeSource, opt "persistentVolumeClaim" persistentVolumeClaimVolumeSource,
    opt "photonPersistentDisk" photonPersistentDiskVolumeSource,
    opt "portworxVolume" portworxVolumeSource, opt "projected" projectedVolumeSource,
    opt "quobyte" quobyteVolumeSource, opt "rbd" rbdVolumeSource,
    opt "scaleIO" scaleIOVolumeSource, opt "secret" secretVolumeSource,
    opt "storageos" storageOSVolumeSource, opt "vsphereVolume" vsphereVirtualDiskVolumeSource]

/-- A volume, and where a container finds it. -/
def volumeMount : Shape :=
  .object [
    req "mountPath" .string, opt "mountPropagation" .string, req "name" .string,
    opt "readOnly" .boolean, opt "recursiveReadOnly" .string, opt "subPath" .string,
    opt "subPathExpr" .string]

/-- A volume that a container finds as a raw device. -/
def volumeDevice : Shape :=
  .object [req "devicePath" .string, req "name" .string]

end SparkAdmission.Kubernetes
