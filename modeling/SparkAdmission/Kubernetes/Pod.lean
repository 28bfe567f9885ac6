import SparkAdmission.Kubernetes.Container
import SparkAdmission.Kubernetes.Scheduling

/-!
# Pods

The shape of a pod, with its specification and status.
-/

namespace SparkAdmission.Kubernetes

/-- Names of an address. -/
def hostAlias : Shape :=
  .object [opt "hostnames" (.list .string), req "ip" .string]

/-- An option of the resolver. -/
def podDNSConfigOption : Shape :=
  .object [opt "name" .string, opt "value" .string]

/-- The resolver of a pod. -/
def podDNSConfig : Shape :=
  .object [
    opt "nameservers" (.list .string), opt "options" (.list podDNSConfigOption),
    opt "searches" (.list .string)]

/-- The operating system of a pod. -/
def podOS : Shape :=
  .object [req "name" .string]

/-- A condition for readiness. -/
def podReadinessGate : Shape :=
  .object [req "conditionType" .string]

/-- A claim of a pod for resources. -/
def podResourceClaim : Shape :=
  .object [
    req "name" .string, opt "resourceClaimName" .string, opt "resourceClaimTemplateName" .string]

/-- A condition for scheduling. -/
def podSchedulingGate : Shape :=
  .object [req "name" .string]

/-- What a pod should be. -/
def podSpec : Shape :=
  .object [
    opt "activeDeadlineSeconds" .int64, opt "affinity" affinity,
    opt "automountServiceAccountToken" .boolean, req "containers" (.list container),
    opt "dnsConfig" podDNSConfig, opt "dnsPolicy" .string, opt "enableServiceLinks" .boolean,
    opt "ephemeralContainers" (.list ephemeralContainer), opt "hostAliases" (.list hostAlias),
    opt "hostIPC" .boolean, opt "hostNetwork" .boolean, opt "hostPID" .boolean,
    opt "hostUsers" .boolean, opt "hostname" .string,
    opt "imagePullSecrets" (.list localObjectReference), opt "initContainers" (.list container),
    opt "nodeName" .string, opt "nodeSelector" (.map .string), opt "os" podOS,
    opt "overhead" (.map .string), opt "preemptionPolicy" .string, opt "priority" .int32,
    opt "priorityClassName" .string, opt "readinessGates" (.list podReadinessGate),
    opt "resourceClaims" (.list podResourceClaim), opt "resources" resourceRequirements,
    opt "restartPolicy" .string, opt "runtimeClassName" .string, opt "schedulerName" .string,
    opt "schedulingGates" (.list podSchedulingGate), opt "securityContext" podSecurityContext,
    opt "serviceAccount" .string, opt "serviceAccountName" .string,
    opt "setHostnameAsFQDN" .boolean, opt "shareProcessNamespace" .boolean,
    opt "subdomain" .string, opt "terminationGracePeriodSeconds" .int64,
    opt "tolerations" (.list toleration),
    opt "topologySpreadConstraints" (.list topologySpreadConstraint), opt "volumes" (.list volume)]

/-- A container that runs. -/
def containerStateRunning : Shape :=
  .object [opt "startedAt" .time]

/-- A container that has ended. -/
def containerStateTerminated : Shape :=
  .object [
    opt "containerID" .string, req "exitCode" .int32, opt "finishedAt" .time,
    opt "message" .string, opt "reason" .string, opt "signal" .int32, opt "startedAt" .time]

/-- A container that has not started. -/
def containerStateWaiting : Shape :=
  .object [opt "message" .string, opt "reason" .string]

/-- The state of a container. -/
def containerState : Shape :=
  .object [
    opt "running" containerStateRunning, opt "terminated" containerStateTerminated,
    opt "waiting" containerStateWaiting]

/-- User and groups of a process. -/
def linuxContainerUser : Shape :=
  .object [req "gid" .int64, opt "supplementalGroups" (.list .int64), req "uid" .int64]

/-- The user of a container. -/
def containerUser : Shape :=
  .object [opt "linux" linuxContainerUser]

/-- The health of a resource. -/
def resourceHealth : Shape :=
  .object [opt "health" .string, req "resourceID" .string]

/-- The state of a resource. -/
def resourceStatus : Shape :=
  .object [req "name" .string, opt "resources" (.list resourceHealth)]

/-- A mount as it is. -/
def volumeMountStatus : Shape :=
  .object [
    req "mountPath" .string, req "name" .string, opt "readOnly" .boolean,
    opt "recursiveReadOnly" .string]

/-- A container as it is. -/
def containerStatus : Shape :=
  .object [
    opt "allocatedResources" (.map .string),
    opt "allocatedResourcesStatus" (.list resourceStatus), opt "containerID" .string,
    req "image" .string, req "imageID" .string, opt "lastState" containerState,
    req "name" .string, req "ready" .boolean, opt "resources" resourceRequirements,
    req "restartCount" .int32, opt "started" .boolean, opt "state" containerState,
    opt "stopSignal" .string, opt "user" containerUser,
    opt "volumeMounts" (.list volumeMountStatus)]

/-- An address of the node. -/
def hostIP : Shape :=
  .object [req "ip" .string]

/-- A condition of a pod. -/
def podCondition : Shape :=
  .object [
    opt "lastProbeTime" .time, opt "lastTransitionTime" .time, opt "message" .string,
    opt "observedGeneration" .int64, opt "reason" .string, req "status" .string,
    req "type" .string]

/-- An address of a pod. -/
def podIP : Shape :=
  .object [req "ip" .string]

/-- A claim of a pod as it is. -/
def podResourceClaimStatus : Shape :=
  .object [req "name" .string, opt "resourceClaimName" .string]

/-- What a pod is. -/
def podStatus : Shape :=
  .object [
    opt "conditions" (.list podCondition), opt "containerStatuses" (.list containerStatus),
    opt "ephemeralContainerStatuses" (.list containerStatus), opt "hostIP" .string,
    opt "hostIPs" (.list hostIP), opt "initContainerStatuses" (.list containerStatus),
    opt "message" .string, opt "nominatedNodeName" .string, opt "observedGeneration" .int64,
    opt "phase" .string, opt "podIP" .string, opt "podIPs" (.list podIP), opt "qosClass" .string,
    opt "reason" .string, opt "resize" .string,
    opt "resourceClaimStatuses" (.list podResourceClaimStatus), opt "startTime" .time]

/-- A pod. -/
def pod : Shape :=
  .object [
    ("apiVersion", .constant "v1", .string), ("kind", .constant "Pod", .string),
    req "metadata" objectMeta, opt "spec" podSpec, opt "status" podStatus]

end SparkAdmission.Kubernetes
