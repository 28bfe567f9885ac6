import SparkAdmission.Kubernetes.Security
import SparkAdmission.Kubernetes.Volume

/-!
# Containers

Shapes of the containers of a pod, with their environment, probes and resources.
-/

namespace SparkAdmission.Kubernetes

/-- A port of a container. -/
def containerPort : Shape :=
  .object [
    req "containerPort" .int32, opt "hostIP" .string, opt "hostPort" .int32, opt "name" .string,
    opt "protocol" .string]

/-- What a change of a resource does to a container. -/
def containerResizePolicy : Shape :=
  .object [req "resourceName" .string, req "restartPolicy" .string]

/-- A config map as environment variables. -/
def configMapEnvSource : Shape :=
  .object [req "name" .string, opt "optional" .boolean]

/-- A secret as environment variables. -/
def secretEnvSource : Shape :=
  .object [req "name" .string, opt "optional" .boolean]

/-- A source of environment variables. -/
def envFromSource : Shape :=
  .object [
    opt "configMapRef" configMapEnvSource, opt "prefix" .string, opt "secretRef" secretEnvSource]

/-- A key of a config map. -/
def configMapKeySelector : Shape :=
  .object [req "key" .string, req "name" .string, opt "optional" .boolean]

/-- A key of a secret. -/
def secretKeySelector : Shape :=
  .object [req "key" .string, req "name" .string, opt "optional" .boolean]

/-- Where the value of an environment variable comes from. -/
def envVarSource : Shape :=
  .object [
    opt "configMapKeyRef" configMapKeySelector, opt "fieldRef" objectFieldSelector,
    opt "resourceFieldRef" resourceFieldSelector, opt "secretKeyRef" secretKeySelector]

/-- An environment variable. -/
def envVar : Shape :=
  .object [req "name" .string, opt "value" .string, opt "valueFrom" envVarSource]

/-- A command as a probe or handler. -/
def execAction : Shape :=
  .object [opt "command" (.list .string)]

/-- A header of a probe. -/
def httpHeader : Shape :=
  .object [req "name" .string, req "value" .string]

/-- A request as a probe or handler. -/
def httpGetAction : Shape :=
  .object [
    opt "host" .string, opt "httpHeaders" (.list httpHeader), opt "path" .string,
    req "port" .intOrString, opt "scheme" .string]

/-- A pause as a handler. -/
def sleepAction : Shape :=
  .object [req "seconds" .int64]

/-- A connection as a probe or handler. -/
def tcpSocketAction : Shape :=
  .object [opt "host" .string, req "port" .intOrString]

/-- What is done at a point of the life of a container. -/
def lifecycleHandler : Shape :=
  .object [
    opt "exec" execAction, opt "httpGet" httpGetAction, opt "sleep" sleepAction,
    opt "tcpSocket" tcpSocketAction]

/-- What is done after the start and before the end of a container. -/
def lifecycle : Shape :=
  .object [
    opt "postStart" lifecycleHandler, opt "preStop" lifecycleHandler, opt "stopSignal" .string]

/-- A remote call as a probe. -/
def grpcAction : Shape :=
  .object [req "port" .int32, opt "service" .string]

/-- How the health of a container is asked. -/
def probe : Shape :=
  .object [
    opt "exec" execAction, opt "failureThreshold" .int32, opt "grpc" grpcAction,
    opt "httpGet" httpGetAction, opt "initialDelaySeconds" .int32, opt "periodSeconds" .int32,
    opt "successThreshold" .int32, opt "tcpSocket" tcpSocketAction,
    opt "terminationGracePeriodSeconds" .int64, opt "timeoutSeconds" .int32]

/-- A claimed resource, by name. -/
def resourceClaim : Shape :=
  .object [req "name" .string, opt "request" .string]

/-- Resources that are asked for, and their limits. -/
def resourceRequirements : Shape :=
  .object [
    opt "claims" (.list resourceClaim), opt "limits" (.map .string), opt "requests" (.map .string)]

/-- A container of a pod. -/
def container : Shape :=
  .object [
    opt "args" (.list .string), opt "command" (.list .string), opt "env" (.list envVar),
    opt "envFrom" (.list envFromSource), opt "image" .string, opt "imagePullPolicy" .string,
    opt "lifecycle" lifecycle, opt "livenessProbe" probe, req "name" .string,
    opt "ports" (.list containerPort), opt "readinessProbe" probe,
    opt "resizePolicy" (.list containerResizePolicy), opt "resources" resourceRequirements,
    opt "restartPolicy" .string, opt "securityContext" securityContext, opt "startupProbe" probe,
    opt "stdin" .boolean, opt "stdinOnce" .boolean, opt "terminationMessagePath" .string,
    opt "terminationMessagePolicy" .string, opt "tty" .boolean,
    opt "volumeDevices" (.list volumeDevice), opt "volumeMounts" (.list volumeMount),
    opt "workingDir" .string]

/-- A container added to a running pod. -/
def ephemeralContainer : Shape :=
  .object [
    opt "args" (.list .string), opt "command" (.list .string), opt "env" (.list envVar),
    opt "envFrom" (.list envFromSource), opt "image" .string, opt "imagePullPolicy" .string,
    opt "lifecycle" lifecycle, opt "livenessProbe" probe, req "name" .string,
    opt "ports" (.list containerPort), opt "readinessProbe" probe,
    opt "resizePolicy" (.list containerResizePolicy), opt "resources" resourceRequirements,
    opt "restartPolicy" .string, opt "securityContext" securityContext, opt "startupProbe" probe,
    opt "stdin" .boolean, opt "stdinOnce" .boolean, opt "targetContainerName" .string,
    opt "terminationMessagePath" .string, opt "terminationMessagePolicy" .string,
    opt "tty" .boolean, opt "volumeDevices" (.list volumeDevice),
    opt "volumeMounts" (.list volumeMount), opt "workingDir" .string]

end SparkAdmission.Kubernetes
