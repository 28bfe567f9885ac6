import SparkAdmission.Kubernetes.Meta

/-!
# Security contexts

Shapes of the security settings of pods and containers.
-/

namespace SparkAdmission.Kubernetes

/-- A profile that confines programs. -/
def appArmorProfile : Shape :=
  .object [opt "localhostProfile" .string, req "type" .string]

/-- Capabilities added and dropped. -/
def capabilities : Shape :=
  .object [opt "add" (.list .string), opt "drop" (.list .string)]

/-- Labels for access control. -/
def seLinuxOptions : Shape :=
  .object [opt "level" .string, opt "role" .string, opt "type" .string, opt "user" .string]

/-- A profile that filters system calls. -/
def seccompProfile : Shape :=
  .object [opt "localhostProfile" .string, req "type" .string]

/-- A kernel parameter. -/
def sysctl : Shape :=
  .object [req "name" .string, req "value" .string]

/-- Credentials on nodes of another system. -/
def windowsSecurityContextOptions : Shape :=
  .object [
    opt "gmsaCredentialSpec" .string, opt "gmsaCredentialSpecName" .string,
    opt "hostProcess" .boolean, opt "runAsUserName" .string]

/-- Security settings of all containers of a pod. -/
def podSecurityContext : Shape :=
  .object [
    opt "appArmorProfile" appArmorProfile, opt "fsGroup" .int64,
    opt "fsGroupChangePolicy" .string, opt "runAsGroup" .int64, opt "runAsNonRoot" .boolean,
    opt "runAsUser" .int64, opt "seLinuxChangePolicy" .string,
    opt "seLinuxOptions" seLinuxOptions, opt "seccompProfile" seccompProfile,
    opt "supplementalGroups" (.list .int64), opt "supplementalGroupsPolicy" .string,
    opt "sysctls" (.list sysctl), opt "windowsOptions" windowsSecurityContextOptions]

/-- Security settings of one container. -/
def securityContext : Shape :=
  .object [
    opt "allowPrivilegeEscalation" .boolean, opt "appArmorProfile" appArmorProfile,
    opt "capabilities" capabilities, opt "privileged" .boolean, opt "procMount" .string,
    opt "readOnlyRootFilesystem" .boolean, opt "runAsGroup" .int64, opt "runAsNonRoot" .boolean,
    opt "runAsUser" .int64, opt "seLinuxOptions" seLinuxOptions,
    opt "seccompProfile" seccompProfile, opt "windowsOptions" windowsSecurityContextOptions]

end SparkAdmission.Kubernetes
