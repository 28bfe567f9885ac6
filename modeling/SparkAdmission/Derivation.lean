import SparkAdmission.Application
import SparkAdmission.PodLists

/-!
# The patch of a pod

What an application declares for the role of a pod becomes a list of changes: the owner reference
of a driver, the mounts whose volume is declared with their volumes, the config maps, the Spark
and Hadoop configuration, the tolerations, and affinity and security settings where the pod has
none. `derivePatch` turns the changes into operations, once the Spark container is found.
-/

namespace SparkAdmission

/-- The volume name for a config map: its name with `-vol`, cut to a length in characters. -/
def configVolumeName (configMap : String) (maxLength : Nat) : String :=
  String.ofList ((configMap ++ "-vol").toList.take maxLength)

/-- A volume that holds a config map. -/
def configVolume (configMap volume : String) : Json :=
  .object [("configMap", .object [("name", .string configMap)]), ("name", .string volume)]

/-- A read-only mount of a volume. -/
def readOnlyMount (volume path : String) : Json :=
  .object [("mountPath", .string path), ("name", .string volume), ("readOnly", .bool true)]

/-- An environment variable. -/
def environmentVariable (name value : String) : Json :=
  .object [("name", .string name), ("value", .string value)]

namespace Changes

/-- A volume, and a mount of it. -/
def mounted (volume mount : Json) : List Change :=
  [.item .volumes volume, .item .volumeMounts mount]

/-- The owner reference: only a driver is owned by the application. -/
def ownerReference (app : Application) (role : Role) : List Change :=
  if role.isDriver then [.item .ownerReferences app.ownerReference] else []

/-- The mounts of the role whose volume is declared, each behind that volume. -/
def volumes (app : Application) (role : Role) : List Change :=
  (app.spec.customization role).volumeMounts.flatMap fun mount =>
    match app.spec.volume? mount.volumeName with
    | some volume => mounted volume.json mount.json
    | none => []

/-- The config maps of the role, each as a volume and a mount. -/
def configMounts (app : Application) (role : Role) (settings : Settings) : List Change :=
  (app.spec.customization role).configMounts.flatMap fun m =>
    let volume := configVolumeName m.configMap settings.maxNameLength
    mounted (configVolume m.configMap volume) (readOnlyMount volume m.path)

/-- A configuration directory: volume, mount and environment variable, if there is a config map. -/
def confDirectory (configMap : Option String) (directory : ConfDirectory) : List Change :=
  match configMap with
  | none => []
  | some name =>
    mounted (configVolume name directory.volume) (readOnlyMount directory.volume directory.path) ++
      [.item .env (environmentVariable directory.variableName directory.path)]

/-- The Spark configuration. -/
def sparkConf (app : Application) (settings : Settings) : List Change :=
  confDirectory app.spec.sparkConf? settings.sparkConf

/-- The Hadoop configuration. -/
def hadoopConf (app : Application) (settings : Settings) : List Change :=
  confDirectory app.spec.hadoopConf? settings.hadoopConf

/-- The tolerations of the role. -/
def tolerations (app : Application) (role : Role) : List Change :=
  (app.spec.customization role).tolerations.map fun t => .item .tolerations t.json

/-- A setting of the specification, where it is declared and the pod has none. -/
def setting (pod : Pod) (setting : PodSetting) (declared : Option Json) : List Change :=
  if pod.hasSetting setting.name then [] else (declared.map (Change.setting setting)).toList

/-- The affinity of the role. -/
def affinity (pod : Pod) (app : Application) (role : Role) : List Change :=
  setting pod .affinity ((app.spec.customization role).affinity.map (·.json))

/-- The security settings of the role. -/
def security (pod : Pod) (app : Application) (role : Role) : List Change :=
  setting pod .securityContext ((app.spec.customization role).security.map (·.json))

/-- All changes, in their order. -/
def all (pod : Pod) (app : Application) (role : Role) (settings : Settings) : List Change :=
  ownerReference app role ++ volumes app role ++ configMounts app role settings ++
    sparkConf app settings ++ hadoopConf app settings ++ tolerations app role ++
    affinity pod app role ++ security pod app role

end Changes

/-- The operations that give a pod what its application declares for its role. Without a Spark
container nothing is derived, nor when a value cannot be written. -/
def derivePatch (pod : Pod) (app : Application) (role : Role) (settings : Settings) :
    Except Error Patch := do
  let container ← pod.sparkContainer settings
  let (ops, _) ← (PodLists.ofPod pod container).attemptAll (Changes.all pod app role settings)
  return ops

end SparkAdmission
