import SparkAdmission.Kubernetes.Meta
import SparkAdmission.Kubernetes.Scheduling
import SparkAdmission.Kubernetes.Security
import SparkAdmission.Kubernetes.Volume
import SparkAdmission.Role

/-!
# Spark applications

What an application declares for its pods. The Kubernetes objects in it are kept as documents in
normal form. `Application.read` reads an application in either spelling of its records, and
`Application.toJson` writes it in the one spelling with names.
-/

namespace SparkAdmission

/-- A volume. -/
abbrev Volume := Document Kubernetes.volume

/-- A volume mount. -/
abbrev VolumeMount := Document Kubernetes.volumeMount

/-- A toleration. -/
abbrev Toleration := Document Kubernetes.toleration

/-- An affinity. -/
abbrev Affinity := Document Kubernetes.affinity

/-- The security settings of a pod. -/
abbrev PodSecurity := Document Kubernetes.podSecurityContext

/-- The metadata of an object. -/
abbrev ObjectMeta := Document Kubernetes.objectMeta

namespace Volume

/-- The name of a volume. -/
def name (v : Volume) : String := v.textOf "name"

end Volume

namespace VolumeMount

/-- The name of the volume that is mounted. -/
def volumeName (m : VolumeMount) : String := m.textOf "name"

end VolumeMount

/-- A config map, and the directory at which it is mounted. -/
structure ConfigMount where
  configMap : String
  path : String
deriving DecidableEq

/-- What an application declares for the pods of one role. -/
structure Customization where
  volumeMounts : List VolumeMount := []
  configMounts : List ConfigMount := []
  tolerations : List Toleration := []
  affinity : Option Affinity := none
  security : Option PodSecurity := none

/-- What an application declares for its pods. -/
structure ApplicationSpec where
  volumes : List Volume := []
  driver : Customization := {}
  executor : Customization := {}
  sparkConfigMap : Option String := none
  hadoopConfigMap : Option String := none

/-- A Spark application. -/
structure Application where
  metadata : ObjectMeta
  spec : ApplicationSpec

instance : Inhabited Application := ⟨⟨default, {}⟩⟩

/-! ### What is declared -/

namespace Customization

/-- Whether nothing is declared. -/
def isEmpty (c : Customization) : Bool :=
  c.volumeMounts.isEmpty && c.configMounts.isEmpty && c.tolerations.isEmpty && c.affinity.isNone &&
    c.security.isNone

end Customization

namespace ApplicationSpec

/-- Whether nothing is declared. -/
def isEmpty (spec : ApplicationSpec) : Bool :=
  spec.volumes.isEmpty && spec.driver.isEmpty && spec.executor.isEmpty &&
    spec.sparkConfigMap.isNone && spec.hadoopConfigMap.isNone

/-- What is declared for the pods of a role. -/
def customization (spec : ApplicationSpec) : Role → Customization
  | .driver => spec.driver
  | .executor => spec.executor

/-- The name of a config map, if it is given and not empty. -/
def nonEmpty (name : Option String) : Option String := name.filter (· ≠ "")

/-- The config map of the Spark configuration, if there is one. -/
def sparkConf? (spec : ApplicationSpec) : Option String := nonEmpty spec.sparkConfigMap

/-- The config map of the Hadoop configuration, if there is one. -/
def hadoopConf? (spec : ApplicationSpec) : Option String := nonEmpty spec.hadoopConfigMap

/-- The last declared volume of that name. -/
def volume? (spec : ApplicationSpec) (name : String) : Option Volume :=
  spec.volumes.reverse.find? (·.name == name)

end ApplicationSpec

namespace Application

/-- The group of the resource. -/
def group : String := "sparkoperator.k8s.io"

/-- The version of the resource. -/
def version : String := "v1beta1"

/-- The group and version of the resource. -/
def apiVersion : String := group ++ "/" ++ version

/-- The kind of the resource. -/
def kind : String := "SparkApplication"

/-- The name of the resource in paths. -/
def plural : String := "sparkapplications"

/-- The name, empty when there is none. -/
def name (app : Application) : String := app.metadata.textOf "name"

/-- The unique identifier, empty when there is none. -/
def uid (app : Application) : String := app.metadata.textOf "uid"

/-- The reference that makes the application the controller of an object. -/
def ownerReference (app : Application) : Json :=
  .object [("apiVersion", .string apiVersion), ("controller", .bool true), ("kind", .string kind),
    ("name", .string app.name), ("uid", .string app.uid)]

end Application

/-! ### Writing -/

namespace ConfigMount

/-- The entry as JSON. -/
def toJson (m : ConfigMount) : Json :=
  .object [("name", .string m.configMap), ("path", .string m.path)]

/-- A list of entries as JSON, nothing if it is empty. -/
def listToJson (ms : List ConfigMount) : Option Json :=
  if ms.isEmpty then none else some (.array (ms.map toJson))

end ConfigMount

/-- A list of documents as JSON, nothing if it is empty. -/
def Document.listToJson {s : Shape} (ds : List (Document s)) : Option Json :=
  if ds.isEmpty then none else some (.array (ds.map (·.json)))

namespace Customization

/-- The customization as JSON, without what is not declared. -/
def toJson (c : Customization) : Json :=
  .ofSome [
    ("affinity", c.affinity.map (·.json)),
    ("configMaps", ConfigMount.listToJson c.configMounts),
    ("securityContext", c.security.map (·.json)),
    ("tolerations", Document.listToJson c.tolerations),
    ("volumeMounts", Document.listToJson c.volumeMounts)]

end Customization

namespace ApplicationSpec

/-- The specification as JSON, with both roles and without what else is not declared. -/
def toJson (spec : ApplicationSpec) : Json :=
  .ofSome [
    ("driver", some spec.driver.toJson),
    ("executor", some spec.executor.toJson),
    ("hadoopConfigMap", spec.hadoopConfigMap.map .string),
    ("sparkConfigMap", spec.sparkConfigMap.map .string),
    ("volumes", Document.listToJson spec.volumes)]

end ApplicationSpec

namespace Application

/-- The application as JSON. -/
def toJson (app : Application) : Json :=
  .object [("apiVersion", .string apiVersion), ("kind", .string kind),
    ("metadata", app.metadata.json), ("spec", app.spec.toJson)]

end Application

/-! ### Reading -/

namespace ConfigMount

/-- Reads an entry; both fields are required. -/
def read : Reader ConfigMount := fun depth source => do
  let fields : List (RecordField (Option String × Option String)) := [
    .of "name" Reader.string fun r v => (some v, r.2),
    .of "path" Reader.string fun r v => (r.1, some v)]
  let (name, path) ← Record.read fields (none, none) depth source
  return ⟨← Record.required name, ← Record.required path⟩

end ConfigMount

namespace Customization

/-- The fields in their order. -/
def fields : List (RecordField Customization) := [
  .of "volumeMounts" (Reader.list Document.read) fun c v => { c with volumeMounts := v },
  .of "configMaps" (Reader.list ConfigMount.read) fun c v => { c with configMounts := v },
  .of "tolerations" (Reader.list Document.read) fun c v => { c with tolerations := v },
  .of "affinity" (Reader.optional Document.read) fun c v => { c with affinity := v },
  .of "securityContext" (Reader.optional Document.read) fun c v => { c with security := v }]

/-- Reads a customization; every field may be missing. -/
def read : Reader Customization := Record.read fields {}

end Customization

namespace ApplicationSpec

/-- The fields in their order. -/
def fields : List (RecordField ApplicationSpec) := [
  .of "volumes" (Reader.list Document.read) fun s v => { s with volumes := v },
  .of "driver" Customization.read fun s v => { s with driver := v },
  .of "executor" Customization.read fun s v => { s with executor := v },
  .of "sparkConfigMap" (Reader.optional Reader.string) fun s v => { s with sparkConfigMap := v },
  .of "hadoopConfigMap" (Reader.optional Reader.string) fun s v => { s with hadoopConfigMap := v }]

/-- Reads a specification; every field may be missing. -/
def read : Reader ApplicationSpec := Record.read fields {}

end ApplicationSpec

namespace Application

/-- The fields in their order. -/
def fields : List (RecordField (Option ObjectMeta × Option ApplicationSpec)) := [
  .of "metadata" Document.read fun a v => (some v, a.2),
  .of "spec" ApplicationSpec.read fun a v => (a.1, some v)]

/-- Reads an application. Metadata and specification are required, version and kind not looked
at. -/
def read : Reader Application := fun depth source => do
  let (metadata, spec) ← Record.read fields (none, none) depth source
  return ⟨← Record.required metadata, ← Record.required spec⟩

end Application

end SparkAdmission
