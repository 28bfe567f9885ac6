import SparkAdmission.Application
import SparkAdmission.Kubernetes.Schema

/-!
# The definition of the application resource

The document that tells the API server of the resource and of the shape of its specification.
-/

namespace SparkAdmission.Application

/-- A schema with more members. -/
def withMembers (members : List (String × Json)) : Json → Json
  | .object others => .ofMembers (members ++ others)
  | j => j

/-- A schema with a description. -/
def described (description : String) (schema : Json) : Json :=
  withMembers [("description", .string description)] schema

/-- The schema of a value that may be null. -/
def nullable (schema : Json) : Json := withMembers [("nullable", .bool true)] schema

/-- The schema of a value that is an empty object where it is not given. -/
def emptyByDefault (schema : Json) : Json := withMembers [("default", .object [])] schema

/-- The schema of a list. -/
def listSchema (items : Json) : Json := schemaOf "array" [("items", items)]

/-- The schema of an object with these members. -/
def objectSchema (properties : List (String × Json)) : Json :=
  schemaOf "object" [("properties", .ofMembers properties)]

/-- The schema of a config map mount. -/
def configMountSchema : Json :=
  withMembers [("required", .array [.string "name", .string "path"])]
    (described "A config map to mount into the pod at the given path" (objectSchema [
      ("name", described "Name of the config map" Shape.string.schema),
      ("path", described "Directory the config map is mounted at" Shape.string.schema)]))

/-- The schema of what is declared for the pods of a role. -/
def customizationSchema : Json :=
  objectSchema [
    ("volumeMounts",
      described
        ("Volume mounts for the Spark container; " ++
          "each must name a volume in \x60spec.volumes\x60")
        (listSchema Kubernetes.volumeMount.schema)),
    ("configMaps",
      described "Config maps mounted into the Spark container" (listSchema configMountSchema)),
    ("tolerations",
      described "Tolerations appended to the pod" (listSchema Kubernetes.toleration.schema)),
    ("affinity",
      described "Affinity applied when the pod has none" (nullable Kubernetes.affinity.schema)),
    ("securityContext",
      described "Pod security context applied when the pod has none"
        (nullable Kubernetes.podSecurityContext.schema))]

/-- The schema of the specification. -/
def specSchema : Json :=
  described "Specification for a SparkApplication" (objectSchema [
    ("volumes",
      described "Volumes that driver and executor mounts may reference by name"
        (listSchema Kubernetes.volume.schema)),
    ("driver", described "Driver pod customizations" (emptyByDefault customizationSchema)),
    ("executor", described "Executor pod customizations" (emptyByDefault customizationSchema)),
    ("sparkConfigMap",
      described "Config map holding Spark configuration files (spark-defaults.conf etc.)"
        (nullable Shape.string.schema)),
    ("hadoopConfigMap",
      described "Config map holding Hadoop configuration files (core-site.xml etc.)"
        (nullable Shape.string.schema))])

/-- The schema of the resource. -/
def schema : Json :=
  withMembers [("required", .array [.string "spec"]), ("title", .string kind)]
    (described "Auto-generated derived type for SparkApplicationSpec via \x60CustomResource\x60"
      (objectSchema [("spec", specSchema)]))

/-- The column that shows the age of an application. -/
def ageColumn : Json :=
  .object [("jsonPath", .string ".metadata.creationTimestamp"), ("name", .string "Age"),
    ("type", .string "date")]

/-- The version of the resource that is served. -/
def servedVersion : Json :=
  .object [
    ("additionalPrinterColumns", .array [ageColumn]),
    ("name", .string version),
    ("schema", .object [("openAPIV3Schema", schema)]),
    ("served", .bool true),
    ("storage", .bool true),
    ("subresources", .object [])]

/-- The names of the resource. -/
def names : Json :=
  .object [
    ("categories", .array []),
    ("kind", .string kind),
    ("plural", .string plural),
    ("shortNames", .array [.string "sparkapp"]),
    ("singular", .string "sparkapplication")]

/-- The definition of the resource. -/
def definition : Json :=
  .object [
    ("apiVersion", .string "apiextensions.k8s.io/v1"),
    ("kind", .string "CustomResourceDefinition"),
    ("metadata", .object [("name", .string (plural ++ "." ++ group))]),
    ("spec", .object [
      ("group", .string group),
      ("names", names),
      ("scope", .string "Namespaced"),
      ("versions", .array [servedVersion])])]

end SparkAdmission.Application
