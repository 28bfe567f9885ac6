import SparkAdmission.Error
import SparkAdmission.Kubernetes.Pod
import SparkAdmission.Settings

/-!
# Pods

A pod in normal form, and what the webhook looks at in it: its names and labels, which of its
containers is the Spark container, how long its lists are, and what is set already.
-/

namespace SparkAdmission

/-- A pod. -/
abbrev Pod := Document Kubernetes.pod

/-- The label that holds the role of a pod. -/
def roleLabel : String := "spark-role"

/-- The label that holds the name of the application of a pod. -/
def applicationLabel : String := "sparkoperator.k8s.io/app-name"

namespace Pod

/-- The name. -/
def name? (pod : Pod) : Option String := (pod.json.at? ["metadata", "name"]).bind Json.text?

/-- The namespace. -/
def namespace? (pod : Pod) : Option String :=
  (pod.json.at? ["metadata", "namespace"]).bind Json.text?

/-- The value of a label. -/
def label? (pod : Pod) (key : String) : Option String :=
  (pod.json.at? ["metadata", "labels", key]).bind Json.text?

/-- The role that the label of the pod holds. -/
def role? (pod : Pod) : Option Role := (pod.label? roleLabel).bind Role.ofName?

/-- The items of the list reached through members of these names, none if there is no list. -/
def listAt (pod : Pod) (names : List String) : List Json := (pod.json.at? names).elim [] Json.items

/-- The containers. -/
def containers (pod : Pod) : List Json := pod.listAt ["spec", "containers"]

/-- The name of a container. -/
def containerName (container : Json) : String := ((container.get? "name").bind Json.text?).getD ""

/-- The items of a list of the container with that index, none if there is no list. -/
def containerList (pod : Pod) (container : Nat) (name : String) : List Json :=
  ((pod.containers[container]?).bind (Json.get? name)).elim [] Json.items

/-- Whether the specification has this member. -/
def hasSetting (pod : Pod) (name : String) : Bool := (pod.json.at? ["spec", name]).isSome

/-- The index of the Spark container: the first one that has the name of a Spark container,
whatever the role of the pod. -/
def sparkContainer (pod : Pod) (settings : Settings) : Except Error Nat :=
  match pod.containers.findIdx? fun c => settings.containerNames.contains (containerName c) with
  | some i => .ok i
  | none => .error (.containerNotFound (pod.name?.getD "") settings.containerNames)

end Pod

end SparkAdmission
