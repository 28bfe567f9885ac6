import SparkAdmission.GrowingList
import SparkAdmission.Kubernetes.Datum
import SparkAdmission.Pod

/-!
# The lists of a pod

Five lists of a pod grow: its owner references, volumes and tolerations, and the volume mounts and
environment of its Spark container. Every change to the pod goes through them, so that whatever
the order of the changes, each operation fits the document that the operations before it leave.
`attemptAll` is `performAll` for values of the types that their places ask for: these have to be
written first.
-/

namespace SparkAdmission

/-- The lists of a pod that grow. -/
inductive PodList where
  | ownerReferences
  | volumes
  | volumeMounts
  | env
  | tolerations
deriving DecidableEq, Repr

/-- The settings of a pod that are made where it has none. -/
inductive PodSetting where
  | affinity
  | securityContext
deriving DecidableEq, Repr

/-- The shape of the items of a list. -/
def PodList.item : PodList → Shape
  | .ownerReferences => Kubernetes.ownerReference
  | .volumes => Kubernetes.volume
  | .volumeMounts => Kubernetes.volumeMount
  | .env => Kubernetes.envVar
  | .tolerations => Kubernetes.toleration

/-- The shape of a setting. -/
def PodSetting.shape : PodSetting → Shape
  | .affinity => Kubernetes.affinity
  | .securityContext => Kubernetes.podSecurityContext

/-- The member of the specification that holds a setting. -/
def PodSetting.name : PodSetting → String
  | .affinity => "affinity"
  | .securityContext => "securityContext"

/-- A change to a pod. -/
inductive Change where
  /-- One item more in a list. -/
  | item (list : PodList) (value : Json)
  /-- A setting of the specification. -/
  | setting (setting : PodSetting) (value : Json)

/-- The state of every list. -/
structure PodLists where
  get : PodList → GrowingList

namespace PodLists

/-- Where a list is, for the Spark container of that index. -/
def place (container : Nat) : PodList → List String
  | .ownerReferences => ["metadata", "ownerReferences"]
  | .volumes => ["spec", "volumes"]
  | .volumeMounts => ["spec", "containers", toString container, "volumeMounts"]
  | .env => ["spec", "containers", toString container, "env"]
  | .tolerations => ["spec", "tolerations"]

/-- The items that a list has in a pod; a container that is not there has no lists. -/
def itemsIn (pod : Pod) (container : Nat) : PodList → List Json
  | .ownerReferences => pod.listAt ["metadata", "ownerReferences"]
  | .volumes => pod.listAt ["spec", "volumes"]
  | .volumeMounts => pod.containerList container "volumeMounts"
  | .env => pod.containerList container "env"
  | .tolerations => pod.listAt ["spec", "tolerations"]

/-- The lists as they are in a pod. -/
def ofPod (pod : Pod) (container : Nat) : PodLists :=
  ⟨fun list => ⟨⟨place container list⟩, (itemsIn pod container list).length⟩⟩

/-- The lists with another state of one of them. -/
def set (lists : PodLists) (list : PodList) (state : GrowingList) : PodLists :=
  ⟨fun other => if other = list then state else lists.get other⟩

@[simp] theorem get_set_self (lists : PodLists) (list : PodList) (state : GrowingList) :
    (lists.set list state).get list = state := if_pos rfl

theorem get_set_of_ne {list other : PodList} (h : other ≠ list) (lists : PodLists)
    (state : GrowingList) : (lists.set list state).get other = lists.get other := if_neg h

/-- The operation of a change, and the lists after it. -/
def perform (lists : PodLists) : Change → Add × PodLists
  | .item list value =>
    let (op, state) := (lists.get list).push value
    (op, lists.set list state)
  | .setting setting value => (⟨⟨["spec", setting.name]⟩, value⟩, lists)

/-- The operations of changes in order, and the lists after them. -/
def performAll (lists : PodLists) : List Change → Patch × PodLists
  | [] => ([], lists)
  | change :: changes =>
    let (op, next) := lists.perform change
    let (ops, last) := next.performAll changes
    (op :: ops, last)

@[simp] theorem performAll_nil (lists : PodLists) : lists.performAll [] = ([], lists) := rfl

theorem performAll_cons (lists : PodLists) (change : Change) (changes : List Change) :
    lists.performAll (change :: changes) =
      ((lists.perform change).1 :: ((lists.perform change).2.performAll changes).1,
        ((lists.perform change).2.performAll changes).2) := rfl

/-- Performs a change, if its value can be written as one of its type. -/
def attempt (lists : PodLists) : Change → Except Error (Add × PodLists)
  | .item list value => do
    let (op, state) ← (lists.get list).add (list.item.datum value)
    return (op, lists.set list state)
  | .setting setting value => do
    let value ← (setting.shape.datum value).value
    return lists.perform (.setting setting value)

/-- Performs the changes in order, up to the first that cannot be written. -/
def attemptAll (lists : PodLists) : List Change → Except Error (Patch × PodLists)
  | [] => .ok ([], lists)
  | change :: changes => do
    let (op, next) ← lists.attempt change
    let (ops, last) ← next.attemptAll changes
    return (op :: ops, last)

theorem attemptAll_cons {lists next : PodLists} {change : Change} {op : Add}
    (h : lists.attempt change = .ok (op, next)) (changes : List Change) :
    lists.attemptAll (change :: changes) =
      (next.attemptAll changes).map fun rest => (op :: rest.1, rest.2) := by
  rw [attemptAll, h]
  rfl

theorem performAll_append (lists : PodLists) (first second : List Change) :
    lists.performAll (first ++ second) =
      ((lists.performAll first).1 ++ ((lists.performAll first).2.performAll second).1,
        ((lists.performAll first).2.performAll second).2) := by
  induction first generalizing lists with
  | nil => rfl
  | cons change changes ih => simp [performAll, ih]

end PodLists

end SparkAdmission
