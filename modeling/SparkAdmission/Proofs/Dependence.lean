import Mathlib.Data.List.Basic
import SparkAdmission.Proofs.Operations

/-!
# What a patch depends on

The patch of a pod reads little of the pod and of the application. Of the pod it reads which
container is the Spark container, which lists are empty and which settings are there; the items of
a list are counted, but only whether there are any matters (`PodLists.Alike.performAll_fst`). Of the
application it reads what is declared for the role, the volumes that the mounts of the role name,
the config maps of the configuration directories and, for a driver, its own name and identifier.
Pods and applications that agree on that get the same patch (`derivePatch_eq_of_agrees`).
-/

namespace SparkAdmission

/-! ### Lists that are empty alike -/

/-- The lists stand in the same places, and the same ones are empty. -/
structure PodLists.Alike (lists other : PodLists) : Prop where
  path_eq : ∀ list, (lists.get list).path = (other.get list).path
  isEmpty_eq : ∀ list, (lists.get list).isEmpty = (other.get list).isEmpty

namespace PodLists.Alike

variable {lists other : PodLists}

theorem addition_eq (h : Alike lists other) (list : PodList) (item : Json) :
    (lists.get list).addition item = (other.get list).addition item := by
  have hplacement : Placement.ofLength (lists.get list).length =
      Placement.ofLength (other.get list).length := by
    have hempty := Bool.eq_iff_iff.1 (h.isEmpty_eq list)
    simp only [GrowingList.isEmpty, beq_iff_eq] at hempty
    simp only [Placement.ofLength, hempty]
  simp only [GrowingList.addition, hplacement, h.path_eq list]

theorem perform_fst (h : Alike lists other) (change : Change) :
    (lists.perform change).1 = (other.perform change).1 := by
  cases change with
  | item list value => exact h.addition_eq list value
  | setting s value => rfl

/-- A list with one item more is not empty, however many items it had. -/
theorem perform_snd (h : Alike lists other) (change : Change) :
    Alike (lists.perform change).2 (other.perform change).2 := by
  cases change with
  | item list value =>
    have hget : ∀ (lists : PodLists) (l : PodList), (lists.perform (.item list value)).2.get l =
        if l = list then ((lists.get list).push value).2 else lists.get l := fun _ _ => rfl
    refine ⟨fun l => ?_, fun l => ?_⟩
    · rw [hget, hget]
      split
      · exact h.path_eq list
      · exact h.path_eq l
    · rw [hget, hget]
      split
      · rfl
      · exact h.isEmpty_eq l
  | setting s value => exact h

/-- The operations of changes depend only on which lists are empty. -/
theorem performAll_fst (h : Alike lists other) (changes : List Change) :
    (lists.performAll changes).1 = (other.performAll changes).1 := by
  induction changes generalizing lists other with
  | nil => rfl
  | cons change changes ih =>
    rw [performAll_cons, performAll_cons, h.perform_fst, ih (h.perform_snd change)]

end PodLists.Alike

/-! ### Agreement -/

/-- The pods have the same Spark container, the same of their lists are empty, and the same
settings are there. -/
structure Pod.Agrees (settings : Settings) (container : Nat) (pod other : Pod) : Prop where
  sparkContainer_eq : pod.sparkContainer settings = .ok container
  sparkContainer_other : other.sparkContainer settings = .ok container
  isEmpty_eq : ∀ list, (PodLists.itemsIn pod container list).isEmpty =
    (PodLists.itemsIn other container list).isEmpty
  hasSetting_eq : ∀ s : PodSetting, pod.hasSetting s.name = other.hasSetting s.name

/-- The applications declare the same for a role, mount the same volumes there and have the same
configuration; for a driver they have the same name and identifier as well. -/
structure Application.Agrees (role : Role) (app other : Application) : Prop where
  customization_eq : app.spec.customization role = other.spec.customization role
  volume?_eq : ∀ mount ∈ (app.spec.customization role).volumeMounts,
    app.spec.volume? mount.volumeName = other.spec.volume? mount.volumeName
  sparkConf?_eq : app.spec.sparkConf? = other.spec.sparkConf?
  hadoopConf?_eq : app.spec.hadoopConf? = other.spec.hadoopConf?
  owner_eq : role = .driver → app.name = other.name ∧ app.uid = other.uid

variable {pod other : Pod} {app declaring : Application} {role : Role} {settings : Settings}
  {container : Nat}

theorem Pod.Agrees.alike (h : Pod.Agrees settings container pod other) :
    (PodLists.ofPod pod container).Alike (PodLists.ofPod other container) where
  path_eq _ := rfl
  isEmpty_eq list := by
    have hlength : ∀ xs : List Json, (xs.length == 0) = xs.isEmpty := by
      intro xs
      cases xs <;> rfl
    have hempty := h.isEmpty_eq list
    rwa [← hlength, ← hlength] at hempty

namespace Changes

theorem ownerReference_eq_of_agrees (h : app.Agrees role declaring) :
    ownerReference app role = ownerReference declaring role := by
  cases role with
  | driver =>
    obtain ⟨hname, huid⟩ := h.owner_eq rfl
    simp only [ownerReference, Application.ownerReference, hname, huid]
  | executor => rfl

/-- The volumes that no mount of the role names are not looked at. -/
theorem volumes_eq_of_agrees (h : app.Agrees role declaring) :
    volumes app role = volumes declaring role := by
  unfold volumes
  rw [← h.customization_eq]
  exact List.flatMap_congr fun mount hm => by rw [h.volume?_eq mount hm]

theorem all_eq_of_agrees (hpod : Pod.Agrees settings container pod other)
    (happ : app.Agrees role declaring) :
    all pod app role settings = all other declaring role settings := by
  have hsetting : ∀ (s : PodSetting) (value : Option Json),
      setting pod s value = setting other s value := by
    intro s value
    rw [setting, setting, hpod.hasSetting_eq]
  simp only [all, ownerReference_eq_of_agrees happ, volumes_eq_of_agrees happ, configMounts,
    sparkConf, hadoopConf, tolerations, affinity, security, hsetting, happ.customization_eq,
    happ.sparkConf?_eq, happ.hadoopConf?_eq]

end Changes

/-- Pods and applications that agree get the same patch: nothing else in a pod, no setting of the
other role, no volume that is not mounted and, for an executor, nothing in the metadata of the
application has an influence on it. -/
theorem derivePatch_eq_of_agrees (hpod : Pod.Agrees settings container pod other)
    (happ : app.Agrees role declaring) :
    ∃ ops, derivePatch pod app role settings = .ok ops ∧
      derivePatch other declaring role settings = .ok ops := by
  refine ⟨_, derivePatch_eq_ok_iff.2 ⟨container, hpod.sparkContainer_eq, rfl⟩,
    derivePatch_eq_ok_iff.2 ⟨container, hpod.sparkContainer_other, ?_⟩⟩
  rw [hpod.alike.performAll_fst, Changes.all_eq_of_agrees hpod happ]

/-- A driver that has the Spark container of the sample driver in the same place, and of its lists
only the environment. -/
def otherPod : Pod :=
  .ofSource (.ofJson (.object [
    ("metadata", .object [("name", .string "other")]),
    ("spec", .object [
      ("containers", .array [
        .object [("image", .string "proxy"), ("name", .string "proxy")],
        .object [("env", .array [environmentVariable "LANG" "de", environmentVariable "A" "b"]),
          ("image", .string "spark"), ("name", .string "spark-kubernetes-driver")]]),
      ("nodeName", .string "n1")])]))

/-- The sample application with another namespace, a volume that is not mounted, and executors that
tolerate a taint. -/
def otherApplication : Application where
  metadata := .ofSource (.ofJson (.object [
    ("name", .string "pi"), ("namespace", .string "jobs"), ("uid", .string "7")]))
  spec := { sampleApplication.spec with
    volumes := .ofSource (.ofJson (.object [("name", .string "spare")])) ::
      sampleApplication.spec.volumes
    executor := {
      tolerations := [.ofSource (.ofJson (.object [("key", .string "batch")]))] } }

theorem derivePatch_eq_of_agrees_sample :
    Pod.Agrees {} 1 samplePod otherPod ∧
      sampleApplication.Agrees .driver otherApplication ∧
      ∃ ops, derivePatch samplePod sampleApplication .driver {} = .ok ops ∧
        derivePatch otherPod otherApplication .driver {} = .ok ops ∧ ops.length = 10 := by
  have hpod : Pod.Agrees {} 1 samplePod otherPod := by
    refine ⟨rfl, rfl, fun list => ?_, fun s => ?_⟩
    · cases list <;> rfl
    · cases s <;> rfl
  have happ : sampleApplication.Agrees .driver otherApplication := by
    refine ⟨rfl, fun mount hm => ?_, rfl, rfl, fun _ => ⟨rfl, rfl⟩⟩
    rcases List.mem_cons.1 hm with rfl | hm
    · rfl
    · rw [List.mem_singleton.1 hm]
      rfl
  obtain ⟨ops, hops, hother⟩ := derivePatch_eq_of_agrees hpod happ
  refine ⟨hpod, happ, ops, hops, hother, ?_⟩
  cases hops
  rfl

end SparkAdmission
