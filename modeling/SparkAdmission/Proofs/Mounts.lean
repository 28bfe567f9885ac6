import SparkAdmission.Proofs.VolumeNames

/-!
# Mounts and their volumes

A mount that a patch adds stands immediately behind the volume that it mounts (`Change.Paired`).
So wherever the operations are broken off, every mount that they have added names a volume of the
pod, and where all mounts of the Spark container did before, all of them still do
(`derivePatch_mounts`).
-/

namespace SparkAdmission

open Json

/-- The name of the volume that is mounted, from the document of a mount. -/
def VolumeMount.volumeNameIn (mount : Json) : String := ((mount.get? "name").bind text?).getD ""

/-! ### Changes in pairs -/

namespace Change

theorem mem_addedTo_iff {change : Change} {list : PodList} {value : Json} :
    value ∈ change.addedTo list ↔ change = .item list value := by
  constructor
  · intro h
    rcases change.place_list 0 list with ⟨-, he⟩ | ⟨value', rfl⟩
    · rw [he] at h
      cases h
    · rw [addedTo, if_pos rfl, List.mem_singleton] at h
      rw [h]
  · rintro rfl
    simp [addedTo]

/-- Every mount that is added stands immediately behind a volume that is related to it. -/
inductive Paired (related : Json → Json → Prop) : List Change → Prop
  | nil : Paired related []
  | pair {volume mount : Json} {changes : List Change} (h : related volume mount)
      (rest : Paired related changes) :
      Paired related (.item .volumes volume :: .item .volumeMounts mount :: changes)
  | other {change : Change} {changes : List Change} (h : change.addedTo .volumeMounts = [])
      (rest : Paired related changes) : Paired related (change :: changes)

namespace Paired

variable {related : Json → Json → Prop} {changes first second : List Change} {mount : Json}

theorem of_addedTo_eq_nil (h : ∀ change ∈ changes, change.addedTo .volumeMounts = []) :
    Paired related changes := by
  induction changes with
  | nil => exact .nil
  | cons change changes ih =>
    rw [List.forall_mem_cons] at h
    exact .other h.1 (ih h.2)

theorem append (h : Paired related first) (h' : Paired related second) :
    Paired related (first ++ second) := by
  induction h with
  | nil => exact h'
  | pair h _ ih => exact .pair h ih
  | other h _ ih => exact .other h ih

theorem flatMap {α : Type} {xs : List α} {f : α → List Change}
    (h : ∀ x ∈ xs, Paired related (f x)) : Paired related (xs.flatMap f) := by
  induction xs with
  | nil => exact .nil
  | cons x xs ih =>
    rw [List.forall_mem_cons] at h
    rw [List.flatMap_cons]
    exact h.1.append (ih h.2)

theorem preceded (h : Paired related changes) {i : Nat}
    (hi : changes[i]? = some (.item .volumeMounts mount)) :
    ∃ j volume, i = j + 1 ∧ changes[j]? = some (.item .volumes volume) ∧
      related volume mount := by
  induction h generalizing i with
  | nil => cases hi
  | @pair volume mount' changes h _ ih =>
    match i with
    | 0 => cases hi
    | 1 =>
      cases hi
      exact ⟨0, volume, rfl, rfl, h⟩
    | i + 2 =>
      obtain ⟨j, volume', rfl, hj, hrelated⟩ := ih hi
      exact ⟨j + 2, volume', rfl, hj, hrelated⟩
  | @other change changes h _ ih =>
    match i with
    | 0 =>
      cases hi
      cases h
    | i + 1 =>
      obtain ⟨j, volume, rfl, hj, hrelated⟩ := ih hi
      exact ⟨j + 1, volume, rfl, hj, hrelated⟩

/-- Wherever changes are broken off, the volume of every mount that is added has been added. -/
theorem exists_volume_of_take (h : Paired related changes) {k : Nat}
    (hm : mount ∈ (changes.take k).flatMap (addedTo .volumeMounts)) :
    ∃ volume ∈ (changes.take k).flatMap (addedTo .volumes), related volume mount := by
  obtain ⟨change, hmem, hadded⟩ := List.mem_flatMap.1 hm
  obtain ⟨i, hi⟩ := List.mem_iff_getElem?.1 hmem
  obtain rfl := mem_addedTo_iff.1 hadded
  rw [List.getElem?_take] at hi
  split at hi
  · rename_i hlt
    obtain ⟨j, volume, rfl, hj, hrelated⟩ := h.preceded hi
    have hvolume : (changes.take k)[j]? = some (.item .volumes volume) := by
      rw [List.getElem?_take, if_pos (Nat.lt_of_succ_lt hlt), hj]
    exact ⟨volume,
      List.mem_flatMap.2 ⟨_, List.mem_of_getElem? hvolume, mem_addedTo_iff.2 rfl⟩, hrelated⟩
  · cases hi

end Paired

end Change

/-! ### The volumes of an application -/

namespace Changes

variable {pod : Pod} {app : Application} {role : Role} {settings : Settings}

/-- The volume and the mount are what an application declares for a role: a declared volume and a
mount of the role, or a volume that holds a config map and a mount where the config map belongs. -/
inductive Declares (app : Application) (role : Role) (settings : Settings) : Json → Json → Prop
  | volume {volume : Volume} {mount : VolumeMount}
      (mem : mount ∈ (app.spec.customization role).volumeMounts)
      (found : app.spec.volume? mount.volumeName = some volume) :
      Declares app role settings volume.json mount.json
  | configMap {volume mount : Json} {m : ConfigMount}
      (mem : m ∈ (app.spec.customization role).configMounts)
      (source : volume.at? ["configMap", "name"] = some (.string m.configMap))
      (path : mount.at? ["mountPath"] = some (.string m.path)) :
      Declares app role settings volume mount
  | directory {volume mount : Json} {configMap : String} {directory : ConfDirectory}
      (mem : (configMap, directory) ∈ confDirectories app settings)
      (source : volume.at? ["configMap", "name"] = some (.string configMap))
      (path : mount.at? ["mountPath"] = some (.string directory.path)) :
      Declares app role settings volume mount

/-- The volume is the one that the mount mounts. -/
def Belongs (app : Application) (role : Role) (settings : Settings) (volume mount : Json) : Prop :=
  Volume.nameIn volume = VolumeMount.volumeNameIn mount ∧ Declares app role settings volume mount

theorem belongs_of_mem_declaredMounts {m : Volume × VolumeMount} (h : m ∈ declaredMounts app role) :
    Belongs app role settings m.1.json m.2.json := by
  obtain ⟨mount, hmem, hm⟩ := List.mem_filterMap.1 h
  obtain ⟨volume, hvolume, rfl⟩ := Option.map_eq_some_iff.1 hm
  exact ⟨(mem_declaredMounts h).2, .volume hmem hvolume⟩

/-- The mounts of an application stand behind their volumes. -/
theorem paired_all : Change.Paired (Belongs app role settings) (all pod app role settings) := by
  have howner : Change.Paired (Belongs app role settings) (ownerReference app role) :=
    .of_addedTo_eq_nil (by cases role <;> simp [ownerReference, Role.isDriver, Change.addedTo])
  have hvolumes : Change.Paired (Belongs app role settings) (volumes app role) := by
    rw [volumes_eq_flatMap]
    exact .flatMap fun m hm => .pair (belongs_of_mem_declaredMounts hm) .nil
  have hconfigs : Change.Paired (Belongs app role settings) (configMounts app role settings) :=
    .flatMap fun m hm => .pair ⟨rfl, .configMap hm rfl rfl⟩ .nil
  have hdirectories : Change.Paired (Belongs app role settings)
      (sparkConf app settings ++ hadoopConf app settings) := by
    rw [sparkConf_append_hadoopConf]
    exact .flatMap fun c hc => .pair ⟨rfl, .directory hc rfl rfl⟩ (.other rfl .nil)
  have htolerations : Change.Paired (Belongs app role settings) (tolerations app role) :=
    .of_addedTo_eq_nil fun change hc => by
      obtain ⟨t, -, rfl⟩ := List.mem_map.1 hc
      rfl
  have hsetting : ∀ s : PodSetting, Change.Paired (Belongs app role settings)
      ((given pod app role s).map (Change.setting s)).toList := fun s =>
    .of_addedTo_eq_nil fun change hc => by
      obtain ⟨value, -, rfl⟩ := Option.map_eq_some_iff.1 (Option.mem_toList.1 hc)
      rfl
  rw [all_eq_items_append, items, List.append_assoc _ (sparkConf app settings)]
  exact (((((howner.append hvolumes).append hconfigs).append hdirectories).append
    htolerations).append (hsetting _)).append (hsetting _)

end Changes

/-! ### The mounts of a pod -/

/-- The operation puts the item into the list. -/
def Add.Puts (list : List String) (item : Json) (op : Add) : Prop :=
  op = .create list item ∨ op = .append list item

theorem Change.puts_operation (container : Nat) (items : PodList → List Json) (list : PodList)
    (value : Json) :
    ((Change.item list value).operation container items).Puts (PodLists.place container list)
      value := by
  rw [operation, Add.toList]
  split
  · exact .inl rfl
  · exact .inr rfl

/-- The names of the volumes that the mounts of a container mount. -/
def Pod.mountedNames (pod : Pod) (container : Nat) : List String :=
  (PodLists.itemsIn pod container .volumeMounts).map VolumeMount.volumeNameIn

/-- Mounts are added behind those that are there. -/
theorem Pod.mountedNames_eq_append {pod changed : Pod} {container : Nat} {added : List Json}
    (h : PodLists.itemsIn changed container .volumeMounts =
      PodLists.itemsIn pod container .volumeMounts ++ added) :
    changed.mountedNames container =
      pod.mountedNames container ++ added.map VolumeMount.volumeNameIn := by
  rw [mountedNames, h, List.map_append]
  rfl

theorem PodLists.performAll_take (lists : PodLists) (changes : List Change) (k : Nat) :
    (lists.performAll (changes.take k)).1 = (lists.performAll changes).1.take k := by
  induction k generalizing lists changes with
  | zero => rw [List.take_zero, List.take_zero, performAll_nil]
  | succ k ih =>
    cases changes with
    | nil => rfl
    | cons change changes =>
      rw [List.take_succ_cons, performAll_cons, performAll_cons, ih, List.take_succ_cons]

/-- A mount that is added is the change of an operation on the list of mounts. -/
theorem Counts.exists_mount {lists : PodLists} {container : Nat} {items : PodList → List Json}
    (h : Counts lists container items) {changes : List Change} {i : Nat} {op : Add}
    (hop : (lists.performAll changes).1[i]? = some op)
    (hin : op.isIn (PodLists.place container .volumeMounts) = true) :
    ∃ mount, changes[i]? = some (.item .volumeMounts mount) := by
  rw [h.performAll_eq_mapIdx, List.getElem?_mapIdx] at hop
  obtain ⟨change, hchange, rfl⟩ := Option.map_eq_some_iff.1 hop
  rcases change.place_list container .volumeMounts with ⟨hp, -⟩ | ⟨mount, rfl⟩
  · rw [Change.isIn_operation_of_apart hp] at hin
    cases hin
  · exact ⟨mount, hchange⟩

/-- The operation of a change puts its item into its list. -/
theorem Counts.exists_puts {lists : PodLists} {container : Nat} {items : PodList → List Json}
    (h : Counts lists container items) {changes : List Change} {i : Nat} {list : PodList}
    {value : Json} (hi : changes[i]? = some (.item list value)) :
    ∃ op, (lists.performAll changes).1[i]? = some op ∧
      op.Puts (PodLists.place container list) value := by
  rw [h.performAll_eq_mapIdx, List.getElem?_mapIdx, hi]
  exact ⟨_, rfl, Change.puts_operation ..⟩

/-- In a derived patch an operation that adds a mount stands immediately behind the one that adds
the volume of the same name that it mounts: the declared volume, or a volume that holds the config
map whose full name the application gives. After any number of operations the pod is still read as
a pod, with the same Spark container; every mount that is added there by then names a volume of the
pod, and if all mounts did before, all of them do. -/
theorem derivePatch_mounts {pod : Pod} {app : Application} {role : Role} {settings : Settings}
    {ops : Patch} (h : derivePatch pod app role settings = .ok ops) :
    ∃ container, pod.sparkContainer settings = .ok container ∧
      (∀ i op, ops[i]? = some op → op.isIn (PodLists.place container .volumeMounts) = true →
        ∃ j previous volume mount, i = j + 1 ∧ ops[j]? = some previous ∧
          previous.Puts ["spec", "volumes"] volume ∧
          op.Puts (PodLists.place container .volumeMounts) mount ∧
          Volume.nameIn volume = VolumeMount.volumeNameIn mount ∧
          Changes.Declares app role settings volume mount) ∧
      ∀ k, ∃ patched : Pod, Patch.run? (ops.take k) pod.json = some patched.json ∧
        Reader.value Document.read patched.json = some patched ∧
        patched.sparkContainer settings = .ok container ∧
        ∃ added, patched.mountedNames container = pod.mountedNames container ++ added ∧
          added ⊆ patched.volumeNames ∧
          (pod.mountedNames container ⊆ pod.volumeNames →
            patched.mountedNames container ⊆ patched.volumeNames) := by
  obtain ⟨container, hcontainer, rfl⟩ := derivePatch_eq_ok_iff.1 h
  have hcounts := Counts.ofPod pod container
  have hpaired : Change.Paired (Changes.Belongs app role settings)
      (Changes.all pod app role settings) := Changes.paired_all
  refine ⟨container, hcontainer, fun i op hop hin => ?_, fun k => ?_⟩
  · obtain ⟨mount, hmount⟩ := hcounts.exists_mount hop hin
    obtain ⟨j, volume, rfl, hvolume, hname, hdeclares⟩ := hpaired.preceded hmount
    obtain ⟨previous, hprevious, hputs⟩ := hcounts.exists_puts hvolume
    obtain ⟨op', hop', hputs'⟩ := hcounts.exists_puts hmount
    cases hop.symm.trans hop'
    exact ⟨j, previous, volume, mount, rfl, hprevious, hputs, hputs', hname, hdeclares⟩
  · rw [← PodLists.performAll_take]
    obtain ⟨patched, -, hrun, hread, hnames, hitems⟩ := exists_changed
      (Pod.lt_of_sparkContainer hcontainer) fun change hc =>
        Changes.conforms_of_mem_all (List.mem_of_mem_take hc)
    have hvolumes := Pod.volumeNames_eq_append (hitems .volumes)
    have hmounts := Pod.mountedNames_eq_append (hitems .volumeMounts)
    have hadded : (((Changes.all pod app role settings).take k).flatMap
        (Change.addedTo .volumeMounts)).map VolumeMount.volumeNameIn ⊆ patched.volumeNames := by
      intro name hname
      obtain ⟨mount, hmount, rfl⟩ := List.mem_map.1 hname
      obtain ⟨volume, hvolume, hname, -⟩ := hpaired.exists_volume_of_take hmount
      rw [hvolumes]
      exact List.mem_append_right _ (List.mem_map.2 ⟨volume, hvolume, hname⟩)
    refine ⟨patched, hrun, hread, Pod.sparkContainer_congr hnames hcontainer, _, hmounts, hadded,
      fun hpod => ?_⟩
    rw [hmounts, List.append_subset]
    exact ⟨fun name hname => hvolumes ▸ List.mem_append_left _ (hpod hname), hadded⟩

/-- A driver with a volume and a mount of it. -/
def scratchPod : Pod :=
  .ofSource (.ofJson (.object [("spec", .object [
    ("containers", .array [.object [("name", .string "spark-kubernetes-driver"),
      ("volumeMounts", .array [readOnlyMount "scratch" "/scratch"])]]),
    ("volumes", .array [.object [("name", .string "scratch")]])])]))

/-- The second mount that the patch of the sample application adds is that of a config map, behind
its volume. Broken off there, the patch leaves the driver with three mounts. -/
theorem derivePatch_mounts_sample :
    ∃ ops, derivePatch scratchPod sampleApplication .driver {} = .ok ops ∧
      (∃ previous volume mount, ops[3]? = some previous ∧
        previous.Puts ["spec", "volumes"] volume ∧
        Volume.nameIn volume = VolumeMount.volumeNameIn mount ∧
        Changes.Declares sampleApplication .driver {} volume mount) ∧
      scratchPod.mountedNames 0 ⊆ scratchPod.volumeNames ∧
      ∃ patched : Pod, Patch.run? (ops.take 5) scratchPod.json = some patched.json ∧
        patched.mountedNames 0 = ["scratch", "data", "rules-vol"] ∧
        patched.mountedNames 0 ⊆ patched.volumeNames := by
  obtain ⟨container, hcontainer, hbehind, htake⟩ := derivePatch_mounts
    (rfl : derivePatch scratchPod sampleApplication .driver {} = .ok _)
  cases hcontainer
  obtain ⟨j, previous, volume, mount, hj, hprevious, hputs, -, hname, hdeclares⟩ :=
    hbehind 4 _ rfl rfl
  obtain ⟨patched, hrun, -, -, -, -, -, hsubset⟩ := htake 5
  cases hj
  refine ⟨_, rfl, ⟨previous, volume, mount, hprevious, hputs, hname, hdeclares⟩, by decide,
    patched, hrun, ?_, hsubset (by decide)⟩
  have hjson : patched.json = _ := Option.some.inj (hrun.symm.trans rfl)
  simp only [Pod.mountedNames, PodLists.itemsIn, Pod.containerList, Pod.containers, Pod.listAt,
    hjson]
  rfl

end SparkAdmission
