import Mathlib.Data.List.Basic
import SparkAdmission.Proofs.Derivation

/-!
# Volumes and the mounts that name them

A mount is added with the volume that it names. The volumes can be put into a table by their names
first, where a later one replaces an earlier one, and the mounts then be handled one by one with the
table (`mountAll`). That comes to a search for the last volume of a name (`Volume.getElem?_table`),
so nothing depends on the order of volumes of different names or on volumes that are not mounted
(`performAll_volumes`).
-/

namespace SparkAdmission

/-! ### Counting items -/

namespace PodLists

theorem get_perform (lists : PodLists) (change : Change) (list : PodList) :
    (lists.perform change).2.get list =
      ⟨(lists.get list).path, (lists.get list).length + (change.addedTo list).length⟩ := by
  cases change with
  | item other value =>
    by_cases h : other = list
    · subst h
      simp [perform, GrowingList.push, Change.addedTo]
    · rw [perform, get_set_of_ne (Ne.symm h), Change.addedTo, if_neg h]
      rfl
  | setting s value => rfl

/-- Every list counts the items that changes add to it. -/
theorem get_performAll (lists : PodLists) (changes : List Change) (list : PodList) :
    (lists.performAll changes).2.get list = ⟨(lists.get list).path,
      (lists.get list).length + (changes.flatMap (Change.addedTo list)).length⟩ := by
  induction changes generalizing lists with
  | nil => rfl
  | cons change changes ih =>
    rw [performAll_cons, ih, get_perform, List.flatMap_cons, List.length_append, Nat.add_assoc]

end PodLists

/-! ### Volumes of a name -/

namespace Volume

variable {volumes other : List Volume} {name : String}

/-- The volumes of a name, in their order. -/
def named (volumes : List Volume) (name : String) : List Volume := volumes.filter (·.name == name)

/-- The table of volumes by their names. Volumes are put into it in their order, each in the place
of the one of its name. -/
def table (volumes : List Volume) : Std.HashMap String Volume :=
  volumes.foldl (fun table volume => table.insert volume.name volume) ∅

/-- The table holds the last volume of every name. -/
theorem getElem?_table : (table volumes)[name]? = (named volumes name).getLast? := by
  have hfold : ∀ start : Std.HashMap String Volume,
      (volumes.foldl (fun table volume => table.insert volume.name volume) start)[name]? =
        (named volumes name).getLast?.or start[name]? := by
    induction volumes with
    | nil => exact fun _ => rfl
    | cons volume volumes ih =>
      intro start
      rw [List.foldl_cons, ih, Std.HashMap.getElem?_insert]
      by_cases h : volume.name == name
      · have hcons : named (volume :: volumes) name = volume :: named volumes name :=
          List.filter_cons_of_pos h
        rw [if_pos h, hcons, List.getLast?_cons]
        cases (named volumes name).getLast? <;> rfl
      · have hcons : named (volume :: volumes) name = named volumes name :=
          List.filter_cons_of_neg h
        rw [if_neg h, hcons]
  rw [table, hfold, Std.HashMap.getElem?_empty, Option.or_none]

/-- Volumes that are not looked for can be left out before the search. -/
theorem named_filter {p : Volume → Bool} (h : ∀ volume, volume.name = name → p volume = true) :
    named (volumes.filter p) name = named volumes name := by
  rw [named, List.filter_filter]
  refine List.filter_congr fun volume _ => ?_
  by_cases hname : volume.name = name
  · rw [h volume hname, Bool.and_true]
  · rw [beq_eq_false_iff_ne.2 hname, Bool.false_and]

end Volume

theorem ApplicationSpec.volume?_eq (spec : ApplicationSpec) (name : String) :
    spec.volume? name = (Volume.named spec.volumes name).getLast? := List.getLast?_filter.symm

theorem ApplicationSpec.isSome_volume? (spec : ApplicationSpec) (name : String) :
    (spec.volume? name).isSome = spec.volumes.any (·.name == name) := by
  rw [volume?, List.isSome_find?, List.any_reverse]

/-- The declared volumes that mounts of a role name, in their order. -/
def ApplicationSpec.mountedVolumes (spec : ApplicationSpec) (role : Role) : List Volume :=
  spec.volumes.filter fun volume =>
    (spec.customization role).volumeMounts.any (·.volumeName == volume.name)

theorem ApplicationSpec.named_mountedVolumes {spec : ApplicationSpec} {role : Role}
    {mount : VolumeMount} (h : mount ∈ (spec.customization role).volumeMounts) :
    Volume.named (spec.mountedVolumes role) mount.volumeName =
      Volume.named spec.volumes mount.volumeName :=
  Volume.named_filter fun _ hname => List.any_eq_true.2 ⟨mount, h, beq_iff_eq.2 hname.symm⟩

/-! ### Mounts one by one -/

namespace Changes

/-- The operations for mounts that are handled one by one, and the lists after them. The volume that
a mount names is looked for; it is added and the mount behind it. A mount for which none is found is
passed over. -/
def mountAll (find? : String → Option Volume) (lists : PodLists) :
    List VolumeMount → Patch × PodLists
  | [] => ([], lists)
  | mount :: mounts =>
    match find? mount.volumeName with
    | none => mountAll find? lists mounts
    | some volume =>
      let (first, next) := lists.perform (.item .volumes volume.json)
      let (second, next) := next.perform (.item .volumeMounts mount.json)
      let (ops, last) := mountAll find? next mounts
      (first :: second :: ops, last)

/-- The volumes that are found for the names of the mounts decide. -/
theorem mountAll_congr {find? other? : String → Option Volume} {mounts : List VolumeMount}
    (h : ∀ mount ∈ mounts, find? mount.volumeName = other? mount.volumeName) (lists : PodLists) :
    mountAll find? lists mounts = mountAll other? lists mounts := by
  induction mounts generalizing lists with
  | nil => rfl
  | cons mount mounts ih =>
    rw [List.forall_mem_cons] at h
    rw [mountAll, mountAll, h.1]
    cases other? mount.volumeName with
    | none => exact ih h.2 lists
    | some volume => simp only [ih h.2]

/-- The changes of all mounts are those of the mounts one by one. -/
theorem performAll_volumes_eq_mountAll (app : Application) (role : Role) (lists : PodLists) :
    lists.performAll (volumes app role) =
      mountAll app.spec.volume? lists (app.spec.customization role).volumeMounts := by
  unfold volumes
  induction (app.spec.customization role).volumeMounts generalizing lists with
  | nil => rfl
  | cons mount mounts ih =>
    rw [List.flatMap_cons, mountAll]
    cases app.spec.volume? mount.volumeName with
    | none => exact ih lists
    | some volume =>
      rw [PodLists.performAll_append, ih]
      rfl

/-- Of the declared volumes only those of the names of mounts matter, name by name. -/
theorem performAll_volumes_congr {app other : Application} {role : Role}
    (hmounts : (other.spec.customization role).volumeMounts =
      (app.spec.customization role).volumeMounts)
    (hnamed : ∀ mount ∈ (app.spec.customization role).volumeMounts,
      Volume.named other.spec.volumes mount.volumeName =
        Volume.named app.spec.volumes mount.volumeName) (lists : PodLists) :
    lists.performAll (volumes other role) = lists.performAll (volumes app role) := by
  rw [performAll_volumes_eq_mountAll, performAll_volumes_eq_mountAll, hmounts]
  refine mountAll_congr (fun mount hmount => ?_) lists
  rw [ApplicationSpec.volume?_eq, ApplicationSpec.volume?_eq, hnamed mount hmount]

/-- As many volumes, and as many mounts, are added as there are mounts whose volume is declared. -/
theorem get_performAll_volumes (app : Application) (role : Role) (lists : PodLists)
    (list : PodList) :
    (lists.performAll (volumes app role)).2.get list =
      match list with
      | .volumes | .volumeMounts => ⟨(lists.get list).path, (lists.get list).length +
          (app.spec.customization role).volumeMounts.countP fun mount =>
            app.spec.volumes.any (·.name == mount.volumeName)⟩
      | _ => lists.get list := by
  have hcount : (declaredMounts app role).length =
      (app.spec.customization role).volumeMounts.countP fun mount =>
        app.spec.volumes.any (·.name == mount.volumeName) := by
    rw [declaredMounts, List.length_filterMap_eq_countP]
    refine List.countP_congr fun mount _ => ?_
    rw [Option.isSome_map, app.spec.isSome_volume?]
  rw [PodLists.get_performAll, volumes_eq_flatMap, addedTo_mounted]
  cases list <;> simp only [List.length_map, hcount, List.length_nil, Nat.add_zero]

end Changes

/-- The mounts of a role are handled in their order: one whose name a declared volume has adds the
last declared volume of that name and then itself, every other one nothing. A table of the volumes
or a search from the end make no difference. The lists of volumes and of mounts count as many items
more as there are mounts with a declared volume, all other lists stay as they are. The declared
volumes may be in any other order in which those of one name follow each other alike, and any that
no mount of the role names may be there or not. -/
theorem performAll_volumes (app : Application) (role : Role) (lists : PodLists) :
    lists.performAll (Changes.volumes app role) =
        Changes.mountAll (fun name => (Volume.named app.spec.volumes name).getLast?) lists
          (app.spec.customization role).volumeMounts ∧
      lists.performAll (Changes.volumes app role) =
        Changes.mountAll (fun name => (Volume.table app.spec.volumes)[name]?) lists
          (app.spec.customization role).volumeMounts ∧
      lists.performAll (Changes.volumes app role) =
        Changes.mountAll (fun name => app.spec.volumes.reverse.find? (·.name == name)) lists
          (app.spec.customization role).volumeMounts ∧
      (∀ list, (lists.performAll (Changes.volumes app role)).2.get list =
        if list = .volumes ∨ list = .volumeMounts then
          ⟨(lists.get list).path, (lists.get list).length +
            (app.spec.customization role).volumeMounts.countP fun mount =>
              app.spec.volumes.any (·.name == mount.volumeName)⟩
        else lists.get list) ∧
      (∀ other : Application, (other.spec.customization role).volumeMounts =
          (app.spec.customization role).volumeMounts →
        other.spec.volumes.Perm app.spec.volumes →
        (∀ name, Volume.named other.spec.volumes name = Volume.named app.spec.volumes name) →
        lists.performAll (Changes.volumes other role) =
          lists.performAll (Changes.volumes app role)) ∧
      ∀ other : Application, (other.spec.customization role).volumeMounts =
          (app.spec.customization role).volumeMounts →
        other.spec.mountedVolumes role = app.spec.mountedVolumes role →
        lists.performAll (Changes.volumes other role) =
          lists.performAll (Changes.volumes app role) := by
  have heq := Changes.performAll_volumes_eq_mountAll app role lists
  refine ⟨?_, ?_, heq, fun list => ?_, fun other hmounts _ hnamed => ?_,
    fun other hmounts hvolumes => ?_⟩
  · rw [heq]
    exact Changes.mountAll_congr (fun mount _ => app.spec.volume?_eq mount.volumeName) lists
  · rw [heq]
    refine Changes.mountAll_congr (fun mount _ => ?_) lists
    rw [Volume.getElem?_table, app.spec.volume?_eq]
  · rw [Changes.get_performAll_volumes]
    cases list <;> rfl
  · exact Changes.performAll_volumes_congr hmounts (fun mount _ => hnamed mount.volumeName) lists
  · refine Changes.performAll_volumes_congr hmounts (fun mount hmount => ?_) lists
    rw [← ApplicationSpec.named_mountedVolumes hmount, ← hvolumes,
      ApplicationSpec.named_mountedVolumes (hmounts ▸ hmount)]

/-- A volume of the name `data`. -/
def dataVolume : Volume := .ofSource (.ofJson (.object [("name", .string "data")]))

/-- Another volume of the name `data`. -/
def emptyDataVolume : Volume :=
  .ofSource (.ofJson (.object [("emptyDir", .object []), ("name", .string "data")]))

/-- A volume of another name. -/
def spareVolume : Volume := .ofSource (.ofJson (.object [("name", .string "spare")]))

/-- An application that declares these volumes, and whose executors mount `data` at two paths and
in between a volume that is not declared. -/
def declaring (volumes : List Volume) : Application where
  metadata := .ofSource (.ofJson (.object [("name", .string "pi")]))
  spec := {
    volumes
    executor := {
      volumeMounts := [
        .ofSource (.ofJson (readOnlyMount "data" "/a")),
        .ofSource (.ofJson (readOnlyMount "missing" "/m")),
        .ofSource (.ofJson (readOnlyMount "data" "/b"))] } }

theorem performAll_volumes_sample :
    [spareVolume, dataVolume, emptyDataVolume].Perm [dataVolume, spareVolume, emptyDataVolume] ∧
      (∀ name, Volume.named [spareVolume, dataVolume, emptyDataVolume] name =
        Volume.named [dataVolume, spareVolume, emptyDataVolume] name) ∧
      (declaring [dataVolume, emptyDataVolume]).spec.mountedVolumes .executor =
        (declaring [dataVolume, spareVolume, emptyDataVolume]).spec.mountedVolumes .executor ∧
      ∀ volumes ∈ [[dataVolume, spareVolume, emptyDataVolume],
          [spareVolume, dataVolume, emptyDataVolume], [dataVolume, emptyDataVolume]],
        ((PodLists.ofPod samplePod 1).performAll
            (Changes.volumes (declaring volumes) .executor)).1 = [
          ⟨⟨["spec", "volumes"]⟩, .array [emptyDataVolume.json]⟩,
          ⟨⟨["spec", "containers", "1", "volumeMounts"]⟩, .array [readOnlyMount "data" "/a"]⟩,
          ⟨⟨["spec", "volumes", "-"]⟩, emptyDataVolume.json⟩,
          ⟨⟨["spec", "containers", "1", "volumeMounts", "-"]⟩, readOnlyMount "data" "/b"⟩] := by
  have hnamed : ∀ name, Volume.named [spareVolume, dataVolume, emptyDataVolume] name =
      Volume.named [dataVolume, spareVolume, emptyDataVolume] name := by
    intro name
    by_cases hspare : spareVolume.name == name
    · rw [← beq_iff_eq.1 hspare]
      rfl
    · simp only [Volume.named, List.filter_cons, if_neg hspare]
  obtain ⟨hone, -, -, -, hperm, hmounted⟩ := performAll_volumes
    (declaring [dataVolume, spareVolume, emptyDataVolume]) .executor (PodLists.ofPod samplePod 1)
  refine ⟨.swap .., hnamed, rfl, ?_⟩
  simp only [List.forall_mem_cons]
  refine ⟨?_, ?_, ?_, List.forall_mem_nil _⟩
  · rw [hone]
    rfl
  · rw [hperm (declaring [spareVolume, dataVolume, emptyDataVolume]) rfl (.swap ..) hnamed, hone]
    rfl
  · rw [hmounted (declaring [dataVolume, emptyDataVolume]) rfl rfl, hone]
    rfl

end SparkAdmission
