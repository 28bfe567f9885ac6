import Mathlib.Data.List.Nodup
import SparkAdmission.Proofs.PatchedPod

/-!
# The names of volumes

A pod must not have two volumes of one name. A patch adds a volume for every mount of a declared
volume, for every config map of the role and for the Spark and Hadoop configuration, so names are
repeated as soon as a volume is mounted, or a config map is listed, twice. `nodup_volumeNames_iff`
says that nothing else repeats a name, where names of different origin are different;
`not_forall_nodup_volumeNames` is a volume that is mounted at two paths.
-/

namespace SparkAdmission

open Json

/-! ### Names -/

/-- The name of a volume, from its document. -/
def Volume.nameIn (volume : Json) : String := ((volume.get? "name").bind text?).getD ""

/-- The names of the volumes. -/
def Pod.volumeNames (pod : Pod) : List String :=
  (pod.listAt ["spec", "volumes"]).map Volume.nameIn

namespace Changes

variable {app : Application} {role : Role} {settings : Settings}

/-- The names of the volumes that the mounts of a role mount, of those that are declared. -/
def mountedNames (app : Application) (role : Role) : List String :=
  (declaredMounts app role).map (·.2.volumeName)

/-- The config maps of a role, without the configuration directories. -/
def configMaps (app : Application) (role : Role) : List String :=
  (app.spec.customization role).configMounts.map (·.configMap)

/-- The names of the volumes made for the config maps of a role. -/
def generatedNames (app : Application) (role : Role) (settings : Settings) : List String :=
  (configMaps app role).map (configVolumeName · settings.maxNameLength)

/-- The names of the volumes made for the configuration directories. -/
def directoryNames (app : Application) (settings : Settings) : List String :=
  (confDirectories app settings).map (·.2.volume)

/-- A mount of a declared volume comes with the volume that it names. -/
theorem mem_declaredMounts {m : Volume × VolumeMount} (h : m ∈ declaredMounts app role) :
    m.1 ∈ app.spec.volumes ∧ m.1.name = m.2.volumeName := by
  obtain ⟨mount, -, hm⟩ := List.mem_filterMap.1 h
  obtain ⟨volume, hvolume, rfl⟩ := Option.map_eq_some_iff.1 hm
  exact ⟨List.mem_reverse.1 (List.mem_of_find?_eq_some hvolume),
    beq_iff_eq.1 (List.find?_some hvolume :)⟩

/-- The names of the volumes that an application adds. -/
theorem map_nameIn_additions :
    (additions app role settings .volumes).map Volume.nameIn =
      mountedNames app role ++ (generatedNames app role settings ++ directoryNames app settings) := by
  have hmounted : (declaredMounts app role).map (fun m => Volume.nameIn m.1.json) =
      mountedNames app role :=
    List.map_congr_left fun m hm => (mem_declaredMounts hm).2
  rw [additions, List.map_append, List.map_append, List.map_map, List.map_map, List.map_map,
    List.append_assoc, generatedNames, configMaps, List.map_map, directoryNames, ← hmounted]
  rfl

theorem mountedNames_subset (app : Application) (role : Role) :
    mountedNames app role ⊆ app.spec.volumes.map Volume.name := by
  intro name hname
  obtain ⟨m, hm, rfl⟩ := List.mem_map.1 hname
  obtain ⟨hmem, he⟩ := mem_declaredMounts hm
  exact List.mem_map.2 ⟨m.1, hmem, he⟩

theorem directoryNames_subset (app : Application) (settings : Settings) :
    directoryNames app settings ⊆ [settings.sparkConf.volume, settings.hadoopConf.volume] := by
  unfold directoryNames confDirectories
  cases app.spec.sparkConf? <;> cases app.spec.hadoopConf? <;> simp

theorem nodup_directoryNames_iff :
    (directoryNames app settings).Nodup ↔
      (app.spec.sparkConf? ≠ none → app.spec.hadoopConf? ≠ none →
        settings.sparkConf.volume ≠ settings.hadoopConf.volume) := by
  unfold directoryNames confDirectories
  cases app.spec.sparkConf? <;> cases app.spec.hadoopConf? <;> simp

/-- Names that are made for different config maps differ, so a name is made twice where a config map
is listed twice. -/
theorem nodup_generatedNames_iff
    (h : ∀ a ∈ configMaps app role, ∀ b ∈ configMaps app role,
      configVolumeName a settings.maxNameLength = configVolumeName b settings.maxNameLength →
        a = b) :
    (generatedNames app role settings).Nodup ↔ (configMaps app role).Nodup :=
  ⟨fun hn => hn.of_map, fun hn => hn.map_on h⟩

end Changes

/-- Two lists of names are searched for a common one. -/
instance decidableDisjointNames (xs ys : List String) : Decidable (xs.Disjoint ys) :=
  inferInstanceAs (Decidable (∀ x ∈ xs, x ∉ ys))

theorem nodup_append_iff_of_disjoint {xs ys : List String} (h : xs.Disjoint ys) :
    (xs ++ ys).Nodup ↔ xs.Nodup ∧ ys.Nodup := by
  rw [List.nodup_append']
  exact ⟨fun hn => ⟨hn.1, hn.2.1⟩, fun hn => ⟨hn.1, hn.2, h⟩⟩

/-! ### The volumes of a patched pod -/

/-- Volumes are added behind those that are there. -/
theorem Pod.volumeNames_eq_append {pod changed : Pod} {container : Nat} {added : List Json}
    (h : PodLists.itemsIn changed container .volumes =
      PodLists.itemsIn pod container .volumes ++ added) :
    changed.volumeNames = pod.volumeNames ++ added.map Volume.nameIn := by
  have hlist : changed.listAt ["spec", "volumes"] = pod.listAt ["spec", "volumes"] ++ added := h
  rw [volumeNames, hlist, List.map_append]
  rfl

/-- The names of the volumes of a patched pod. -/
theorem Patched.volumeNames_eq {pod patched : Pod} {app : Application} {role : Role}
    {settings : Settings} {container : Nat}
    (h : Patched pod app role settings container patched) :
    patched.volumeNames = pod.volumeNames ++ (Changes.mountedNames app role ++
      (Changes.generatedNames app role settings ++ Changes.directoryNames app settings)) := by
  rw [Pod.volumeNames_eq_append (h.itemsIn_eq .volumes), Changes.map_nameIn_additions]

/-- Let the volumes of a pod have different names, and none of them the name of a declared volume,
a name made for a config map of the role or one of the two names for configuration directories;
let these three kinds of names differ as well, and different config maps be given different names.
Then the names of the patched pod are different exactly when no two mounts of the role name one
declared volume, no config map is listed twice, and the two configuration directories, if both are
mounted, have different names. -/
theorem nodup_volumeNames_iff {pod : Pod} {app : Application} {role : Role} {settings : Settings}
    {ops : Patch} (h : derivePatch pod app role settings = .ok ops)
    (hpod : pod.volumeNames.Nodup)
    (hgroups : [pod.volumeNames, app.spec.volumes.map Volume.name,
      Changes.generatedNames app role settings,
      [settings.sparkConf.volume, settings.hadoopConf.volume]].Pairwise List.Disjoint)
    (hgenerated : ∀ a ∈ Changes.configMaps app role, ∀ b ∈ Changes.configMaps app role,
      configVolumeName a settings.maxNameLength = configVolumeName b settings.maxNameLength →
        a = b) :
    ∃ doc, Patch.run? ops pod.json = some doc ∧
      ∃ patched : Pod, Reader.value Document.read doc = some patched ∧
        (patched.volumeNames.Nodup ↔
          (Changes.mountedNames app role).Nodup ∧ (Changes.configMaps app role).Nodup ∧
            (app.spec.sparkConf? ≠ none → app.spec.hadoopConf? ≠ none →
              settings.sparkConf.volume ≠ settings.hadoopConf.volume)) := by
  obtain ⟨container, patched, hpatched, hrun, hread⟩ := exists_patched h
  refine ⟨_, hrun, patched, hread, ?_⟩
  simp only [List.pairwise_cons, List.mem_cons, List.not_mem_nil, or_false, forall_eq_or_imp,
    forall_eq] at hgroups
  obtain ⟨⟨hpm, hpg, hpd⟩, ⟨hmg, hmd⟩, hgd, -⟩ := hgroups
  -- each kind of added names lies within a group, so the added names of two kinds differ
  have hmounted := Changes.mountedNames_subset app role
  have hdirectory := Changes.directoryNames_subset app settings
  have hgd' : (Changes.generatedNames app role settings).Disjoint
      (Changes.directoryNames app settings) := List.disjoint_of_subset_right hdirectory hgd
  have hm : (Changes.mountedNames app role).Disjoint
      (Changes.generatedNames app role settings ++ Changes.directoryNames app settings) :=
    List.disjoint_of_subset_left hmounted
      (List.disjoint_append_right.2 ⟨hmg, List.disjoint_of_subset_right hdirectory hmd⟩)
  have hp : pod.volumeNames.Disjoint (Changes.mountedNames app role ++
      (Changes.generatedNames app role settings ++ Changes.directoryNames app settings)) :=
    List.disjoint_append_right.2 ⟨List.disjoint_of_subset_right hmounted hpm,
      List.disjoint_append_right.2 ⟨hpg, List.disjoint_of_subset_right hdirectory hpd⟩⟩
  rw [hpatched.volumeNames_eq, nodup_append_iff_of_disjoint hp, nodup_append_iff_of_disjoint hm,
    nodup_append_iff_of_disjoint hgd', Changes.nodup_generatedNames_iff hgenerated,
    Changes.nodup_directoryNames_iff]
  exact ⟨fun hn => hn.2, fun hn => ⟨hpod, hn⟩⟩

/-- The sample application mounts one volume, once. -/
theorem nodup_volumeNames_iff_sample :
    ∃ ops doc, derivePatch samplePod sampleApplication .driver {} = .ok ops ∧
      Patch.run? ops samplePod.json = some doc ∧
      ∃ patched : Pod, Reader.value Document.read doc = some patched ∧
        patched.volumeNames.Nodup := by
  obtain ⟨doc, hrun, patched, hread, hiff⟩ := nodup_volumeNames_iff
    (rfl : derivePatch samplePod sampleApplication .driver {} = .ok _)
    (by decide) (by decide) (by decide)
  exact ⟨_, doc, rfl, hrun, patched, hread, hiff.2 (by decide)⟩

/-- An executor without volumes. -/
def bareExecutor : Pod :=
  .ofSource (.ofJson (.object [("spec", .object [
    ("containers", .array [.object [("name", .string "executor")]])])]))

/-- An application whose executors mount one volume at two paths. -/
def twiceMounting : Application where
  metadata := .ofSource (.ofJson (.object [("name", .string "pi")]))
  spec := {
    volumes := [.ofSource (.ofJson (.object [("name", .string "data")]))]
    executor := {
      volumeMounts := [
        .ofSource (.ofJson (.object [("mountPath", .string "/a"), ("name", .string "data")])),
        .ofSource (.ofJson (.object [("mountPath", .string "/b"), ("name", .string "data")]))] } }

/-- A volume that is mounted at two paths is added twice, so not all patched pods have volumes of
different names, although all names of different origin are different. -/
theorem not_forall_nodup_volumeNames :
    ¬ ∀ (pod : Pod) (app : Application) (role : Role) (settings : Settings) (ops : Patch)
        (doc : Json) (patched : Pod),
      derivePatch pod app role settings = .ok ops → Patch.run? ops pod.json = some doc →
        Reader.value Document.read doc = some patched → pod.volumeNames.Nodup →
        (app.spec.volumes.map Volume.name).Nodup →
        [pod.volumeNames, app.spec.volumes.map Volume.name,
          Changes.generatedNames app role settings, [settings.sparkConf.volume],
          [settings.hadoopConf.volume]].Pairwise List.Disjoint →
        (∀ a ∈ Changes.configMaps app role, ∀ b ∈ Changes.configMaps app role,
          configVolumeName a settings.maxNameLength = configVolumeName b settings.maxNameLength →
            a = b) →
        patched.volumeNames.Nodup := by
  intro h
  obtain ⟨container, patched, hpatched, hrun, hread⟩ := exists_patched
    (rfl : derivePatch bareExecutor twiceMounting .executor {} = .ok _)
  have hnodup := h bareExecutor twiceMounting .executor {} _ _ patched rfl hrun hread (by decide)
    (by decide) (by decide) (by decide)
  rw [hpatched.volumeNames_eq] at hnodup
  exact absurd hnodup (by decide)

end SparkAdmission
