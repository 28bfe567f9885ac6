import SparkAdmission.Proofs.Mounts

/-!
# Configuration directories in a container

Of several environment variables of one name in a container the last one counts
(`Pod.entry?`). The patch of an application with a Spark or Hadoop configuration makes that
variable point to a directory, at which a volume with the config map is mounted
(`Pod.Finds`), whatever the container has already. Without a configuration the variable is what it
was. Both hold for both configurations at once, where their variables have different names
(`finds_derivePatch`).
-/

namespace SparkAdmission

open Json

namespace Pod

/-- The name of an environment variable, from its document. -/
def variableName (entry : Json) : String := ((entry.get? "name").bind text?).getD ""

/-- The last one of these environment variables that has the name. -/
def lastNamed (name : String) (entries : List Json) : Option Json :=
  (entries.filter fun entry => variableName entry == name).getLast?

/-- The environment variable of that name in a container: the last one, if there are several. -/
def entry? (pod : Pod) (container : Nat) (name : String) : Option Json :=
  lastNamed name (PodLists.itemsIn pod container .env)

theorem lastNamed_append (name : String) (first second : List Json) :
    lastNamed name (first ++ second) = (lastNamed name second).or (lastNamed name first) := by
  rw [lastNamed, List.filter_append, List.getLast?_append]
  rfl

/-- The container finds the config map in the directory: the variable holds the path, and at the
path there is a read-only mount of a volume that holds the config map. -/
structure Finds (pod : Pod) (container : Nat) (configMap : String) (directory : ConfDirectory) :
    Prop where
  entry_eq : ∃ entry, pod.entry? container directory.variableName = some entry ∧
    entry.get? "value" = some (.string directory.path) ∧ entry.get? "valueFrom" = none
  mounted : ∃ mount ∈ PodLists.itemsIn pod container .volumeMounts,
    mount.get? "mountPath" = some (.string directory.path) ∧
    mount.get? "readOnly" = some (.bool true) ∧
    ∃ volume ∈ PodLists.itemsIn pod container .volumes,
      Volume.nameIn volume = VolumeMount.volumeNameIn mount ∧
      volume.at? ["configMap", "name"] = some (.string configMap)

end Pod

/-! ### What an application adds for its configurations -/

namespace Changes

variable {app : Application} {role : Role} {settings : Settings}

/-- The config map of each configuration as the application gives it, with its directory: Spark,
then Hadoop. -/
def configurations (app : Application) (settings : Settings) :
    List (Option String × ConfDirectory) :=
  [(app.spec.sparkConfigMap, settings.sparkConf), (app.spec.hadoopConfigMap, settings.hadoopConf)]

theorem mem_confDirectories {conf : Option String × ConfDirectory} {configMap : String}
    (hconf : conf ∈ configurations app settings) (h : conf.1 = some configMap)
    (hne : configMap ≠ "") : (configMap, conf.2) ∈ confDirectories app settings := by
  have hgiven : ApplicationSpec.nonEmpty conf.1 = some configMap := by
    simp [ApplicationSpec.nonEmpty, h, hne]
  rw [configurations, List.mem_pair] at hconf
  rcases hconf with rfl | rfl
  · have hmem : (configMap, settings.sparkConf) ∈
        (app.spec.sparkConf?.map (·, settings.sparkConf)).toList := by
      simp [ApplicationSpec.sparkConf?, hgiven]
    exact List.mem_append_left _ hmem
  · have hmem : (configMap, settings.hadoopConf) ∈
        (app.spec.hadoopConf?.map (·, settings.hadoopConf)).toList := by
      simp [ApplicationSpec.hadoopConf?, hgiven]
    exact List.mem_append_right _ hmem

/-- The variable that is added for a directory, if there is a config map, has its name only. -/
theorem lastNamed_directory (name : String) (configMap : Option String)
    (directory : ConfDirectory) :
    Pod.lastNamed name ((configMap.map (·, directory)).toList.map fun c =>
        environmentVariable c.2.variableName c.2.path) =
      if directory.variableName = name then
        configMap.map fun _ => environmentVariable directory.variableName directory.path
      else none := by
  have hname : Pod.variableName (environmentVariable directory.variableName directory.path) =
      directory.variableName := rfl
  cases configMap with
  | none => simp [Pod.lastNamed]
  | some configMap =>
    rw [Option.map_some, Option.toList_some, List.map_singleton, Pod.lastNamed,
      List.filter_singleton, hname]
    by_cases h : directory.variableName = name
    · rw [if_pos h, beq_iff_eq.2 h]
      rfl
    · rw [if_neg h, beq_eq_false_iff_ne.2 h]
      rfl

/-- Where the variables of the two configurations have different names, the variable of either name
that is added is that of its configuration. -/
theorem lastNamed_additions
    (hne : settings.sparkConf.variableName ≠ settings.hadoopConf.variableName)
    {conf : Option String × ConfDirectory} (hconf : conf ∈ configurations app settings) :
    Pod.lastNamed conf.2.variableName (additions app role settings .env) =
      (ApplicationSpec.nonEmpty conf.1).map fun _ =>
        environmentVariable conf.2.variableName conf.2.path := by
  rw [additions, confDirectories, List.map_append, Pod.lastNamed_append, lastNamed_directory,
    lastNamed_directory]
  rw [configurations, List.mem_pair] at hconf
  rcases hconf with rfl | rfl
  · rw [if_neg hne.symm, if_pos rfl, Option.none_or]
    rfl
  · rw [if_pos rfl, if_neg hne, Option.or_none]
    rfl

end Changes

/-! ### What the container finds -/

namespace Patched

variable {pod patched : Pod} {app : Application} {role : Role} {settings : Settings}
  {container : Nat} {conf : Option String × ConfDirectory}

/-- A variable of a configuration is the added one, or else the one that the pod had. -/
theorem entry?_eq (h : Patched pod app role settings container patched)
    (hne : settings.sparkConf.variableName ≠ settings.hadoopConf.variableName)
    (hconf : conf ∈ Changes.configurations app settings) :
    patched.entry? container conf.2.variableName =
      ((ApplicationSpec.nonEmpty conf.1).map fun _ =>
        environmentVariable conf.2.variableName conf.2.path).or
        (pod.entry? container conf.2.variableName) := by
  rw [Pod.entry?, h.itemsIn_eq .env, Pod.lastNamed_append, Changes.lastNamed_additions hne hconf]
  rfl

/-- The config map of a configuration is mounted in its directory. -/
theorem finds (h : Patched pod app role settings container patched)
    (hne : settings.sparkConf.variableName ≠ settings.hadoopConf.variableName)
    (hconf : conf ∈ Changes.configurations app settings) {configMap : String}
    (hgiven : conf.1 = some configMap) (hnonempty : configMap ≠ "") :
    patched.Finds container configMap conf.2 where
  entry_eq := by
    refine ⟨environmentVariable conf.2.variableName conf.2.path, ?_, rfl, rfl⟩
    rw [h.entry?_eq hne hconf, hgiven]
    simp [ApplicationSpec.nonEmpty, hnonempty]
  mounted := by
    have hmem := Changes.mem_confDirectories hconf hgiven hnonempty
    refine ⟨readOnlyMount conf.2.volume conf.2.path, ?_, rfl, rfl,
      configVolume configMap conf.2.volume, ?_, rfl, rfl⟩
    · rw [h.itemsIn_eq .volumeMounts]
      exact List.mem_append_right _ (List.mem_append_right _ (List.mem_map_of_mem hmem))
    · rw [h.itemsIn_eq .volumes]
      exact List.mem_append_right _ (List.mem_append_right _ (List.mem_map_of_mem hmem))

end Patched

/-- Let the variables of the Spark and the Hadoop configuration have different names. For each of
the two, the Spark container of a patched pod finds the config map that the application gives; where
the application gives none, or an empty name, the container has the variable that it had. -/
theorem finds_derivePatch {pod : Pod} {app : Application} {role : Role} {settings : Settings}
    {ops : Patch} (h : derivePatch pod app role settings = .ok ops)
    (hne : settings.sparkConf.variableName ≠ settings.hadoopConf.variableName) :
    ∃ container, pod.sparkContainer settings = .ok container ∧
      ∃ patched : Pod, Patch.run? ops pod.json = some patched.json ∧
        Reader.value Document.read patched.json = some patched ∧
        ∀ conf ∈ [(app.spec.sparkConfigMap, settings.sparkConf),
            (app.spec.hadoopConfigMap, settings.hadoopConf)],
          (∀ configMap, conf.1 = some configMap → configMap ≠ "" →
            patched.Finds container configMap conf.2) ∧
          (conf.1 = none ∨ conf.1 = some "" →
            patched.entry? container conf.2.variableName =
              pod.entry? container conf.2.variableName) := by
  obtain ⟨container, patched, hpatched, hrun, hread⟩ := exists_patched h
  refine ⟨container, hpatched.sparkContainer_eq, patched, hrun, hread, fun conf hconf => ⟨?_, ?_⟩⟩
  · exact fun configMap hgiven hnonempty => hpatched.finds hne hconf hgiven hnonempty
  · intro hnone
    have hempty : ApplicationSpec.nonEmpty conf.1 = none := by
      rcases hnone with he | he <;> simp [ApplicationSpec.nonEmpty, he]
    rw [hpatched.entry?_eq hne hconf, hempty]
    rfl

/-- A driver that has the Spark variable twice and the Hadoop variable once. -/
def configuredDriver : Pod :=
  .ofSource (.ofJson (.object [("spec", .object [
    ("containers", .array [.object [
      ("env", .array [environmentVariable "SPARK_CONF_DIR" "/a",
        environmentVariable "HADOOP_CONF_DIR" "/b", environmentVariable "SPARK_CONF_DIR" "/c"]),
      ("name", .string "spark-kubernetes-driver")]])])]))

/-- The sample application has a Spark configuration only. -/
theorem finds_derivePatch_sample :
    ∃ ops, derivePatch configuredDriver sampleApplication .driver {} = .ok ops ∧
      ∃ patched : Pod, Patch.run? ops configuredDriver.json = some patched.json ∧
        patched.Finds 0 "pi-conf" .spark ∧
        patched.entry? 0 "HADOOP_CONF_DIR" = some (environmentVariable "HADOOP_CONF_DIR" "/b") := by
  obtain ⟨container, hcontainer, patched, hrun, -, hconf⟩ := finds_derivePatch
    (rfl : derivePatch configuredDriver sampleApplication .driver {} = .ok _) (by decide)
  cases hcontainer
  refine ⟨_, rfl, patched, hrun, ?_, ?_⟩
  · exact (hconf _ List.mem_cons_self).1 _ rfl (by decide)
  · exact (hconf _ (List.mem_cons_of_mem _ List.mem_cons_self)).2 (.inl rfl)

end SparkAdmission
