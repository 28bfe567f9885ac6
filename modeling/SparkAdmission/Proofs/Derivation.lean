import SparkAdmission.Derivation
import SparkAdmission.Proofs.PodDocument

/-!
# What a derived patch does

`Changes.additions` and `Changes.given` say list by list and setting by setting what an application
adds to a pod, without the order in which the operations are made. The operations of a patch that is
derived apply to the document of the pod one after the other, and do exactly that
(`run?_derivePatch`). Their values are in canonical form (`canonical_derivePatch`), as the pieces of
an application are.
-/

namespace SparkAdmission

open Json Shape

namespace Changes

/-! ### What an application adds -/

/-- The mounts of the role whose volume is declared, each with that volume. -/
def declaredMounts (app : Application) (role : Role) : List (Volume × VolumeMount) :=
  (app.spec.customization role).volumeMounts.filterMap fun mount =>
    (app.spec.volume? mount.volumeName).map (·, mount)

/-- The configuration directories for which there is a config map: Spark, then Hadoop. -/
def confDirectories (app : Application) (settings : Settings) : List (String × ConfDirectory) :=
  (app.spec.sparkConf?.map (·, settings.sparkConf)).toList ++
    (app.spec.hadoopConf?.map (·, settings.hadoopConf)).toList

/-- The items that an application adds to the lists of a pod of that role. -/
def additions (app : Application) (role : Role) (settings : Settings) : PodList → List Json
  | .ownerReferences => if role.isDriver then [app.ownerReference] else []
  | .volumes =>
    (declaredMounts app role).map (·.1.json) ++
      (app.spec.customization role).configMounts.map (fun m =>
        configVolume m.configMap (configVolumeName m.configMap settings.maxNameLength)) ++
      (confDirectories app settings).map fun c => configVolume c.1 c.2.volume
  | .volumeMounts =>
    (declaredMounts app role).map (·.2.json) ++
      (app.spec.customization role).configMounts.map (fun m =>
        readOnlyMount (configVolumeName m.configMap settings.maxNameLength) m.path) ++
      (confDirectories app settings).map fun c => readOnlyMount c.2.volume c.2.path
  | .env => (confDirectories app settings).map fun c =>
    environmentVariable c.2.variableName c.2.path
  | .tolerations => (app.spec.customization role).tolerations.map (·.json)

/-- The setting that an application declares for the pods of a role. -/
def declared (app : Application) (role : Role) : PodSetting → Option Json
  | .affinity => (app.spec.customization role).affinity.map (·.json)
  | .securityContext => (app.spec.customization role).security.map (·.json)

/-- The setting that a pod is given: the declared one, where it has none. -/
def given (pod : Pod) (app : Application) (role : Role) (s : PodSetting) : Option Json :=
  if pod.hasSetting s.name then none else declared app role s

/-- The changes that add items, in front of those that make settings. -/
def items (app : Application) (role : Role) (settings : Settings) : List Change :=
  ownerReference app role ++ volumes app role ++ configMounts app role settings ++
    sparkConf app settings ++ hadoopConf app settings ++ tolerations app role

variable {pod : Pod} {app : Application} {role : Role} {settings : Settings}

theorem all_eq_items_append :
    all pod app role settings = items app role settings ++
      ((given pod app role .affinity).map (Change.setting .affinity)).toList ++
        ((given pod app role .securityContext).map (Change.setting .securityContext)).toList := by
  have hsetting : ∀ s : PodSetting, setting pod s (declared app role s) =
      ((given pod app role s).map (Change.setting s)).toList := by
    intro s
    rw [setting, given]
    split <;> rfl
  rw [← hsetting, ← hsetting]
  rfl

theorem volumes_eq_flatMap :
    volumes app role = (declaredMounts app role).flatMap fun m => mounted m.1.json m.2.json := by
  unfold volumes declaredMounts
  induction (app.spec.customization role).volumeMounts with
  | nil => rfl
  | cons mount mounts ih =>
    rw [List.flatMap_cons, ih, List.filterMap_cons]
    cases app.spec.volume? mount.volumeName <;> rfl

theorem sparkConf_append_hadoopConf :
    sparkConf app settings ++ hadoopConf app settings =
      (confDirectories app settings).flatMap fun c =>
        mounted (configVolume c.1 c.2.volume) (readOnlyMount c.2.volume c.2.path) ++
          [.item .env (environmentVariable c.2.variableName c.2.path)] := by
  unfold sparkConf hadoopConf confDirectories
  cases app.spec.sparkConf? <;> cases app.spec.hadoopConf? <;> rfl

theorem addedTo_mounted {α : Type} (xs : List α) (volume mount : α → Json) (list : PodList) :
    (xs.flatMap fun x => mounted (volume x) (mount x)).flatMap (Change.addedTo list) =
      match list with
      | .volumes => xs.map volume
      | .volumeMounts => xs.map mount
      | _ => [] := by
  induction xs with
  | nil => cases list <;> rfl
  | cons x xs ih =>
    rw [List.flatMap_cons, List.flatMap_append, ih]
    cases list <;> rfl

theorem addedTo_directories {α : Type} (xs : List α) (volume mount env : α → Json)
    (list : PodList) :
    (xs.flatMap fun x => mounted (volume x) (mount x) ++ [.item .env (env x)]).flatMap
        (Change.addedTo list) =
      match list with
      | .volumes => xs.map volume
      | .volumeMounts => xs.map mount
      | .env => xs.map env
      | _ => [] := by
  induction xs with
  | nil => cases list <;> rfl
  | cons x xs ih =>
    rw [List.flatMap_cons, List.flatMap_append, ih]
    cases list <;> rfl

theorem addedTo_tolerations (list : PodList) :
    (tolerations app role).flatMap (Change.addedTo list) =
      match list with
      | .tolerations => (app.spec.customization role).tolerations.map (·.json)
      | _ => [] := by
  unfold tolerations
  induction (app.spec.customization role).tolerations with
  | nil => cases list <;> rfl
  | cons t ts ih =>
    rw [List.map_cons, List.flatMap_cons, ih]
    cases list <;> rfl

theorem addedTo_ownerReference (list : PodList) :
    (ownerReference app role).flatMap (Change.addedTo list) =
      match list with
      | .ownerReferences => if role.isDriver then [app.ownerReference] else []
      | _ => [] := by
  cases role <;> cases list <;> rfl

theorem addedTo_items (list : PodList) :
    (items app role settings).flatMap (Change.addedTo list) =
      additions app role settings list := by
  have hitems : items app role settings = ownerReference app role ++ volumes app role ++
      configMounts app role settings ++ (sparkConf app settings ++ hadoopConf app settings) ++
        tolerations app role := by
    simp only [items, List.append_assoc]
  simp only [hitems, List.flatMap_append, volumes_eq_flatMap, sparkConf_append_hadoopConf,
    configMounts, addedTo_mounted, addedTo_directories, addedTo_tolerations,
    addedTo_ownerReference]
  cases list <;> simp [additions]

theorem isItem_of_mem_items {change : Change} (h : change ∈ items app role settings) :
    ∃ list value, change = .item list value := by
  have hmounted : ∀ {volume mount : Json}, change ∈ mounted volume mount →
      ∃ list value, change = .item list value := by
    intro volume mount h
    rcases List.mem_cons.1 h with rfl | h
    · exact ⟨_, _, rfl⟩
    · exact ⟨_, _, List.mem_singleton.1 h⟩
  have hdirectory : ∀ {configMap : Option String} {directory : ConfDirectory},
      change ∈ confDirectory configMap directory → ∃ list value, change = .item list value := by
    intro configMap directory h
    cases configMap with
    | none => cases h
    | some name =>
      rcases List.mem_append.1 h with h | h
      · exact hmounted h
      · exact ⟨_, _, List.mem_singleton.1 h⟩
  simp only [items, List.mem_append] at h
  rcases h with ((((h | h) | h) | h) | h) | h
  · cases role with
    | driver => exact ⟨_, _, List.mem_singleton.1 h⟩
    | executor => cases h
  · rw [volumes_eq_flatMap] at h
    obtain ⟨m, -, h⟩ := List.mem_flatMap.1 h
    exact hmounted h
  · obtain ⟨m, -, h⟩ := List.mem_flatMap.1 h
    exact hmounted h
  · exact hdirectory h
  · exact hdirectory h
  · obtain ⟨t, -, rfl⟩ := List.mem_map.1 h
    exact ⟨_, _, rfl⟩

/-- What the changes give to a setting. -/
theorem givenTo_all (s : PodSetting) :
    (all pod app role settings).flatMap (Change.givenTo s) = (given pod app role s).toList := by
  have hitems : (items app role settings).flatMap (Change.givenTo s) = [] := by
    rw [List.flatMap_eq_nil_iff]
    intro change h
    obtain ⟨list, value, rfl⟩ := isItem_of_mem_items h
    rfl
  rw [all_eq_items_append, List.flatMap_append, List.flatMap_append, hitems, List.nil_append]
  cases s with
  | affinity =>
    cases given pod app role .affinity <;> cases given pod app role .securityContext <;> rfl
  | securityContext =>
    cases given pod app role .affinity <;> cases given pod app role .securityContext <;> rfl

/-- What the changes add to a list. -/
theorem addedTo_all (list : PodList) :
    (all pod app role settings).flatMap (Change.addedTo list) =
      additions app role settings list := by
  rw [all_eq_items_append, List.flatMap_append, List.flatMap_append, addedTo_items]
  cases given pod app role .affinity <;> cases given pod app role .securityContext <;>
    simp [Change.addedTo]

theorem mem_additions_of_mem_all {list : PodList} {value : Json}
    (h : .item list value ∈ all pod app role settings) :
    value ∈ additions app role settings list := by
  have hadded : value ∈ (all pod app role settings).flatMap (Change.addedTo list) :=
    List.mem_flatMap.2 ⟨_, h, by simp [Change.addedTo]⟩
  rwa [addedTo_all] at hadded

theorem given_of_mem_all {s : PodSetting} {value : Json}
    (h : .setting s value ∈ all pod app role settings) : given pod app role s = some value := by
  have hgiven : value ∈ (all pod app role settings).flatMap (Change.givenTo s) :=
    List.mem_flatMap.2 ⟨_, h, by simp [Change.givenTo]⟩
  rwa [givenTo_all, Option.mem_toList] at hgiven

/-- The document with the settings that the pod is given. -/
def withSettings (pod : Pod) (app : Application) (role : Role) (doc : Json) : Json :=
  [PodSetting.affinity, .securityContext].foldl
    (fun doc s => (given pod app role s).elim doc (doc.put s.place)) doc

/-- All changes give every list its items and then the pod its settings. -/
theorem applyAll_all (container : Nat) (doc : Json) :
    Change.applyAll container doc (all pod app role settings) =
      withSettings pod app role
        (PodLists.growLists container (additions app role settings) PodList.all doc) := by
  have hitems : Change.applyAll container doc (items app role settings) =
      PodLists.growLists container (additions app role settings) PodList.all doc := by
    rw [PodLists.applyAll_items fun change h => isItem_of_mem_items h]
    simp only [addedTo_items]
  rw [all_eq_items_append, Change.applyAll_append, Change.applyAll_append, hitems, withSettings,
    List.foldl_cons, List.foldl_cons, List.foldl_nil]
  cases given pod app role .affinity <;> cases given pod app role .securityContext <;> rfl

/-! ### The changes conform -/

theorem conforms_ownerReference (app : Application) :
    Kubernetes.ownerReference.Conforms app.ownerReference := conforms_of_normalForm_eq rfl

theorem conforms_configVolume (configMap volume : String) :
    Kubernetes.volume.Conforms (configVolume configMap volume) := conforms_of_normalForm_eq rfl

theorem conforms_readOnlyMount (volume path : String) :
    Kubernetes.volumeMount.Conforms (readOnlyMount volume path) := conforms_of_normalForm_eq rfl

theorem conforms_environmentVariable (name value : String) :
    Kubernetes.envVar.Conforms (environmentVariable name value) := conforms_of_normalForm_eq rfl

/-- Whatever is added to a list has the shape of its items. -/
theorem conforms_of_mem_additions {list : PodList} {j : Json}
    (h : j ∈ additions app role settings list) : list.item.Conforms j := by
  cases list with
  | ownerReferences =>
    cases role with
    | driver =>
      rw [List.mem_singleton.1 h]
      exact conforms_ownerReference app
    | executor => cases h
  | volumes =>
    rcases List.mem_append.1 h with h | h
    · rcases List.mem_append.1 h with h | h
      · obtain ⟨m, -, rfl⟩ := List.mem_map.1 h
        exact m.1.conforms
      · obtain ⟨m, -, rfl⟩ := List.mem_map.1 h
        exact conforms_configVolume _ _
    · obtain ⟨c, -, rfl⟩ := List.mem_map.1 h
      exact conforms_configVolume _ _
  | volumeMounts =>
    rcases List.mem_append.1 h with h | h
    · rcases List.mem_append.1 h with h | h
      · obtain ⟨m, -, rfl⟩ := List.mem_map.1 h
        exact m.2.conforms
      · obtain ⟨m, -, rfl⟩ := List.mem_map.1 h
        exact conforms_readOnlyMount _ _
    · obtain ⟨c, -, rfl⟩ := List.mem_map.1 h
      exact conforms_readOnlyMount _ _
  | env =>
    obtain ⟨c, -, rfl⟩ := List.mem_map.1 h
    exact conforms_environmentVariable _ _
  | tolerations =>
    obtain ⟨t, -, rfl⟩ := List.mem_map.1 h
    exact t.conforms

theorem conforms_of_declared {s : PodSetting} {j : Json} (h : declared app role s = some j) :
    s.shape.Conforms j := by
  cases s with
  | affinity =>
    obtain ⟨d, -, rfl⟩ := Option.map_eq_some_iff.1 h
    exact d.conforms
  | securityContext =>
    obtain ⟨d, -, rfl⟩ := Option.map_eq_some_iff.1 h
    exact d.conforms

theorem conforms_of_mem_all {change : Change} (h : change ∈ all pod app role settings) :
    change.Conforms := by
  cases change with
  | item list value => exact conforms_of_mem_additions (mem_additions_of_mem_all h)
  | setting s value =>
    have hgiven := given_of_mem_all h
    rw [given] at hgiven
    split at hgiven
    · cases hgiven
    · exact conforms_of_declared hgiven

/-- The place is apart from every list that gets items and from every setting that is made. -/
def Untouched (pod : Pod) (app : Application) (role : Role) (settings : Settings)
    (container : Nat) (q : List String) : Prop :=
  (∀ list, additions app role settings list ≠ [] → Apart (PodLists.place container list) q) ∧
    ∀ s, given pod app role s ≠ none → Apart s.place q

theorem apart_of_untouched {container : Nat} {q : List String}
    (h : Untouched pod app role settings container q) {change : Change}
    (hc : change ∈ all pod app role settings) : Apart (change.place container) q := by
  cases change with
  | item list value => exact h.1 list (List.ne_nil_of_mem (mem_additions_of_mem_all hc))
  | setting s value => exact h.2 s (given_of_mem_all hc ▸ Option.some_ne_none value)

end Changes

/-! ### What the changes make of a document -/

namespace HasPlaces

variable {pod : Pod} {container : Nat} {raw : Json} {app : Application} {role : Role}
  {settings : Settings}

/-- Every list has the items of the application behind its own. -/
theorem follow?_list (h : HasPlaces pod container raw) (list : PodList) :
    (Change.applyAll container raw (Changes.all pod app role settings)).follow?
        (PodLists.place container list) =
      extended (Changes.additions app role settings list)
        (raw.follow? (PodLists.place container list)) := by
  rw [Change.follow?_applyAll_list (h.isMember_place list), Changes.addedTo_all]

/-- Every setting has the value that the pod is given, if it is given one. -/
theorem follow?_setting (h : HasPlaces pod container raw) (s : PodSetting) :
    (Change.applyAll container raw (Changes.all pod app role settings)).follow? s.place =
      (Changes.given pod app role s).or (raw.follow? s.place) := by
  rw [Change.follow?_applyAll_setting (h.isMember_setting s), Changes.givenTo_all]
  cases Changes.given pod app role s <;> rfl

end HasPlaces

/-- Nothing else is changed. -/
theorem Changes.follow?_of_untouched {pod : Pod} {container : Nat} {raw : Json}
    {app : Application} {role : Role} {settings : Settings} {q : List String}
    (h : Untouched pod app role settings container q) :
    (Change.applyAll container raw (all pod app role settings)).follow? q = raw.follow? q :=
  Change.follow?_applyAll_of_apart fun _ hc => apart_of_untouched h hc

theorem Pod.hasSetting_eq (pod : Pod) (s : PodSetting) :
    pod.hasSetting s.name = (pod.json.follow? s.place).isSome := by
  have hname : ∀ name ∈ s.place, index? name = none := by
    cases s <;> decide
  rw [follow?_eq_at? hname]
  rfl

/-- A setting is given where the pod has none. -/
theorem Changes.given_or (pod : Pod) (app : Application) (role : Role) (s : PodSetting) :
    (given pod app role s).or (pod.json.follow? s.place) =
      (pod.json.follow? s.place).or (declared app role s) := by
  rw [given, Pod.hasSetting_eq]
  cases pod.json.follow? s.place with
  | none => cases declared app role s <;> rfl
  | some value => rfl

/-! ### Derived patches -/

/-- Whatever is derived can be written, so only the Spark container decides whether there are
operations. -/
theorem derivePatch_eq_map (pod : Pod) (app : Application) (role : Role) (settings : Settings) :
    derivePatch pod app role settings = (pod.sparkContainer settings).map fun container =>
      ((PodLists.ofPod pod container).performAll (Changes.all pod app role settings)).1 := by
  have hwritten : ∀ lists : PodLists, lists.attemptAll (Changes.all pod app role settings) =
      .ok (lists.performAll (Changes.all pod app role settings)) :=
    PodLists.attemptAll_of_conforms fun _ hc => Changes.conforms_of_mem_all hc
  simp only [derivePatch, hwritten]
  cases pod.sparkContainer settings <;> rfl

theorem derivePatch_eq_ok_iff {pod : Pod} {app : Application} {role : Role} {settings : Settings}
    {ops : Patch} :
    derivePatch pod app role settings = .ok ops ↔
      ∃ container, pod.sparkContainer settings = .ok container ∧
        ops = ((PodLists.ofPod pod container).performAll
          (Changes.all pod app role settings)).1 := by
  rw [derivePatch_eq_map, map_eq_ok]
  simp only [eq_comm]

theorem derivePatch_eq_error_iff {pod : Pod} {app : Application} {role : Role}
    {settings : Settings} {e : Error} :
    derivePatch pod app role settings = .error e ↔ pod.sparkContainer settings = .error e := by
  rw [derivePatch_eq_map]
  cases pod.sparkContainer settings with
  | error e' => simp [Except.map]
  | ok container => exact ⟨nofun, nofun⟩

/-- The operations for a pod apply to every raw document of the pod, and do to it what the
changes say. -/
theorem HasPlaces.run?_performAll {pod : Pod} {container : Nat} {raw : Json}
    (h : HasPlaces pod container raw) (changes : List Change) :
    Patch.run? ((PodLists.ofPod pod container).performAll changes).1 raw =
      some (Change.applyAll container raw changes) :=
  h.tracks.run?_performAll changes

/-- The operations of a derived patch apply to the document of the pod. Every list has the items of
the application behind its own, a setting that the pod has not has the declared value, and nothing
else is changed. -/
theorem run?_derivePatch {pod : Pod} {app : Application} {role : Role} {settings : Settings}
    {ops : Patch} (h : derivePatch pod app role settings = .ok ops) :
    ∃ container, pod.sparkContainer settings = .ok container ∧
      ∃ doc, Patch.run? ops pod.json = some doc ∧
        doc = Changes.withSettings pod app role (PodLists.growLists container
          (Changes.additions app role settings) PodList.all pod.json) ∧
        (∀ list, doc.follow? (PodLists.place container list) =
          extended (Changes.additions app role settings list)
            (pod.json.follow? (PodLists.place container list))) ∧
        (∀ s : PodSetting, doc.follow? s.place =
          (pod.json.follow? s.place).or (Changes.declared app role s)) ∧
        ∀ q, Changes.Untouched pod app role settings container q →
          doc.follow? q = pod.json.follow? q := by
  obtain ⟨container, hcontainer, rfl⟩ := derivePatch_eq_ok_iff.1 h
  have hplaces := hasPlaces_json (Pod.lt_of_sparkContainer hcontainer)
  refine ⟨container, hcontainer, _, hplaces.run?_performAll _, Changes.applyAll_all _ _,
    hplaces.follow?_list, fun s => ?_, fun q hq => Changes.follow?_of_untouched hq⟩
  rw [hplaces.follow?_setting, Changes.given_or]

/-! ### Values of derived patches -/

theorem Change.canonical_perform {change : Change} (h : change.Conforms) (lists : PodLists) :
    (lists.perform change).1.value.Canonical := by
  cases change with
  | item list value =>
    have hvalue : value.Canonical :=
      (Shape.reads_of_conforms list.item list.isSorted_item h).canonical
    change (Placement.value value (.ofLength (lists.get list).length)).Canonical
    cases Placement.ofLength (lists.get list).length with
    | create => exact .array (List.forall_mem_singleton.2 hvalue)
    | append => exact hvalue
  | setting s value => exact (Shape.reads_of_conforms s.shape s.isSorted_shape h).canonical

/-- Changes that conform put values in canonical form. -/
theorem Change.canonical_performAll {changes : List Change}
    (h : ∀ change ∈ changes, change.Conforms) (lists : PodLists) :
    ∀ op ∈ (lists.performAll changes).1, op.value.Canonical := by
  induction changes generalizing lists with
  | nil => exact nofun
  | cons change changes ih =>
    rw [List.forall_mem_cons] at h
    rw [PodLists.performAll_cons]
    exact List.forall_mem_cons.2 ⟨canonical_perform h.1 lists, ih h.2 _⟩

theorem canonical_derivePatch {pod : Pod} {app : Application} {role : Role} {settings : Settings}
    {ops : Patch} (h : derivePatch pod app role settings = .ok ops) :
    ∀ op ∈ ops, op.value.Canonical := by
  obtain ⟨container, -, rfl⟩ := derivePatch_eq_ok_iff.1 h
  exact Change.canonical_performAll (fun _ hc => Changes.conforms_of_mem_all hc) _

/-! ### A driver -/

/-- The raw document of a driver whose second container is the Spark container. Of its lists one is
`null`, one empty, one filled and two missing. -/
def sampleRaw : Json :=
  .object [
    ("extra", .bool true),
    ("metadata", .object [
      ("labels", .object [(roleLabel, .string "driver"), (applicationLabel, .string "pi")]),
      ("name", .string "pi-driver"), ("ownerReferences", .null)]),
    ("spec", .object [
      ("containers", .array [
        .object [("name", .string "sidecar")],
        .object [("env", .array [environmentVariable "LANG" "C"]),
          ("name", .string "spark-kubernetes-driver")]]),
      ("tolerations", .array [])])]

/-- The pod that is read from the document. -/
def samplePod : Pod := .ofSource (.ofJson sampleRaw)

/-- An application with a volume, a mount of it, a config map, a toleration, an affinity and a
Spark configuration. -/
def sampleApplication : Application where
  metadata := .ofSource (.ofJson (.object [("name", .string "pi"), ("uid", .string "7")]))
  spec := {
    volumes := [.ofSource (.ofJson (.object [("name", .string "data")]))]
    driver := {
      volumeMounts := [
        .ofSource (.ofJson (readOnlyMount "data" "/data")),
        .ofSource (.ofJson (readOnlyMount "missing" "/missing"))]
      configMounts := [⟨"rules", "/etc/rules"⟩]
      tolerations := [.ofSource (.ofJson (.object [("key", .string "spot")]))]
      affinity := some (.ofSource (.ofJson (.object []))) }
    sparkConfigMap := some "pi-conf" }

theorem run?_derivePatch_sample :
    ∃ ops, derivePatch samplePod sampleApplication .driver {} = .ok ops ∧
      ∃ doc, Patch.run? ops samplePod.json = some doc ∧
        doc.follow? ["spec", "containers", "1", "env"] = some (.array [
          environmentVariable "LANG" "C", environmentVariable "SPARK_CONF_DIR" "/etc/spark/conf"]) ∧
        doc.follow? ["spec", "tolerations", "0", "key"] = some (.string "spot") := by
  obtain ⟨container, hcontainer, doc, hrun, hdoc, hlist, -⟩ := run?_derivePatch
    (rfl : derivePatch samplePod sampleApplication .driver {} = .ok _)
  cases hcontainer
  exact ⟨_, rfl, doc, hrun, hlist .env, by rw [hdoc]; rfl⟩

end SparkAdmission
