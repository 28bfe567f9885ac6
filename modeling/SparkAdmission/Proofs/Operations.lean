import SparkAdmission.Proofs.Derivation

/-!
# The operations of a derived patch

Which operations a patch consists of, one by one. A pod gets a patch exactly when one of its
containers has the name of a Spark container, and the first such container counts, whatever the
application and the role (`Pod.sparkContainer_eq_ok_iff`, `Pod.sparkContainer_eq_error_iff`). The
operation of a change depends only on whether its list is empty so far: in the pod, and among the
changes in front of it (`Counts.performAll_eq_mapIdx`). Seen list by list, only the first item of a
list that the pod has not, or has empty, creates the list (`Counts.filter_performAll`).
`derivePatch_listed` puts these together.
-/

namespace SparkAdmission

open Json

/-! ### The Spark container -/

/-- The first index of an item that is searched for. -/
theorem findIdx?_eq_some_iff_getElem? {α : Type} {xs : List α} {p : α → Bool} {i : Nat} :
    xs.findIdx? p = some i ↔
      (∃ x, xs[i]? = some x ∧ p x = true) ∧ ∀ k < i, ∀ x, xs[k]? = some x → ¬ p x = true := by
  rw [List.findIdx?_eq_some_iff_getElem]
  constructor
  · rintro ⟨hi, hx, hbefore⟩
    refine ⟨⟨_, List.getElem?_eq_getElem hi, hx⟩, fun k hk x hxk => ?_⟩
    obtain ⟨hlt, rfl⟩ := List.getElem?_eq_some_iff.1 hxk
    exact hbefore k hk
  · rintro ⟨⟨x, hxi, hx⟩, hbefore⟩
    obtain ⟨hi, rfl⟩ := List.getElem?_eq_some_iff.1 hxi
    exact ⟨hi, hx, fun k hk => hbefore k hk _ (List.getElem?_eq_getElem (Nat.lt_trans hk hi))⟩

namespace Pod

variable {pod : Pod} {settings : Settings}

/-- The Spark container is the first one that has one of the names. -/
theorem sparkContainer_eq_ok_iff {i : Nat} :
    pod.sparkContainer settings = .ok i ↔
      (∃ c, pod.containers[i]? = some c ∧ containerName c ∈ settings.containerNames) ∧
        ∀ k < i, ∀ c, pod.containers[k]? = some c →
          containerName c ∉ settings.containerNames := by
  have hfind : pod.sparkContainer settings = .ok i ↔
      pod.containers.findIdx? (fun c => settings.containerNames.contains (containerName c)) =
        some i := by
    unfold sparkContainer
    split
    · rename_i k hk
      rw [hk]
      exact ⟨fun h => congrArg some (Except.ok.inj h), fun h => congrArg _ (Option.some.inj h)⟩
    · rename_i hk
      rw [hk]
      exact ⟨nofun, nofun⟩
  rw [hfind, findIdx?_eq_some_iff_getElem?]
  simp only [List.contains_iff_mem]

/-- Without a container of one of the names there is no Spark container, and only then. -/
theorem sparkContainer_eq_error_iff {e : Error} :
    pod.sparkContainer settings = .error e ↔
      (∀ c ∈ pod.containers, containerName c ∉ settings.containerNames) ∧
        e = .containerNotFound (pod.name?.getD "") settings.containerNames := by
  unfold sparkContainer
  split
  · rename_i i hi
    obtain ⟨hlt, hname, -⟩ := List.findIdx?_eq_some_iff_getElem.1 hi
    exact ⟨nofun, fun h => absurd (by simpa using hname) (h.1 _ (List.getElem_mem hlt))⟩
  · rename_i hnone
    have habsent : ∀ c ∈ pod.containers, containerName c ∉ settings.containerNames := by
      simpa using List.findIdx?_eq_none_iff.1 hnone
    exact ⟨fun h => ⟨habsent, (Except.error.inj h).symm⟩, fun h => congrArg _ h.2.symm⟩

end Pod

/-! ### Operations on a list -/

namespace Add

/-- The operation that makes an item the only one of a new list. -/
def create (list : List String) (item : Json) : Add := ⟨⟨list⟩, .array [item]⟩

/-- The operation that puts an item behind the last one of a list. -/
def append (list : List String) (item : Json) : Add := ⟨⟨list ++ ["-"]⟩, item⟩

/-- The operation that puts an item into a list that has these items. -/
def toList (list : List String) (present : List Json) (item : Json) : Add :=
  if present.isEmpty then create list item else append list item

/-- Whether the operation takes place at the list or inside it. -/
def isIn (list : List String) (op : Add) : Bool := list.isPrefixOf op.path.tokens

theorem isIn_toList (list : List String) (present : List Json) (item : Json) :
    (toList list present item).isIn list = true := by
  unfold toList
  split <;> simp [isIn, create, append]

end Add

/-- The operations that put items into a list that has these items: the first one creates the list
if it is empty, all others append. -/
def Patch.growth (list : List String) (present : List Json) : List Json → Patch
  | [] => []
  | item :: items => .toList list present item :: items.map (.append list)

theorem Patch.growth_of_ne_nil {present : List Json} (h : present ≠ []) (list : List String)
    (items : List Json) : growth list present items = items.map (.append list) := by
  cases items with
  | nil => rfl
  | cons item items => rw [growth, Add.toList, if_neg (by simpa using h), List.map_cons]

/-- No place at or inside one of two places apart is at or inside the other. -/
theorem Json.Apart.not_isPrefix {p q : List String} (h : Apart p q) (rest : List String) :
    ¬ q <+: p ++ rest := by
  induction p generalizing q with
  | nil => exact absurd h (not_apart_nil q)
  | cons a p ih =>
    cases q with
    | nil => exact absurd h (not_apart_nil_right _)
    | cons b q =>
      rw [List.cons_append, List.cons_prefix_cons]
      rintro ⟨rfl, hprefix⟩
      exact ih ((apart_cons.1 h).resolve_left (not_not_intro rfl)) hprefix

namespace GrowingList

theorem addition_eq_toList (list : List String) (present : List Json) (item : Json) :
    addition ⟨⟨list⟩, present.length⟩ item = .toList list present item := by
  cases present <;> rfl

end GrowingList

/-! ### Operations of changes -/

namespace Change

/-- The operation of a change to a pod whose lists have these items. -/
def operation (container : Nat) (items : PodList → List Json) : Change → Add
  | .item list value => .toList (PodLists.place container list) (items list) value
  | .setting s value => ⟨⟨s.place⟩, value⟩

theorem operation_path (container : Nat) (items : PodList → List Json) (change : Change) :
    ∃ rest, (change.operation container items).path.tokens = change.place container ++ rest := by
  cases change with
  | item list value =>
    rw [operation, Add.toList]
    split
    · exact ⟨[], (List.append_nil _).symm⟩
    · exact ⟨["-"], rfl⟩
  | setting s value => exact ⟨[], (List.append_nil _).symm⟩

/-- An operation is not in a list to which its change adds nothing. -/
theorem isIn_operation_of_apart {container : Nat} {change : Change} {list : List String}
    (h : Apart (change.place container) list) (items : PodList → List Json) :
    (change.operation container items).isIn list = false := by
  obtain ⟨rest, hrest⟩ := change.operation_path container items
  rw [Add.isIn, hrest, Bool.eq_false_iff, ne_eq, List.isPrefixOf_iff_prefix]
  exact h.not_isPrefix rest

end Change

/-- Every list is at its place, and as many items are counted. -/
def Counts (lists : PodLists) (container : Nat) (items : PodList → List Json) : Prop :=
  ∀ list, lists.get list = ⟨⟨PodLists.place container list⟩, (items list).length⟩

namespace Counts

variable {lists : PodLists} {container : Nat} {items : PodList → List Json}

theorem ofPod (pod : Pod) (container : Nat) :
    Counts (PodLists.ofPod pod container) container (PodLists.itemsIn pod container) :=
  fun _ => rfl

theorem perform_fst (h : Counts lists container items) (change : Change) :
    (lists.perform change).1 = change.operation container items := by
  cases change with
  | item list value =>
    have hadd : (lists.perform (.item list value)).1 = (lists.get list).addition value := rfl
    rw [hadd, h list, GrowingList.addition_eq_toList, Change.operation]
  | setting s value => rfl

/-- A change is counted in the list that it adds to. -/
theorem perform (h : Counts lists container items) (change : Change) :
    Counts (lists.perform change).2 container (fun list => items list ++ change.addedTo list) := by
  intro list
  rcases change.place_list container list with ⟨-, he⟩ | ⟨value, rfl⟩
  · simp only [he, List.append_nil]
    rw [Tracks.get_perform_of_addedTo_eq_nil he, h list]
  · simp [PodLists.perform, GrowingList.push, Change.addedTo, h list]

/-- Every operation is that of its change, for the items that the lists have by then. -/
theorem performAll_eq_mapIdx (h : Counts lists container items) (changes : List Change) :
    (lists.performAll changes).1 = changes.mapIdx fun i change =>
      change.operation container fun list =>
        items list ++ (changes.take i).flatMap (Change.addedTo list) := by
  induction changes generalizing lists items with
  | nil => rfl
  | cons change changes ih =>
    rw [PodLists.performAll_cons, List.mapIdx_cons, h.perform_fst, ih (h.perform change)]
    simp

/-- The operations on a list are those of its growth, wherever they stand among the others. -/
theorem filter_performAll (h : Counts lists container items) (changes : List Change)
    (list : PodList) :
    (lists.performAll changes).1.filter (·.isIn (PodLists.place container list)) =
      Patch.growth (PodLists.place container list) (items list)
        (changes.flatMap (Change.addedTo list)) := by
  induction changes generalizing lists items with
  | nil => rfl
  | cons change changes ih =>
    rw [PodLists.performAll_cons, h.perform_fst, List.filter_cons, ih (h.perform change)]
    rcases change.place_list container list with ⟨hp, he⟩ | ⟨value, rfl⟩
    -- only a change of this very list makes an operation there, and it leaves the list filled
    · rw [if_neg (by simp [Change.isIn_operation_of_apart hp]), List.flatMap_cons, he,
        List.append_nil, List.nil_append]
    · have hadded : (Change.item list value).addedTo list = [value] := if_pos rfl
      rw [Change.operation, if_pos (Add.isIn_toList ..), List.flatMap_cons, hadded,
        List.singleton_append, Patch.growth, Patch.growth_of_ne_nil (by simp)]

end Counts

/-! ### The patch -/

namespace Changes

variable {pod : Pod} {app : Application} {role : Role} {settings : Settings}

/-- All changes, written out. -/
theorem all_eq_listed :
    all pod app role settings =
      (if role.isDriver then [.item .ownerReferences app.ownerReference] else []) ++
      (declaredMounts app role).flatMap (fun m =>
        [.item .volumes m.1.json, .item .volumeMounts m.2.json]) ++
      (app.spec.customization role).configMounts.flatMap (fun m =>
        let volume := configVolumeName m.configMap settings.maxNameLength
        [.item .volumes (configVolume m.configMap volume),
          .item .volumeMounts (readOnlyMount volume m.path)]) ++
      (confDirectories app settings).flatMap (fun c =>
        [.item .volumes (configVolume c.1 c.2.volume),
          .item .volumeMounts (readOnlyMount c.2.volume c.2.path),
          .item .env (environmentVariable c.2.variableName c.2.path)]) ++
      (app.spec.customization role).tolerations.map (fun t => .item .tolerations t.json) ++
      (given pod app role .affinity).toList.map (.setting .affinity) ++
      (given pod app role .securityContext).toList.map (.setting .securityContext) := by
  have htoList : ∀ s : PodSetting, ((given pod app role s).map (Change.setting s)).toList =
      (given pod app role s).toList.map (Change.setting s) := by
    intro s
    cases given pod app role s <;> rfl
  rw [all_eq_items_append, htoList, htoList, items, List.append_assoc _ (sparkConf app settings),
    sparkConf_append_hadoopConf, volumes_eq_flatMap]
  rfl

end Changes

/-- A patch is derived exactly when a container has the name of a Spark container, whatever the
application and the role. It consists of the owner reference of a driver, each declared volume
that is mounted with its mount, each config map with its read-only mount, volume, mount and
variable of the Spark and then the Hadoop configuration, the tolerations, and the settings that
the pod has not. Lists of the container are those of the first Spark container. An item creates
its list if neither the pod nor an operation in front of it has put an item there, and is appended
otherwise; so, seen list by list, only the first operation on a list that is empty creates it. -/
theorem derivePatch_listed (pod : Pod) (app : Application) (role : Role) (settings : Settings) :
    ((∃ ops, derivePatch pod app role settings = .ok ops) ↔
      ∃ c ∈ pod.containers, Pod.containerName c ∈ settings.containerNames) ∧
    ((∀ c ∈ pod.containers, Pod.containerName c ∉ settings.containerNames) →
      derivePatch pod app role settings =
        .error (.containerNotFound (pod.name?.getD "") settings.containerNames)) ∧
    ∀ ops, derivePatch pod app role settings = .ok ops → ∃ container,
      (∃ c, pod.containers[container]? = some c ∧
        Pod.containerName c ∈ settings.containerNames) ∧
      (∀ k < container, ∀ c, pod.containers[k]? = some c →
        Pod.containerName c ∉ settings.containerNames) ∧
      (∃ changes : List Change, changes =
          (if role.isDriver then [.item .ownerReferences app.ownerReference] else []) ++
          (Changes.declaredMounts app role).flatMap (fun m =>
            [.item .volumes m.1.json, .item .volumeMounts m.2.json]) ++
          (app.spec.customization role).configMounts.flatMap (fun m =>
            let volume := configVolumeName m.configMap settings.maxNameLength
            [.item .volumes (configVolume m.configMap volume),
              .item .volumeMounts (readOnlyMount volume m.path)]) ++
          (Changes.confDirectories app settings).flatMap (fun c =>
            [.item .volumes (configVolume c.1 c.2.volume),
              .item .volumeMounts (readOnlyMount c.2.volume c.2.path),
              .item .env (environmentVariable c.2.variableName c.2.path)]) ++
          (app.spec.customization role).tolerations.map (fun t => .item .tolerations t.json) ++
          (Changes.given pod app role .affinity).toList.map (.setting .affinity) ++
          (Changes.given pod app role .securityContext).toList.map (.setting .securityContext) ∧
        ops = changes.mapIdx fun i change => change.operation container fun list =>
          PodLists.itemsIn pod container list ++
            (changes.take i).flatMap (Change.addedTo list)) ∧
      (∀ list, ops.filter (·.isIn (PodLists.place container list)) =
        Patch.growth (PodLists.place container list) (PodLists.itemsIn pod container list)
          (Changes.additions app role settings list)) ∧
      ∀ op ∈ ops, op.toJson.get? "op" = some (.string "add") := by
  refine ⟨?_, fun habsent => ?_, fun ops hops => ?_⟩
  · simp only [derivePatch_eq_ok_iff]
    constructor
    · rintro ⟨ops, container, hcontainer, -⟩
      obtain ⟨⟨c, hc, hname⟩, -⟩ := Pod.sparkContainer_eq_ok_iff.1 hcontainer
      exact ⟨c, List.mem_of_getElem? hc, hname⟩
    · rintro ⟨c, hc, hname⟩
      cases hcontainer : pod.sparkContainer settings with
      | ok container => exact ⟨_, container, rfl, rfl⟩
      | error e => exact absurd hname ((Pod.sparkContainer_eq_error_iff.1 hcontainer).1 c hc)
  · have herror := Pod.sparkContainer_eq_error_iff.2 ⟨habsent, rfl⟩
    rw [derivePatch, herror]
    rfl
  · obtain ⟨container, hcontainer, rfl⟩ := derivePatch_eq_ok_iff.1 hops
    obtain ⟨hname, hfirst⟩ := Pod.sparkContainer_eq_ok_iff.1 hcontainer
    have hcounts := Counts.ofPod pod container
    refine ⟨container, hname, hfirst, ⟨_, Changes.all_eq_listed, hcounts.performAll_eq_mapIdx _⟩,
      fun list => ?_, fun _ _ => rfl⟩
    rw [hcounts.filter_performAll, Changes.addedTo_all]

/-- The sample driver has tolerations that are empty and volumes that are missing. -/
theorem derivePatch_listed_sample :
    ∃ ops, derivePatch samplePod sampleApplication .driver {} = .ok ops ∧
      ops.filter (·.isIn ["spec", "volumes"]) =
        [.create ["spec", "volumes"] (.object [("name", .string "data")]),
          .append ["spec", "volumes"] (configVolume "rules" "rules-vol"),
          .append ["spec", "volumes"] (configVolume "pi-conf" "spark-configmap-volume")] ∧
      ops.filter (·.isIn ["spec", "containers", "1", "env"]) =
        [.append ["spec", "containers", "1", "env"]
          (environmentVariable "SPARK_CONF_DIR" "/etc/spark/conf")] := by
  obtain ⟨-, -, hops⟩ := derivePatch_listed samplePod sampleApplication .driver {}
  obtain ⟨container, ⟨c, hc, hname⟩, hfirst, -, hlist, -⟩ := hops _ rfl
  have hcontainer : container = 1 := by
    match container with
    | 0 =>
      cases hc
      exact absurd hname (by decide)
    | 1 => rfl
    | n + 2 => exact absurd (by decide) (hfirst 1 (by omega) _ rfl)
  subst hcontainer
  exact ⟨_, rfl, hlist .volumes, hlist .env⟩

end SparkAdmission
