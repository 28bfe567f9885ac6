import SparkAdmission.Proofs.Kubernetes.SourceReading
import SparkAdmission.Proofs.Operations

/-!
# The pod after its patch

The document that changes make of a pod is read as a pod again (`exists_changed`). Its containers
have the names that they had, so that the Spark container is the same one, and every list has the
items that are added behind its own. After the patch of an application these are all items of the
application, and a setting that the pod has not got is one that the application does not declare
either (`exists_patched`).
-/

namespace SparkAdmission

open Json

/-! ### The containers keep their names -/

namespace Pod

/-- The names of the containers. -/
def containerNames (pod : Pod) : List String := pod.containers.map containerName

theorem containers_eq (pod : Pod) :
    pod.containers = (pod.json.follow? ["spec", "containers"]).elim [] items := by
  rw [follow?_eq_at? (by decide)]
  rfl

/-- The search for the Spark container looks at names only. -/
theorem sparkContainer_congr {pod other : Pod} {settings : Settings} {container : Nat}
    (hn : other.containerNames = pod.containerNames)
    (h : pod.sparkContainer settings = .ok container) :
    other.sparkContainer settings = .ok container := by
  have hname : ∀ (p : Pod) (i : Nat) (name : String),
      (∃ c, p.containers[i]? = some c ∧ containerName c = name) ↔
        p.containerNames[i]? = some name := by
    intro p i name
    rw [containerNames, List.getElem?_map, Option.map_eq_some_iff]
  have hother : ∀ (i : Nat) (name : String),
      (∃ c, other.containers[i]? = some c ∧ containerName c = name) ↔
        ∃ c, pod.containers[i]? = some c ∧ containerName c = name := by
    intro i name
    rw [hname, hname, hn]
  rw [sparkContainer_eq_ok_iff] at h ⊢
  obtain ⟨⟨c, hc, hmem⟩, hfirst⟩ := h
  constructor
  · obtain ⟨c', hc', he⟩ := (hother container _).2 ⟨c, hc, rfl⟩
    exact ⟨c', hc', he ▸ hmem⟩
  · intro k hk c' hc'
    obtain ⟨c, hc, he⟩ := (hother k _).1 ⟨c', hc', rfl⟩
    exact he ▸ hfirst k hk c hc

end Pod

namespace Change

/-- A list or setting stands in one container, in a member that is not its name, or apart from the
containers. -/
theorem place_containers (container : Nat) (change : Change) :
    Apart (change.place container) ["spec", "containers"] ∨
      ∃ list value name, change = .item list value ∧ name ≠ "name" ∧
        PodLists.place container list = ["spec", "containers"] ++ [toString container, name] := by
  cases change with
  | item list value =>
    cases list with
    | volumeMounts => exact .inr ⟨_, _, "volumeMounts", rfl, by decide, rfl⟩
    | env => exact .inr ⟨_, _, "env", rfl, by decide, rfl⟩
    | _ => exact .inl (by simp [place, PodLists.place])
  | setting s value =>
    cases s <;> exact .inl (by simp [place, PodSetting.place, PodSetting.name])

theorem containerName_setChild {name : String} (h : name ≠ "name") (value c : Json) :
    Pod.containerName (c.setChild name value) = Pod.containerName c := by
  have hchild := child?_setChild_of_ne (Ne.symm h) value c
  rw [child?_eq_get? rfl, child?_eq_get? rfl] at hchild
  rw [Pod.containerName, Pod.containerName, hchild]

/-- A container that is altered in another member than its name leaves all names as they are. -/
theorem map_containerName_alter {name : String} (h : name ≠ "name") (container : Nat)
    (f : Option Json → Json) (v : Json) :
    (items (alter f [toString container, name] v)).map Pod.containerName =
      (items v).map Pod.containerName := by
  -- where there is no such container nothing is altered, else only its member of that name
  cases hc : v.child? (toString container) with
  | none => rw [alter_of_child_eq_none hc (List.cons_ne_nil _ _)]
  | some c =>
    rw [alter_cons_of_child hc, alter_singleton]
    cases v with
    | array cs =>
      rw [child?, index?_toString, Option.bind_some] at hc
      obtain ⟨hlt, rfl⟩ := List.getElem?_eq_some_iff.1 hc
      rw [setChild, index?_toString, Option.elim_some, items, items, List.map_set,
        containerName_setChild h, ← List.getElem_map Pod.containerName, List.set_getElem_self]
      simpa using hlt
    | _ => rfl

/-- A change leaves the names of the containers as they are. -/
theorem containerNames_apply (container : Nat) (change : Change) (doc : Json) :
    (((change.apply container doc).follow? ["spec", "containers"]).elim [] items).map
        Pod.containerName =
      ((doc.follow? ["spec", "containers"]).elim [] items).map Pod.containerName := by
  rcases change.place_containers container with h | ⟨list, value, name, rfl, hname, hplace⟩
  · rw [follow?_apply_of_apart h]
  · rw [apply, grow_cons, hplace, follow?_alter_append _ (List.cons_ne_nil _ _)]
    cases doc.follow? ["spec", "containers"] with
    | none => rfl
    | some v => exact map_containerName_alter hname container _ v

theorem containerNames_applyAll (container : Nat) (changes : List Change) (doc : Json) :
    (((applyAll container doc changes).follow? ["spec", "containers"]).elim [] items).map
        Pod.containerName =
      ((doc.follow? ["spec", "containers"]).elim [] items).map Pod.containerName := by
  induction changes generalizing doc with
  | nil => rfl
  | cons change changes ih => rw [applyAll_cons, ih, containerNames_apply]

end Change

/-! ### Changed pods -/

/-- The document that the operations of changes make of a pod is read as a pod again. -/
theorem exists_changed {pod : Pod} {container : Nat} (h : container < pod.containers.length)
    {changes : List Change} (hc : ∀ change ∈ changes, change.Conforms) :
    ∃ changed : Pod, changed.json = Change.applyAll container pod.json changes ∧
      Patch.run? ((PodLists.ofPod pod container).performAll changes).1 pod.json =
        some changed.json ∧
      Reader.value Document.read changed.json = some changed ∧
      changed.containerNames = pod.containerNames ∧
      ∀ list, PodLists.itemsIn changed container list =
        PodLists.itemsIn pod container list ++ changes.flatMap (Change.addedTo list) := by
  have hplaces := hasPlaces_json h
  have hreads := reads_applyAll hplaces.reads hplaces.isMember_place hplaces.isMember_setting hc
  obtain ⟨(changed : Pod), hvalue, hjson⟩ := Document.value_of_reads hreads
  have hnames : changed.containerNames = pod.containerNames := by
    rw [Pod.containerNames, Pod.containerNames, Pod.containers_eq, Pod.containers_eq, hjson,
      Change.containerNames_applyAll]
  -- the lists of the changed pod are looked up in the same container, which is still there
  have hlt : container < changed.containers.length := by
    have hlength := congrArg List.length hnames
    rw [Pod.containerNames, Pod.containerNames, List.length_map, List.length_map] at hlength
    rwa [hlength]
  refine ⟨changed, hjson, ?_, by rwa [hjson], hnames, fun list => ?_⟩
  · rw [hplaces.run?_performAll, hjson]
  · have hlist := hplaces.tracks.performAll changes
    have hfits := (hlist.fits list).isList
    rw [hlist.path_eq, ← hjson] at hfits
    rw [PodLists.itemsIn_eq hlt, PodLists.itemsIn_eq h, hfits.elim_items]

/-! ### The patched pod -/

/-- What the patch of an application makes of a pod, the index of whose Spark container is given. -/
structure Patched (pod : Pod) (app : Application) (role : Role) (settings : Settings)
    (container : Nat) (patched : Pod) : Prop where
  sparkContainer_eq : pod.sparkContainer settings = .ok container
  containerNames_eq : patched.containerNames = pod.containerNames
  itemsIn_eq : ∀ list, PodLists.itemsIn patched container list =
    PodLists.itemsIn pod container list ++ Changes.additions app role settings list
  setting_eq : ∀ s : PodSetting, patched.json.follow? s.place =
    (pod.json.follow? s.place).or (Changes.declared app role s)

variable {pod patched : Pod} {app : Application} {role : Role} {settings : Settings}
  {container : Nat} {ops : Patch}

/-- The Spark container of a patched pod is the one that it was. -/
theorem Patched.sparkContainer_patched (h : Patched pod app role settings container patched) :
    patched.sparkContainer settings = .ok container :=
  Pod.sparkContainer_congr h.containerNames_eq h.sparkContainer_eq

/-- A patched pod is given no setting again. -/
theorem Patched.given_eq_none (h : Patched pod app role settings container patched)
    (s : PodSetting) : Changes.given patched app role s = none := by
  rw [Changes.given, Pod.hasSetting_eq, h.setting_eq]
  cases pod.json.follow? s.place with
  | none => cases Changes.declared app role s <;> rfl
  | some value => rfl

/-- The document that a derived patch makes of a pod is read as the patched pod. -/
theorem exists_patched (h : derivePatch pod app role settings = .ok ops) :
    ∃ container patched, Patched pod app role settings container patched ∧
      Patch.run? ops pod.json = some patched.json ∧
      Reader.value Document.read patched.json = some patched := by
  obtain ⟨container, hcontainer, rfl⟩ := derivePatch_eq_ok_iff.1 h
  have hlt := Pod.lt_of_sparkContainer hcontainer
  obtain ⟨patched, hjson, hrun, hread, hnames, hitems⟩ := exists_changed hlt
    fun change (hc : change ∈ Changes.all pod app role settings) => Changes.conforms_of_mem_all hc
  refine ⟨container, patched, ⟨hcontainer, hnames, fun list => ?_, fun s => ?_⟩, hrun, hread⟩
  · rw [hitems, Changes.addedTo_all]
  · rw [hjson, (hasPlaces_json hlt).follow?_setting, Changes.given_or]

end SparkAdmission
