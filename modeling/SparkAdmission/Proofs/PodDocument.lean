import SparkAdmission.Proofs.Kubernetes.Datum
import SparkAdmission.Proofs.PodLists

/-!
# Pods and their raw documents

A raw document that is read as a pod has a place for every list and setting of the pod, provided
that it has metadata at all and that the Spark container is one of its containers (`HasPlaces`).
Its lists may be missing, `null`, empty or filled; in all cases they are as long as those of the
pod, so that the lists counted in the pod track the raw document (`HasPlaces.tracks`). Changes that
conform do the same to the raw document and to the pod that is read from it
(`HasPlaces.reads_applyAll`).
-/

namespace SparkAdmission

open Json Shape

/-! ### The shapes of lists and settings -/

theorem isSorted_pod : Kubernetes.pod.isSorted := by decide +kernel

theorem isSorted_podSpec : Kubernetes.podSpec.isSorted := by
  have hspec : OptionalAt Kubernetes.pod ["spec"] Kubernetes.podSpec := .here rfl
  exact hspec.isSorted_leaf isSorted_pod

theorem PodLists.optionalAt (container : Nat) (list : PodList) :
    OptionalAt Kubernetes.pod (place container list) (.list list.item) := by
  have hmeta : ∀ {name : String} {leaf : Shape},
      OptionalAt Kubernetes.objectMeta [name] leaf →
        OptionalAt Kubernetes.pod ["metadata", name] leaf :=
    fun h => .member rfl nofun h
  have hspec : ∀ {rest : List String} {leaf : Shape},
      OptionalAt Kubernetes.podSpec rest leaf → OptionalAt Kubernetes.pod ("spec" :: rest) leaf :=
    fun h => .member rfl nofun h
  have hcontainer : ∀ {name : String} {leaf : Shape},
      OptionalAt Kubernetes.container [name] leaf →
        OptionalAt Kubernetes.podSpec ["containers", toString container, name] leaf :=
    fun h => .member rfl nofun (.item h)
  cases list with
  | ownerReferences => exact hmeta (.here rfl)
  | volumes => exact hspec (.here rfl)
  | volumeMounts => exact hspec (hcontainer (.here rfl))
  | env => exact hspec (hcontainer (.here rfl))
  | tolerations => exact hspec (.here rfl)

theorem PodSetting.optionalAt (setting : PodSetting) :
    OptionalAt Kubernetes.pod setting.place setting.shape := by
  cases setting <;> exact .member rfl nofun (.here rfl)

theorem PodList.isSorted_item (list : PodList) : list.item.isSorted :=
  (PodLists.optionalAt 0 list).isSorted_leaf isSorted_pod

theorem PodSetting.isSorted_shape (setting : PodSetting) : setting.shape.isSorted :=
  setting.optionalAt.isSorted_leaf isSorted_pod

/-! ### The lists of a pod in its document -/

namespace Json

theorem child?_of_get? {name : String} {j value : Json} (h : j.get? name = some value) :
    j.child? name = some value := by
  cases j with
  | object members => exact h
  | _ => cases h

theorem child?_eq_get? {name : String} (h : index? name = none) (j : Json) :
    j.child? name = j.get? name := by
  cases j with
  | array items => simp [child?, get?, h]
  | _ => rfl

/-- Names that are no indices lead to members only. -/
theorem follow?_eq_at? {names : List String} (h : ∀ name ∈ names, index? name = none) (j : Json) :
    j.follow? names = j.at? names := by
  induction names generalizing j with
  | nil => rfl
  | cons name names ih =>
    rw [List.forall_mem_cons] at h
    rw [follow?_cons, at?_cons, child?_eq_get? h.1]
    congr 1
    funext child
    exact ih h.2 child

end Json

theorem Pod.exists_containers {pod : Pod} (h : pod.containers ≠ []) :
    ∃ spec, pod.json.child? "spec" = some spec ∧
      spec.child? "containers" = some (.array pod.containers) := by
  have hcontainers : pod.containers =
      ((pod.json.get? "spec").bind (Json.at? ["containers"])).elim [] items := rfl
  cases hspec : pod.json.get? "spec" with
  | none =>
    rw [hcontainers, hspec] at h
    exact absurd rfl h
  | some spec =>
    refine ⟨spec, child?_of_get? hspec, child?_of_get? ?_⟩
    rw [hspec, Option.bind_some, at?_cons] at hcontainers
    rw [hcontainers] at h ⊢
    cases hlist : spec.get? "containers" with
    | none =>
      rw [hlist] at h
      exact absurd rfl h
    | some list =>
      rw [hlist] at h
      cases list with
      | array xs => rfl
      | _ => exact absurd rfl h

/-- The items that are counted are those in the place of the list. -/
theorem PodLists.itemsIn_eq {pod : Pod} {container : Nat} (h : container < pod.containers.length)
    (list : PodList) :
    itemsIn pod container list = (pod.json.follow? (place container list)).elim [] items := by
  have hnames : ∀ parent ∈ ["metadata", "spec"],
      ∀ name ∈ ["ownerReferences", "volumes", "tolerations"],
        pod.listAt [parent, name] = (pod.json.follow? [parent, name]).elim [] items := by
    intro parent hp name hn
    rw [follow?_eq_at?, Pod.listAt]
    intro token ht
    simp only [List.mem_cons, List.not_mem_nil, or_false] at hp hn ht
    rcases ht with rfl | rfl
    · rcases hp with rfl | rfl <;> rfl
    · rcases hn with rfl | rfl | rfl <;> rfl
  have hcontainer : ∀ name, index? name = none → pod.containerList container name =
      (pod.json.follow? ["spec", "containers", toString container, name]).elim [] items := by
    intro name hname
    have hne : pod.containers ≠ [] := List.ne_nil_of_length_pos (Nat.zero_lt_of_lt h)
    obtain ⟨spec, hspec, hlist⟩ := Pod.exists_containers hne
    rw [follow?_cons, hspec, Option.bind_some, follow?_cons, hlist, Option.bind_some, follow?_cons,
      child?, index?_toString, Option.bind_some, Pod.containerList]
    congr 2
    funext child
    rw [follow?_singleton, child?_eq_get? hname]
  cases list with
  | ownerReferences => exact hnames _ (by simp) _ (by simp)
  | volumes => exact hnames _ (by simp) _ (by simp)
  | volumeMounts => exact hcontainer _ rfl
  | env => exact hcontainer _ rfl
  | tolerations => exact hnames _ (by simp) _ (by simp)

/-! ### The places in a raw document -/

/-- The raw document is read as the pod, has metadata, and the container is one of its own. -/
structure HasPlaces (pod : Pod) (container : Nat) (raw : Json) : Prop where
  reads : Reads Kubernetes.pod raw pod.json
  hasMetadata : ∃ members, raw.child? "metadata" = some (.object members)
  container_lt : container < pod.containers.length

namespace HasPlaces

variable {pod : Pod} {container : Nat} {raw : Json}

theorem exists_container (h : HasPlaces pod container raw) :
    (∃ members, raw.follow? ["spec"] = some (.object members)) ∧
      ∃ members, raw.follow? ["spec", "containers", toString container] =
        some (.object members) := by
  have hlt := h.container_lt
  have hne : pod.containers ≠ [] := List.ne_nil_of_length_pos (Nat.zero_lt_of_lt hlt)
  obtain ⟨spec, hspec, hlist⟩ := Pod.exists_containers hne
  have hdefault : spec ≠ Kubernetes.podSpec.default := by
    rintro rfl
    exact hne (Json.array.inj (Option.some.inj hlist)).symm
  obtain ⟨rawSpec, hrawSpec, hreads⟩ : ∃ rawSpec, raw.child? "spec" = some rawSpec ∧
      Reads Kubernetes.podSpec rawSpec spec :=
    h.reads.exists_member isSorted_pod rfl (by simp) hspec hdefault
  obtain ⟨rawList, hrawList, hreads'⟩ : ∃ rawList, rawSpec.child? "containers" = some rawList ∧
      Reads (.list Kubernetes.container) rawList (.array pod.containers) :=
    hreads.exists_member isSorted_podSpec rfl (by simp) hlist fun he => hne (Json.array.inj he)
  obtain ⟨members, rfl⟩ := hreads.accepts.eq_object
  obtain ⟨xs, rfl⟩ := hreads'.accepts.eq_array
  obtain ⟨haccepts, heq⟩ := (Reads.list_iff hreads'.canonical).1 hreads'
  have hxs : container < xs.length := by
    rw [Json.array.inj heq, List.length_map] at hlt
    exact hlt
  obtain ⟨item, hitem⟩ := (haccepts _ (List.getElem_mem hxs)).eq_object
  refine ⟨⟨members, by rw [follow?_singleton, hrawSpec]⟩, item, ?_⟩
  rw [follow?_cons, hrawSpec, Option.bind_some, follow?_cons, hrawList, Option.bind_some,
    follow?_singleton, child?, index?_toString, Option.bind_some, List.getElem?_eq_getElem hxs,
    hitem]

theorem isMember_place (h : HasPlaces pod container raw) (list : PodList) :
    IsMember (PodLists.place container list) raw := by
  obtain ⟨⟨spec, hspec⟩, item, hitem⟩ := h.exists_container
  obtain ⟨metadata, hmetadata⟩ := h.hasMetadata
  cases list with
  | ownerReferences => exact ⟨["metadata"], _, metadata, rfl, by rw [follow?_singleton, hmetadata]⟩
  | volumes => exact ⟨["spec"], _, spec, rfl, hspec⟩
  | volumeMounts => exact ⟨_, _, item, rfl, hitem⟩
  | env => exact ⟨_, _, item, rfl, hitem⟩
  | tolerations => exact ⟨["spec"], _, spec, rfl, hspec⟩

theorem isMember_setting (h : HasPlaces pod container raw) (setting : PodSetting) :
    IsMember setting.place raw := by
  obtain ⟨⟨spec, hspec⟩, -⟩ := h.exists_container
  exact ⟨["spec"], _, spec, rfl, hspec⟩

/-- The lists counted in the pod track the raw document. -/
theorem tracks (h : HasPlaces pod container raw) :
    Tracks (PodLists.ofPod pod container) container raw
      (fun list => (raw.follow? (PodLists.place container list)).elim [] items) where
  path_eq _ := rfl
  fits list := by
    have hlist := (PodLists.optionalAt container list).isList isSorted_pod h.reads
      (h.isMember_place list)
    refine ⟨h.isMember_place list, hlist.1, ?_⟩
    rw [hlist.2, ← PodLists.itemsIn_eq h.container_lt]
    rfl
  isMember_setting := h.isMember_setting

end HasPlaces

/-- The document of a pod has a place for every list and setting. -/
theorem hasPlaces_json {pod : Pod} {container : Nat} (h : container < pod.containers.length) :
    HasPlaces pod container pod.json := by
  refine ⟨reads_of_conforms _ isSorted_pod pod.conforms, ?_, h⟩
  obtain ⟨json, conforms⟩ := pod
  cases conforms with
  | @object fields members each =>
    have hmetadata : FieldHolds (some (.defaulted, Kubernetes.objectMeta))
        (members.lookup "metadata") := fieldHolds_lookup isSorted_pod each "metadata"
    generalize hvalue : members.lookup "metadata" = value at hmetadata
    cases hmetadata with
    | defaulted conforms =>
      cases conforms with
      | object => exact ⟨_, hvalue⟩

/-- The index of the Spark container is one of a container. -/
theorem Pod.lt_of_sparkContainer {pod : Pod} {settings : Settings} {container : Nat}
    (h : pod.sparkContainer settings = .ok container) : container < pod.containers.length := by
  unfold sparkContainer at h
  split at h
  · rename_i i hi
    cases h
    exact (List.findIdx?_eq_some_iff_getElem.1 hi).1
  · cases h

/-! ### Changes that conform -/

/-- What the change adds or sets is of the shape that its place asks for. -/
def Change.Conforms : Change → Prop
  | .item l value => l.item.Conforms value
  | .setting s value => s.shape.Conforms value

/-- What conforms can be written, so that the change is performed. -/
theorem PodLists.attempt_of_conforms {change : Change} (h : change.Conforms) (lists : PodLists) :
    lists.attempt change = .ok (lists.perform change) := by
  cases change with
  | item list value =>
    rw [attempt, GrowingList.add_of_toJson (toJson_datum list.item list.isSorted_item h)]
    rfl
  | setting s value =>
    rw [attempt, Datum.value, toJson_datum s.shape s.isSorted_shape h]
    rfl

theorem PodLists.attemptAll_of_conforms {changes : List Change}
    (h : ∀ change ∈ changes, change.Conforms) (lists : PodLists) :
    lists.attemptAll changes = .ok (lists.performAll changes) := by
  induction changes generalizing lists with
  | nil => rfl
  | cons change changes ih =>
    obtain ⟨hchange, hchanges⟩ := List.forall_mem_cons.1 h
    rw [attemptAll_cons (attempt_of_conforms hchange lists), ih hchanges]
    rfl

theorem PodSetting.ne_null {setting : PodSetting} {value : Json}
    (h : setting.shape.Conforms value) : value ≠ .null := by
  cases setting <;> cases h <;> exact Json.noConfusion

/-- Changes that conform do the same to a raw document and to its normal form. -/
theorem reads_applyAll {container : Nat} {raw normal : Json} {changes : List Change}
    (h : Reads Kubernetes.pod raw normal)
    (hlist : ∀ list, IsMember (PodLists.place container list) raw)
    (hsetting : ∀ setting : PodSetting, IsMember setting.place raw)
    (hc : ∀ change ∈ changes, change.Conforms) :
    Reads Kubernetes.pod (Change.applyAll container raw changes)
      (Change.applyAll container normal changes) := by
  induction changes generalizing raw normal with
  | nil => exact h
  | cons change changes ih =>
    rw [List.forall_mem_cons] at hc
    refine ih ?_ (fun list => Change.isMember_apply_list (hlist list) change)
      (fun setting => Change.isMember_apply_setting (hsetting setting) change) hc.2
    cases change with
    | item list value =>
      refine (PodLists.optionalAt container list).reads_grow isSorted_pod h (hlist list) ?_
      intro j hj
      rw [List.mem_singleton.1 hj]
      exact reads_of_conforms list.item list.isSorted_item hc.1
    | setting s value =>
      exact s.optionalAt.reads_put isSorted_pod h (hsetting s)
        (reads_of_conforms s.shape s.isSorted_shape hc.1) (PodSetting.ne_null hc.1)

end SparkAdmission
