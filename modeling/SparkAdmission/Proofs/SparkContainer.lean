import SparkAdmission.Proofs.Operations

/-!
# The container that is changed

The settings name one container for drivers and one for executors, and the Spark container is the
first that has either name, whatever the role of the pod. All mounts and variables of a patch are
those of that one container. It is the first container with the name for the role, unless one with
the name for the other role stands before it, and then it is the first of these
(`containerToken?_of_mem_derivePatch`). `not_forall_containerToken?_of_mem_derivePatch` is a driver
with a container in front that has the name for executors.
-/

namespace SparkAdmission

/-- The role that a pod has not. -/
def Role.other : Role → Role
  | .driver => .executor
  | .executor => .driver

/-- The name of the Spark container in pods of a role. -/
def Settings.containerName (s : Settings) : Role → String
  | .driver => s.driverContainer
  | .executor => s.executorContainer

theorem Settings.mem_containerNames_iff {s : Settings} (role : Role) {name : String} :
    name ∈ s.containerNames ↔ name = s.containerName role ∨ name = s.containerName role.other := by
  cases role <;> simp [containerNames, containerName, Role.other, or_comm]

/-! ### Which container an operation changes -/

/-- The token of the container, for an operation on the mounts or variables of one. -/
def Add.containerToken? (op : Add) : Option String :=
  match op.path.tokens with
  | "spec" :: "containers" :: token :: list :: _ =>
    if list = "volumeMounts" ∨ list = "env" then some token else none
  | _ => none

/-- The operations of changes change no container but the one whose index is given. -/
theorem Change.containerToken?_operation {container : Nat} {items : PodList → List Json}
    {change : Change} {token : String}
    (h : (change.operation container items).containerToken? = some token) :
    token = toString container := by
  obtain ⟨rest, hrest⟩ := change.operation_path container items
  rw [Add.containerToken?, hrest] at h
  cases change with
  | item list value =>
    cases list with
    | volumeMounts | env => exact (Option.some.inj h).symm
    | _ => cases h
  | setting s value => cases s <;> cases h

theorem Counts.containerToken?_of_mem {lists : PodLists} {container : Nat}
    {items : PodList → List Json} (h : Counts lists container items) {changes : List Change}
    {op : Add} (hop : op ∈ (lists.performAll changes).1) {token : String}
    (ht : op.containerToken? = some token) : token = toString container := by
  rw [h.performAll_eq_mapIdx, List.mem_mapIdx] at hop
  obtain ⟨i, hi, rfl⟩ := hop
  exact Change.containerToken?_operation ht

/-! ### Which container has the name -/

namespace Pod

variable {pod : Pod} {settings : Settings} {role : Role} {i : Nat}

/-- The index of the first container of that name. -/
def containerNamed? (pod : Pod) (name : String) : Option Nat :=
  pod.containers.findIdx? fun c => containerName c == name

theorem containerNamed?_eq_some_iff {name : String} :
    pod.containerNamed? name = some i ↔
      (∃ c, pod.containers[i]? = some c ∧ containerName c = name) ∧
        ∀ k < i, ∀ c, pod.containers[k]? = some c → containerName c ≠ name := by
  rw [containerNamed?, findIdx?_eq_some_iff_getElem?]
  simp only [beq_iff_eq, ne_eq]

/-- Where there is a container with the name for the role, it is the Spark container, or one with
the name for the other role stands before it, and the first of these is. -/
theorem sparkContainer_of_containerNamed?
    (h : pod.containerNamed? (settings.containerName role) = some i) :
    ∃ k, pod.sparkContainer settings = .ok k ∧
      ((k = i ∧ ∀ j < i, ∀ c, pod.containers[j]? = some c →
          containerName c ≠ settings.containerName role.other) ∨
        (k < i ∧ pod.containerNamed? (settings.containerName role.other) = some k)) := by
  rw [containerNamed?_eq_some_iff] at h
  obtain ⟨⟨c, hc, hname⟩, hfirst⟩ := h
  have hmem : containerName c ∈ settings.containerNames :=
    (Settings.mem_containerNames_iff role).2 (.inl hname)
  cases hk : pod.sparkContainer settings with
  | error e => exact absurd hmem ((sparkContainer_eq_error_iff.1 hk).1 c (List.mem_of_getElem? hc))
  | ok k =>
    refine ⟨k, rfl, ?_⟩
    obtain ⟨⟨d, hd, hnames⟩, hbefore⟩ := sparkContainer_eq_ok_iff.1 hk
    have hneither : ∀ j < k, ∀ c, pod.containers[j]? = some c →
        containerName c ≠ settings.containerName role ∧
          containerName c ≠ settings.containerName role.other := by
      intro j hj c hc
      have hnot := hbefore j hj c hc
      rwa [Settings.mem_containerNames_iff role, not_or] at hnot
    have hle : k ≤ i := Nat.le_of_not_lt fun hlt => (hneither i hlt c hc).1 hname
    rcases Nat.lt_or_eq_of_le hle with hlt | rfl
    · -- a container in front of the first one with the name for the role has the other name
      have hother : containerName d = settings.containerName role.other :=
        ((Settings.mem_containerNames_iff role).1 hnames).resolve_left (hfirst k hlt d hd)
      exact .inr ⟨hlt, containerNamed?_eq_some_iff.2
        ⟨⟨d, hd, hother⟩, fun j hj c hc => (hneither j hj c hc).2⟩⟩
    · exact .inl ⟨rfl, fun j hj c hc => (hneither j hj c hc).2⟩

end Pod

/-! ### The container of a patch -/

/-- A pod that has a container with the name for its role gets a patch, and all operations of the
patch on mounts and variables are in one container. That is the first container with the name for
the role, if none with the name for the other role stands before it, and otherwise the first one
with the name for the other role. -/
theorem containerToken?_of_mem_derivePatch {pod : Pod} {role : Role} {settings : Settings} {i : Nat}
    (h : pod.containerNamed? (settings.containerName role) = some i) (app : Application) :
    ∃ ops k, derivePatch pod app role settings = .ok ops ∧
      (∀ op ∈ ops, ∀ token, op.containerToken? = some token → token = toString k) ∧
      ((∀ j < i, ∀ c, pod.containers[j]? = some c →
          Pod.containerName c ≠ settings.containerName role.other) → k = i) ∧
      ((∃ j < i, ∃ c, pod.containers[j]? = some c ∧
          Pod.containerName c = settings.containerName role.other) →
        k < i ∧ pod.containerNamed? (settings.containerName role.other) = some k) := by
  obtain ⟨k, hk, hcases⟩ := Pod.sparkContainer_of_containerNamed? h
  refine ⟨_, k, derivePatch_eq_ok_iff.2 ⟨k, hk, rfl⟩,
    fun op hop token ht => (Counts.ofPod pod k).containerToken?_of_mem hop ht, ?_, ?_⟩
  · rintro hnone
    rcases hcases with ⟨rfl, -⟩ | ⟨hlt, hother⟩
    · rfl
    · obtain ⟨⟨c, hc, hname⟩, -⟩ := Pod.containerNamed?_eq_some_iff.1 hother
      exact absurd hname (hnone k hlt c hc)
  · rintro ⟨j, hj, c, hc, hname⟩
    rcases hcases with ⟨-, hnone⟩ | hother
    · exact absurd hname (hnone j hj c hc)
    · exact hother

/-- A driver with a container in front of the driver container that has the name for executors. -/
def crossedDriver : Pod :=
  .ofSource (.ofJson (.object [("spec", .object [
    ("containers", .array [
      .object [("name", .string "sidecar")],
      .object [("name", .string "executor")],
      .object [("name", .string "spark-kubernetes-driver")]])])]))

/-- The mounts of the driver are in the container with the name for executors. -/
theorem containerToken?_of_mem_derivePatch_sample :
    crossedDriver.containerNamed? "spark-kubernetes-driver" = some 2 ∧
      ∃ ops, derivePatch crossedDriver sampleApplication .driver {} = .ok ops ∧
        (∃ op ∈ ops, op.containerToken?.isSome) ∧
        ∀ op ∈ ops, ∀ token, op.containerToken? = some token → token = "1" := by
  obtain ⟨ops, k, hops, htoken, -, hother⟩ := containerToken?_of_mem_derivePatch
    (rfl : crossedDriver.containerNamed? (({} : Settings).containerName .driver) = some 2)
    sampleApplication
  obtain ⟨-, hk⟩ := hother ⟨1, by decide, _, rfl, rfl⟩
  cases hk
  cases hops
  exact ⟨rfl, _, rfl, ⟨_, List.mem_of_getElem? (i := 2) rfl, rfl⟩, htoken⟩

/-- A driver with a container that has the name for executors in front gets its mounts there, so
not every patch changes the first container with the name for the role. -/
theorem not_forall_containerToken?_of_mem_derivePatch :
    ¬ ∀ (pod : Pod) (app : Application) (role : Role) (settings : Settings) (ops : Patch) (i : Nat),
      settings.driverContainer ≠ settings.executorContainer →
        pod.containerNamed? (settings.containerName role) = some i →
        derivePatch pod app role settings = .ok ops →
        ∀ op ∈ ops, ∀ token, op.containerToken? = some token → token = toString i := by
  intro h
  have htoken := h crossedDriver sampleApplication .driver {} _ 2 (by decide) rfl rfl _
    (List.mem_of_getElem? (i := 2) rfl) "1" rfl
  exact absurd htoken (by decide)

end SparkAdmission
