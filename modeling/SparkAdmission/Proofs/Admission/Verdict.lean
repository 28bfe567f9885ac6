import SparkAdmission.Proofs.Admission.Decision
import SparkAdmission.Proofs.Admission.Response
import SparkAdmission.Proofs.Operations

/-!
# The three answers to a request

An answer denies an object, or admits it with operations, or admits it as it is, and its text shows
which (`denies_said_iff`, `patches_said_iff`, `admits_said_iff`). Only the lack of a Spark container
is a reason to deny (`Request.verdict_eq_denied_iff`): whatever an application declares can be
written, as can the patch that is made of it, so the other causes of errors never come up
(`said_verdict`).
-/

namespace SparkAdmission

/-! ### Containers -/

/-- One of the containers has the name of a Spark container. -/
def Pod.HasSparkContainer (pod : Pod) (settings : Settings) : Prop :=
  ∃ c ∈ pod.containers,
    containerName c = settings.driverContainer ∨ containerName c = settings.executorContainer

theorem Pod.not_hasSparkContainer_iff {pod : Pod} {settings : Settings} :
    ¬ pod.HasSparkContainer settings ↔
      ∀ c ∈ pod.containers, containerName c ∉ settings.containerNames := by
  simp [HasSparkContainer, Settings.containerNames]

theorem hasSparkContainer_of_derivePatch {pod : Pod} {app : Application} {role : Role}
    {settings : Settings} {ops : Patch} (h : derivePatch pod app role settings = .ok ops) :
    pod.HasSparkContainer settings := by
  obtain ⟨container, hcontainer, -⟩ := derivePatch_eq_ok_iff.1 h
  obtain ⟨⟨c, hc, hname⟩, -⟩ := Pod.sparkContainer_eq_ok_iff.1 hcontainer
  by_contra hnone
  exact Pod.not_hasSparkContainer_iff.1 hnone c (List.mem_of_getElem? hc) hname

/-- The pod is at fault for every error: no value of a patch is one that cannot be written. -/
theorem isPodRejection_of_derivePatch {pod : Pod} {app : Application} {role : Role}
    {settings : Settings} {e : Error} (h : derivePatch pod app role settings = .error e) :
    e.isPodRejection = true := by
  rw [derivePatch_eq_error_iff, Pod.sparkContainer_eq_error_iff] at h
  obtain ⟨-, rfl⟩ := h
  rfl

/-- The message that a pod has none of the containers. -/
theorem Error.message_containerNotFound (name : String) (expected : List String) :
    (containerNotFound name expected).message =
      "pod " ++ name ++ ": no container named " ++ " or ".intercalate expected := rfl

theorem Settings.intercalate_containerNames (settings : Settings) :
    " or ".intercalate settings.containerNames =
      settings.driverContainer ++ " or " ++ settings.executorContainer := by
  rw [containerNames, String.intercalate_cons_cons, String.intercalate_singleton]

namespace Admission

open Source

/-! ### What an answer says -/

/-- The answer denies the object. It tells why, and no patch. -/
structure Denies (answer : Json) (message : String) : Prop where
  allowed : answer.at? ["response", "allowed"] = some (.bool false)
  status : answer.at? ["response", "status"] = some (.object [("message", .string message)])
  patch : answer.at? ["response", "patch"] = none
  patchType : answer.at? ["response", "patchType"] = none

/-- The answer admits the object with these operations. -/
structure Patches (answer : Json) (ops : Patch) : Prop where
  allowed : answer.at? ["response", "allowed"] = some (.bool true)
  status : answer.at? ["response", "status"] = some (.object [])
  patch : ∃ bytes, answer.at? ["response", "patch"] = some bytes ∧ ops.SaidBy bytes
  patchType : answer.at? ["response", "patchType"] = some (.string "JSONPatch")

/-- The answer admits the object as it is. -/
structure Admits (answer : Json) : Prop where
  allowed : answer.at? ["response", "allowed"] = some (.bool true)
  status : answer.at? ["response", "status"] = some (.object [])
  patch : answer.at? ["response", "patch"] = none
  patchType : answer.at? ["response", "patchType"] = none

section Said

variable {r : Response}

theorem denies_said_iff {message : String} :
    Denies r.said message ↔ r.verdict = .denied message := by
  obtain ⟨-, -, -, hallowed, hpatch⟩ := r.said_spec
  have hstatus := r.at?_said_status
  have htype := r.at?_said_patchType
  constructor
  · rintro ⟨allowed, status, patch, -⟩
    rw [hallowed] at allowed
    rw [hstatus] at status
    cases hverdict : r.verdict with
    | denied message' =>
      rw [hverdict] at status
      cases status
      rfl
    | invalid message' =>
      -- a status without a request has more members
      rw [hverdict] at status
      cases status
    | allowed | patched ops =>
      rw [hverdict] at allowed
      cases allowed
  · intro h
    rw [h] at hallowed hpatch hstatus htype
    exact ⟨hallowed, hstatus, hpatch, htype⟩

theorem admits_said_iff : Admits r.said ↔ r.verdict = .allowed := by
  obtain ⟨-, -, -, hallowed, hpatch⟩ := r.said_spec
  have hstatus := r.at?_said_status
  have htype := r.at?_said_patchType
  constructor
  · rintro ⟨allowed, -, patch, -⟩
    rw [hallowed] at allowed
    rw [hpatch] at patch
    cases hverdict : r.verdict with
    | allowed => rfl
    | patched ops =>
      rw [hverdict] at patch
      cases patch
    | denied message | invalid message =>
      rw [hverdict] at allowed
      cases allowed
  · intro h
    rw [h] at hallowed hpatch hstatus htype
    exact ⟨hallowed, hstatus, hpatch, htype⟩

/-- The values of a patch have to be in canonical form, so that the text says the patch. -/
theorem patches_said_iff
    (hcanonical : ∀ ops, r.verdict = .patched ops → ∀ op ∈ ops, op.value.Canonical) {ops : Patch} :
    Patches r.said ops ↔ r.verdict = .patched ops := by
  obtain ⟨-, -, -, hallowed, hpatch⟩ := r.said_spec
  have hstatus := r.at?_said_status
  have htype := r.at?_said_patchType
  constructor
  · rintro ⟨-, -, ⟨bytes, patch, said⟩, -⟩
    rw [hpatch] at patch
    cases hverdict : r.verdict with
    | patched other =>
      rw [hverdict] at patch
      cases patch
      rw [said.unique (Patch.saidBy_bytes (hcanonical other hverdict))]
    | _ =>
      rw [hverdict] at patch
      cases patch
  · intro h
    rw [h] at hallowed hpatch hstatus htype
    exact ⟨hallowed, hstatus, ⟨_, hpatch, Patch.saidBy_bytes (hcanonical ops h)⟩, htype⟩

end Said

/-! ### Verdicts -/

namespace Request

variable {request : Request} {app : Option Application} {settings : Settings}

/-- A request is answered with operations where a container has the name of a Spark container, and
the application calls for some. -/
theorem verdict_eq_patched_iff_hasSparkContainer {ops : Patch} :
    request.verdict app settings = .patched ops ↔
      ∃ pod role declaring, request.Concerns app pod role declaring ∧
        pod.HasSparkContainer settings ∧ derivePatch pod declaring role settings = .ok ops ∧
        ops ≠ [] := by
  simp only [verdict_eq_iff (nofun : Verdict.patched ops ≠ .allowed),
    Verdict.ofDerived_eq_patched_iff]
  constructor
  · rintro ⟨pod, role, declaring, hconcerns, hops, hne⟩
    exact ⟨pod, role, declaring, hconcerns, hasSparkContainer_of_derivePatch hops, hops, hne⟩
  · rintro ⟨pod, role, declaring, hconcerns, -, hops, hne⟩
    exact ⟨pod, role, declaring, hconcerns, hops, hne⟩

/-- A request is denied where no container has the name of a Spark container, and only then. -/
theorem verdict_eq_denied_iff {message : String} :
    request.verdict app settings = .denied message ↔
      ∃ pod role declaring, request.Concerns app pod role declaring ∧
        ¬ pod.HasSparkContainer settings ∧
        message = "pod " ++ pod.name?.getD "" ++ ": no container named " ++
          (settings.driverContainer ++ " or " ++ settings.executorContainer) := by
  simp only [← Settings.intercalate_containerNames, ← Error.message_containerNotFound,
    verdict_eq_iff (nofun : Verdict.denied message ≠ .allowed), Verdict.ofDerived_eq_denied_iff,
    derivePatch_eq_error_iff, Pod.sparkContainer_eq_error_iff, Pod.not_hasSparkContainer_iff]
  constructor
  · rintro ⟨pod, role, declaring, hconcerns, e, ⟨hnone, rfl⟩, rfl⟩
    exact ⟨pod, role, declaring, hconcerns, hnone, rfl⟩
  · rintro ⟨pod, role, declaring, hconcerns, hnone, rfl⟩
    exact ⟨pod, role, declaring, hconcerns, _, ⟨hnone, rfl⟩, rfl⟩

/-- All messages begin alike. -/
theorem take_of_verdict_eq_denied {message : String}
    (h : request.verdict app settings = .denied message) :
    message.toList.take 4 = "pod ".toList := by
  obtain ⟨pod, role, declaring, -, -, rfl⟩ := verdict_eq_denied_iff.1 h
  simp only [String.toList_append, List.append_assoc]
  exact List.take_left' (by decide)

theorem verdict_ne_invalid (message : String) :
    request.verdict app settings ≠ .invalid message := by
  intro h
  obtain ⟨pod, role, declaring, -, he⟩ :=
    (verdict_eq_iff (nofun : Verdict.invalid message ≠ .allowed)).1 h
  exact Verdict.ofDerived_ne_invalid message he

theorem verdict_eq_allowed_iff :
    request.verdict app settings = .allowed ↔
      (∀ message, request.verdict app settings ≠ .denied message) ∧
        ∀ ops, request.verdict app settings ≠ .patched ops := by
  constructor
  · intro h
    rw [h]
    exact ⟨nofun, nofun⟩
  · rintro ⟨hdenied, hpatched⟩
    cases hverdict : request.verdict app settings with
    | allowed => rfl
    | patched ops => exact absurd hverdict (hpatched ops)
    | denied message => exact absurd hverdict (hdenied message)
    | invalid message => exact absurd hverdict (verdict_ne_invalid message)

end Request

/-- The answer to a request, with the application that is found for it, has the identifier of the
request, and is of one of three kinds. It denies the object exactly when the request is about a pod
with the label of a role, there is an application, and none of the containers has one of the two
names; the message tells the name of the pod and these names. It admits the object with operations
exactly when there are all these, a container has one of the names, and the operations for the role
are not none; these operations are read from the answer. It admits the object as it is in all other
cases. Every error is one of the pod, every patch can be written, and no other error is told. -/
theorem said_verdict (review : Review) (request : Request) (app : Option Application)
    (settings : Settings) :
    ∃ answer,
      (∀ reading : NumberReading, reading.KeepsWhole → Json.parse? reading
        (review.respond request (request.verdict app settings)).toJson.render = some answer) ∧
      answer.at? ["response", "uid"] = some (.string request.uid) ∧
      (∀ message, Denies answer message ↔
        ∃ pod role declaring, request.Concerns app pod role declaring ∧
          ¬ pod.HasSparkContainer settings ∧
          message = "pod " ++ pod.name?.getD "" ++ ": no container named " ++
            (settings.driverContainer ++ " or " ++ settings.executorContainer)) ∧
      (∀ ops, Patches answer ops ↔
        ∃ pod role declaring, request.Concerns app pod role declaring ∧
          pod.HasSparkContainer settings ∧ derivePatch pod declaring role settings = .ok ops ∧
          ops ≠ []) ∧
      (Admits answer ↔ (∀ message, ¬ Denies answer message) ∧ ∀ ops, ¬ Patches answer ops) ∧
      (∀ message ops, ¬ (Denies answer message ∧ Patches answer ops)) ∧
      (∀ pod role declaring, request.Concerns app pod role declaring →
        (∀ e, derivePatch pod declaring role settings = .error e → e.isPodRejection = true) ∧
        ∀ ops, derivePatch pod declaring role settings = .ok ops → ∃ text, ops.written = .ok text) ∧
      ∀ what, ¬ Denies answer ("internal error: " ++ what) ∧
        ¬ Denies answer ("patch serialization error: " ++ what) := by
  have hdenies : ∀ message,
      Denies (review.respond request (request.verdict app settings)).said message ↔
        request.verdict app settings = .denied message := fun _ => denies_said_iff
  have hpatches : ∀ ops,
      Patches (review.respond request (request.verdict app settings)).said ops ↔
        request.verdict app settings = .patched ops := fun ops =>
    patches_said_iff fun ops hops => by
      -- whatever is told in a patch comes from documents in normal form, so the text says it
      obtain ⟨pod, role, declaring, -, -, hderived, -⟩ :=
        Request.verdict_eq_patched_iff_hasSparkContainer.1 hops
      exact canonical_derivePatch hderived
  have hadmits : Admits (review.respond request (request.verdict app settings)).said ↔
      request.verdict app settings = .allowed := admits_said_iff
  refine ⟨(review.respond request (request.verdict app settings)).said,
    fun reading hkeeps => Response.parse?_render hkeeps _,
    (review.respond request (request.verdict app settings)).said_spec.2.2.1,
    fun message => (hdenies message).trans Request.verdict_eq_denied_iff,
    fun ops => (hpatches ops).trans Request.verdict_eq_patched_iff_hasSparkContainer, ?_,
    fun message ops h => ?_, fun pod role declaring _ => ⟨fun e he =>
      isPodRejection_of_derivePatch he, fun ops _ => ⟨_, ops.written_eq⟩⟩, fun what => ?_⟩
  · simp only [hadmits, hdenies, hpatches]
    exact Request.verdict_eq_allowed_iff
  · exact nomatch ((hdenies message).1 h.1).symm.trans ((hpatches ops).1 h.2)
  · -- messages begin with `pod `, even where the container names are chosen like these texts
    rw [hdenies, hdenies]
    constructor <;>
      · intro h
        have htake := Request.take_of_verdict_eq_denied h
        rw [String.toList_append, List.take_append_of_le_length (by decide)] at htake
        exact absurd htake (by decide)

/-- A driver without a Spark container. -/
def sidecarPod : Pod :=
  .ofSource (.ofJson (.object [
    ("metadata", .object [("labels", .object [(roleLabel, .string "driver")]),
      ("name", .string "pi-driver")]),
    ("spec", .object [("containers", .array [.object [("name", .string "sidecar")]])])]))

/-- All three kinds of answers are given. -/
theorem said_verdict_sample :
    (∃ answer, Json.parse? denoted (sampleReview.respond ⟨"1", none, some sidecarPod⟩
        (Request.verdict ⟨"1", none, some sidecarPod⟩ (some sampleApplication) {})).toJson.render =
          some answer ∧
      Denies answer
        "pod pi-driver: no container named spark-kubernetes-driver or executor") ∧
      (∃ answer ops, Json.parse? denoted (sampleReview.respond sampleRequest
        (sampleRequest.verdict (some sampleApplication) {})).toJson.render = some answer ∧
        derivePatch samplePod sampleApplication .driver {} = .ok ops ∧ Patches answer ops) ∧
      ∃ answer, Json.parse? denoted (sampleReview.respond sampleRequest
        (sampleRequest.verdict none {})).toJson.render = some answer ∧ Admits answer := by
  refine ⟨?_, ?_, ?_⟩
  · obtain ⟨answer, hread, -, hdenies, -⟩ :=
      said_verdict sampleReview ⟨"1", none, some sidecarPod⟩ (some sampleApplication) {}
    refine ⟨answer, hread denoted keepsWhole_denoted, (hdenies _).2
      ⟨sidecarPod, .driver, sampleApplication, ⟨rfl, rfl, rfl⟩, ?_, by decide⟩⟩
    exact Pod.not_hasSparkContainer_iff.2 (by decide)
  · obtain ⟨answer, hread, -, -, hpatches, -⟩ :=
      said_verdict sampleReview sampleRequest (some sampleApplication) {}
    have hderived : derivePatch samplePod sampleApplication .driver {} = .ok _ := rfl
    exact ⟨answer, _, hread denoted keepsWhole_denoted, hderived, (hpatches _).2
      ⟨samplePod, .driver, sampleApplication, ⟨rfl, rfl, rfl⟩,
        hasSparkContainer_of_derivePatch hderived, hderived, nofun⟩⟩
  · obtain ⟨answer, hread, -, hdenies, hpatches, hadmits, -⟩ :=
      said_verdict sampleReview sampleRequest none {}
    refine ⟨answer, hread denoted keepsWhole_denoted,
      hadmits.2 ⟨fun message h => ?_, fun ops h => ?_⟩⟩
    · obtain ⟨pod, role, declaring, ⟨-, -, happ⟩, -⟩ := (hdenies message).1 h
      cases happ
    · obtain ⟨pod, role, declaring, ⟨-, -, happ⟩, -⟩ := (hpatches ops).1 h
      cases happ

end Admission

end SparkAdmission
