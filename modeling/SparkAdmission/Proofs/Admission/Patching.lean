import SparkAdmission.Admission.Decision
import SparkAdmission.Proofs.Derivation
import SparkAdmission.Proofs.Kubernetes.SourceReading
import SparkAdmission.Proofs.Patch

/-!
# Patches and the documents they are applied to

A request that concerns a pod with a role and an application is decided on by what is derived for
them, every other one admits the object as it is (`Request.verdict_eq_iff`). The decision looks at
the pod that is read from a document; the API server applies the patch to the document itself, with
its unknown members, `null`s and repeated names. Both ways agree (`run?_of_patched`): the patch
applies to the document, does there what it does to the pod, and what is read from the patched
document is the patched pod.
-/

namespace SparkAdmission

open Json Shape

theorem Pod.role?_eq_some_iff {pod : Pod} {role : Role} :
    pod.role? = some role ↔ pod.label? roleLabel = some role.name := by
  rw [role?, Option.bind_eq_some_iff]
  constructor
  · rintro ⟨name, hname, hrole⟩
    rw [hname, Role.ofName?_eq_some_iff.1 hrole]
  · intro h
    exact ⟨role.name, h, role.ofName?_name⟩

namespace Admission

/-! ### Verdicts -/

/-- The request is about a pod that plays a role, and there is an application for it. -/
structure Request.Concerns (request : Request) (app : Option Application) (pod : Pod) (role : Role)
    (declaring : Application) : Prop where
  object : request.object = some pod
  role : pod.label? roleLabel = some role.name
  application : app = some declaring

namespace Verdict

/-- The verdict on a pod, given the operations that are derived for it or the error. -/
def ofDerived : Except Error Patch → Verdict
  | .ok [] => .allowed
  | .ok (op :: ops) => .patched (op :: ops)
  | .error e => .denied (denial e)

variable {derived : Except Error Patch}

theorem ofDerived_eq_patched_iff {ops : Patch} :
    ofDerived derived = .patched ops ↔ derived = .ok ops ∧ ops ≠ [] := by
  constructor
  · intro h
    match derived with
    | .ok [] | .error e => cases h
    | .ok (op :: ops) =>
      cases h
      exact ⟨rfl, nofun⟩
  · rintro ⟨rfl, hne⟩
    cases ops with
    | nil => exact absurd rfl hne
    | cons op ops => rfl

theorem ofDerived_eq_denied_iff {message : String} :
    ofDerived derived = .denied message ↔ ∃ e, derived = .error e ∧ message = denial e := by
  constructor
  · intro h
    match derived with
    | .ok [] | .ok (op :: ops) => cases h
    | .error e =>
      cases h
      exact ⟨e, rfl, rfl⟩
  · rintro ⟨e, rfl, rfl⟩
    rfl

/-- Every patch can be written. -/
theorem withPatch_eq (patch : Patch) : withPatch patch = .patched patch := by
  rw [withPatch, Patch.written_eq]

theorem ofDerived_ne_invalid (message : String) : ofDerived derived ≠ .invalid message :=
  match derived with
  | .ok [] | .ok (_ :: _) | .error _ => nofun

end Verdict

namespace Request

variable {request : Request} {app : Option Application} {settings : Settings}

theorem concerns_iff {pod : Pod} {role : Role} {declaring : Application} :
    request.Concerns app pod role declaring ↔
      request.object = some pod ∧ pod.role? = some role ∧ app = some declaring := by
  rw [Pod.role?_eq_some_iff]
  exact ⟨fun h => ⟨h.object, h.role, h.application⟩, fun h => ⟨h.1, h.2.1, h.2.2⟩⟩

theorem Concerns.verdict_eq {pod : Pod} {role : Role} {declaring : Application}
    (h : request.Concerns app pod role declaring) :
    request.verdict app settings = .ofDerived (derivePatch pod declaring role settings) := by
  obtain ⟨hobject, hrole, happ⟩ := concerns_iff.1 h
  simp only [verdict, hobject, hrole, happ]
  cases derivePatch pod declaring role settings with
  | ok ops =>
    cases ops with
    | nil => rfl
    | cons op ops => exact Verdict.withPatch_eq _
  | error e => rfl

theorem verdict_eq_allowed_of_forall_not_concerns
    (h : ∀ pod role declaring, ¬ request.Concerns app pod role declaring) :
    request.verdict app settings = .allowed := by
  unfold verdict
  split
  · rfl
  · rename_i pod hobject
    split
    · rename_i role declaring hrole
      exact absurd (concerns_iff.2 ⟨hobject, hrole, rfl⟩) (h pod role declaring)
    · rfl

/-- Every verdict that does not admit the object as it is comes from what is derived for a pod that
the request concerns. -/
theorem verdict_eq_iff {verdict : Verdict} (hne : verdict ≠ .allowed) :
    request.verdict app settings = verdict ↔
      ∃ pod role declaring, request.Concerns app pod role declaring ∧
        .ofDerived (derivePatch pod declaring role settings) = verdict := by
  constructor
  · intro h
    by_cases hconcerns : ∃ pod role declaring, request.Concerns app pod role declaring
    · obtain ⟨pod, role, declaring, hconcerns⟩ := hconcerns
      exact ⟨pod, role, declaring, hconcerns, hconcerns.verdict_eq.symm.trans h⟩
    · refine absurd (h.symm.trans (verdict_eq_allowed_of_forall_not_concerns ?_)) hne
      exact fun pod role declaring hc => hconcerns ⟨pod, role, declaring, hc⟩
  · rintro ⟨pod, role, declaring, hconcerns, h⟩
    exact hconcerns.verdict_eq.trans h

theorem verdict_eq_patched_iff {patch : Patch} :
    request.verdict app settings = .patched patch ↔
      ∃ pod role declaring, request.object = some pod ∧ pod.role? = some role ∧
        app = some declaring ∧ derivePatch pod declaring role settings = .ok patch ∧
          patch ≠ [] := by
  simp only [verdict_eq_iff (nofun : Verdict.patched patch ≠ .allowed),
    Verdict.ofDerived_eq_patched_iff, concerns_iff, and_assoc]

end Request

/-! ### Patched documents -/

/-- A raw document of a pod with a role has metadata, since the role was found there. -/
theorem hasPlaces_of_role {pod : Pod} {role : Role} {container : Nat} {raw : Json}
    (h : Reads Kubernetes.pod raw pod.json) (hr : pod.role? = some role)
    (hc : container < pod.containers.length) : HasPlaces pod container raw := by
  refine ⟨h, ?_, hc⟩
  obtain ⟨name, hname, -⟩ := Option.bind_eq_some_iff.1 hr
  obtain ⟨value, hvalue, -⟩ := Option.bind_eq_some_iff.1 hname
  rw [at?_cons] at hvalue
  obtain ⟨metadata, hmetadata, hlabels⟩ := Option.bind_eq_some_iff.1 hvalue
  have hdefault : metadata ≠ Kubernetes.objectMeta.default := by
    rintro rfl
    cases hlabels
  obtain ⟨child, hchild, hreads⟩ : ∃ child, raw.child? "metadata" = some child ∧
      Reads Kubernetes.objectMeta child metadata :=
    h.exists_member isSorted_pod rfl (by simp) (child?_of_get? hmetadata) hdefault
  obtain ⟨members, rfl⟩ := hreads.accepts.eq_object
  exact ⟨members, hchild⟩

/-- A patch that a request is answered with applies to the document from which its pod was read.
There the lists have the items of the application behind their own, settings that the pod has not
are made, and nothing else is changed. The patched document is read as the patched pod. -/
theorem run?_of_patched {request : Request} {pod : Pod} {depth : Levels} {source : Source}
    {app : Option Application} {settings : Settings} {patch : Patch}
    (hobject : request.object = some pod) (hread : Document.read depth source = .ok pod)
    (hverdict : request.verdict app settings = .patched patch) :
    Patch.ofJson? patch.toJson = some patch ∧
      ∃ declaring role container, app = some declaring ∧ pod.role? = some role ∧
        pod.sparkContainer settings = .ok container ∧
        ∃ doc, Patch.run? patch source.toJson = some doc ∧
          (∀ list, doc.follow? (PodLists.place container list) =
            extended (Changes.additions declaring role settings list)
              (source.toJson.follow? (PodLists.place container list))) ∧
          (∀ s : PodSetting, doc.follow? s.place =
            (Changes.given pod declaring role s).or (source.toJson.follow? s.place)) ∧
          (∀ q, Changes.Untouched pod declaring role settings container q →
            doc.follow? q = source.toJson.follow? q) ∧
          ∃ patched : Pod, Reader.value Document.read doc = some patched ∧
            Patch.run? patch pod.json = some patched.json := by
  obtain ⟨pod', role, declaring, hobject', hrole, rfl, hops, -⟩ :=
    Request.verdict_eq_patched_iff.1 hverdict
  have hpod : pod' = pod := Option.some.inj (hobject'.symm.trans hobject)
  subst hpod
  obtain ⟨container, hcontainer, rfl⟩ := derivePatch_eq_ok_iff.1 hops
  have hlt := Pod.lt_of_sparkContainer hcontainer
  have hreads := Document.reads_of_read hread
  have hplaces := hasPlaces_of_role hreads hrole hlt
  refine ⟨Patch.ofJson?_toJson _, declaring, role, container, rfl, hrole, hcontainer, _,
    hplaces.run?_performAll _, hplaces.follow?_list, hplaces.follow?_setting,
    fun q hq => Changes.follow?_of_untouched hq, ?_⟩
  -- the raw document and the document of the pod are changed alike
  have hboth := reads_applyAll hreads hplaces.isMember_place hplaces.isMember_setting
    fun change (hc : change ∈ Changes.all pod' declaring role settings) =>
      Changes.conforms_of_mem_all hc
  obtain ⟨patched, hvalue, hjson⟩ := Document.value_of_reads hboth
  exact ⟨patched, hvalue, by rw [hjson, (hasPlaces_json hlt).run?_performAll]⟩

/-- A request to admit the sample driver. -/
def sampleRequest : Request := ⟨"1", some "default", some samplePod⟩

theorem run?_of_patched_sample :
    Document.read Source.textLevels (.ofJson sampleRaw) = .ok samplePod ∧
      ∃ patch, sampleRequest.verdict (some sampleApplication) {} = .patched patch ∧
        ∃ doc, Patch.run? patch (Source.ofJson sampleRaw).toJson = some doc ∧
          doc.follow? ["extra"] = some (.bool true) ∧
          doc.follow? ["metadata", "ownerReferences"] =
            some (.array [sampleApplication.ownerReference]) ∧
          ∃ patched : Pod, Reader.value Document.read doc = some patched ∧
            Patch.run? patch samplePod.json = some patched.json := by
  obtain ⟨-, declaring, role, container, happ, hrole, hcontainer, doc, hrun, hlist, -, hrest,
      hread⟩ := run?_of_patched (rfl : sampleRequest.object = some samplePod)
    (rfl : Document.read Source.textLevels (.ofJson sampleRaw) = .ok samplePod)
    (rfl : sampleRequest.verdict (some sampleApplication) {} = .patched _)
  cases happ
  cases hrole
  cases hcontainer
  refine ⟨rfl, _, rfl, doc, hrun, ?_, hlist .ownerReferences, hread⟩
  rw [hrest ["extra"] ⟨fun list _ => ?_, fun s _ => ?_⟩]
  · rfl
  · cases list <;> simp [PodLists.place]
  · cases s <;> simp [PodSetting.place]

end Admission

end SparkAdmission
