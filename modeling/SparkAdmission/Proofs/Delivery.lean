import Mathlib.Data.String.Basic
import SparkAdmission.Proofs.Admission.Response
import SparkAdmission.Proofs.Derivation
import SparkAdmission.Proofs.Webhook

/-!
# From a posted review to the operations

The operations for a pod are written as a text, the bytes of that text are listed in the response,
and the response is sent as a text again. Reading goes the same way back, and ends with the very
operations that were derived (`exchange_of_request`). A patch has a text that says it because all
its values are in canonical form (`canonical_derivePatch`).
-/

namespace SparkAdmission

open Source

/-! ### Operations for a request -/

namespace Admission

/-- The operations are derived for the pod of the request from the application that the API server
tells for it. -/
inductive Request.Derives (request : Request) (api : ApiServer) (settings : Settings)
    (ops : Patch) : Prop
  | intro {ref : ApplicationRef} {target : String} {app : Application} {pod : Pod} {role : Role}
      (reference : request.applicationRef? = some ref) (asked : ref.target = .ok target)
      (told : (api target).Tells (some app)) (object : request.object = some pod)
      (plays : pod.role? = some role) (derived : derivePatch pod app role settings = .ok ops)

namespace Request.Derives

variable {request : Request} {api : ApiServer} {settings : Settings} {ops : Patch}

theorem canonical (h : request.Derives api settings ops) : ∀ op ∈ ops, op.value.Canonical := by
  obtain ⟨-, -, -, -, -, derived⟩ := h
  exact canonical_derivePatch derived

end Request.Derives

theorem Request.verdictAfter_eq_patched_iff {request : Request} {settings : Settings}
    {outcome : Except LookupError (Option Application)} {ops : Patch} :
    request.verdictAfter settings outcome = .patched ops ↔
      ∃ app pod role, outcome = .ok (some app) ∧ request.object = some pod ∧
        pod.role? = some role ∧ derivePatch pod app role settings = .ok ops ∧ ops ≠ [] := by
  cases outcome with
  | error e => exact ⟨nofun, nofun⟩
  | ok app =>
    rw [verdictAfter, verdict_eq_patched_iff]
    constructor
    · rintro ⟨pod, role, app, hobject, hrole, rfl, hops, hne⟩
      exact ⟨app, pod, role, rfl, hobject, hrole, hops, hne⟩
    · rintro ⟨app, pod, role, happ, hobject, hrole, hops, hne⟩
      exact ⟨pod, role, app, hobject, hrole, Except.ok.inj happ, hops, hne⟩

/-- A request is answered with a verdict, and with a patch where operations are derived for it. -/
theorem Review.exists_verdict {review : Review} {request : Request}
    (h : review.request = some request) (complaint : Complaint) (api : ApiServer)
    (settings : Settings) :
    ∃ verdict, (review.answer complaint api settings).response = review.respond request verdict ∧
      ∀ ops, verdict = .patched ops ↔ request.Derives api settings ops ∧ ops ≠ [] := by
  rw [answer_of_some h]
  cases href : request.applicationRef? with
  | none =>
    rw [review.answerRequest_of_none href, Request.verdict_none]
    refine ⟨_, rfl, fun ops => ⟨nofun, ?_⟩⟩
    rintro ⟨⟨reference, -⟩, -⟩
    cases href.symm.trans reference
  | some ref =>
    cases htarget : ref.target with
    | error e =>
      rw [review.answerRequest_of_lookup href
        (ApplicationRef.lookup_of_target_error complaint api htarget)]
      refine ⟨_, rfl, fun ops => ⟨nofun, ?_⟩⟩
      rintro ⟨⟨reference, asked, -⟩, -⟩
      cases href.symm.trans reference
      cases htarget.symm.trans asked
    | ok target =>
      rw [review.answerRequest_of_lookup href
        (ApplicationRef.lookup_of_target complaint api htarget)]
      refine ⟨_, rfl, fun ops => Request.verdictAfter_eq_patched_iff.trans ⟨?_, ?_⟩⟩
      · rintro ⟨app, pod, role, happ, hobject, hrole, hops, hne⟩
        exact ⟨⟨href, htarget, Reply.application_eq_ok_iff.1 happ, hobject, hrole, hops⟩, hne⟩
      · rintro ⟨⟨reference, asked, told, hobject, hrole, hops⟩, hne⟩
        cases href.symm.trans reference
        cases htarget.symm.trans asked
        exact ⟨_, _, _, Reply.application_eq_ok_iff.2 told, hobject, hrole, hops, hne⟩

end Admission

namespace Webhook

/-- The response to a posted review with a request is a text that says the version and the kind of
the review and the identifier of its request. It lists a patch exactly when operations are derived
for the request and there are any. The bytes are those of a text in UTF-8, and the text says those
operations, all of them, in their order. Doubles are back exactly when they are read as the nearest
ones; without doubles, whoever keeps whole numbers reads the operations. -/
theorem exchange_of_request {request : Http.Request} (hpath : request.path = "/mutate/pods")
    (hmethod : request.method = "POST") (hjson : saysJson request = true)
    (hsize : request.body.utf8ByteSize ≤ maxBodyBytes) {review : Admission.Review}
    (hread : Reader.text Admission.Review.read request.body = .ok review)
    {asked : Admission.Request} (hasked : review.request = some asked) (complaint : Complaint)
    (api : ApiServer) (settings : Settings) :
    ∃ body root, (exchange request complaint api settings).response = .json body ∧
      (∀ reading : NumberReading, reading.KeepsWhole → Json.parse? reading body = some root) ∧
      root.at? ["apiVersion"] = some (.string review.apiVersion) ∧
      root.at? ["kind"] = some (.string review.kind) ∧
      root.at? ["response", "uid"] = some (.string asked.uid) ∧
      (∃ allowed, root.at? ["response", "allowed"] = some (.bool allowed)) ∧
      ((root.at? ["response", "patch"]).isSome ↔
        ∃ ops, asked.Derives api settings ops ∧ ops ≠ []) ∧
      ∀ bytes, root.at? ["response", "patch"] = some bytes →
        ∃ ops text, asked.Derives api settings ops ∧ bytes.utf8? = some text ∧
          (Json.parse? exactly text).bind Patch.ofJson? = some ops ∧
          ((∀ op ∈ ops, Numbers (fun n => n.whole?.isSome) op.value) →
            ∀ reading : NumberReading, reading.KeepsWhole →
              (Json.parse? reading text).bind Patch.ofJson? = some ops) := by
  obtain ⟨verdict, hresponse, hpatched⟩ :=
    Admission.Review.exists_verdict hasked complaint api settings
  obtain ⟨hversion, hkind, huid, hallowed, hpatch⟩ :=
    (review.respond asked verdict).said_spec
  refine ⟨(review.respond asked verdict).toJson.render, (review.respond asked verdict).said, ?_,
    fun reading hkeeps => ?_, hversion, hkind, huid, ⟨_, hallowed⟩, ?_, fun bytes hbytes => ?_⟩
  · rw [exchange_of_post hpath hmethod, mutatePods_of_ok hjson hsize hread, hresponse]
  · exact Json.parse?_render (Admission.Response.numbers_toJson (restores_whole hkeeps) _)
  · rw [hpatch, Option.isSome_map]
    cases verdict with
    | patched ops => exact ⟨fun _ => ⟨ops, (hpatched ops).1 rfl⟩, fun _ => rfl⟩
    | _ => exact ⟨nofun, fun ⟨ops, hops⟩ => nomatch (hpatched ops).2 hops⟩
  · rw [hpatch] at hbytes
    cases verdict with
    | patched ops =>
      have hderives := ((hpatched ops).1 rfl).1
      cases hbytes
      refine ⟨ops, ops.toJson.render, hderives, Json.utf8?_bytes _, ?_,
        fun hwhole reading hkeeps => ?_⟩
      · exact Patch.parse?_render hderives.canonical
          fun _ _ => Numbers.of_forall restores_exactly _
      · refine Patch.parse?_render hderives.canonical fun op hop => (hwhole op hop).imp ?_
        rintro (⟨n, hn⟩ | x) hsome
        · exact restores_whole hkeeps n hn
        · cases hsome
    | _ => cases hbytes

/-! ### A driver -/

/-- A review that asks to admit the sample driver. -/
def askingValue : Json :=
  .object [("apiVersion", .string "admission.k8s.io/v1"), ("kind", .string "AdmissionReview"),
    ("request", .object [
      ("kind", .object [("group", .string ""), ("kind", .string "Pod"), ("version", .string "v1")]),
      ("namespace", .string "default"),
      ("object", sampleRaw),
      ("operation", .string "CREATE"),
      ("resource", .object [("group", .string ""), ("resource", .string "pods"),
        ("version", .string "v1")]),
      ("uid", .string "1"),
      ("userInfo", .object [])])]

/-- A toleration whose key has to be escaped and whose time takes all of 64 bits. -/
def sampleToleration : Json :=
  .object [("key", .string "a\"\\\n\u0001😀"),
    ("tolerationSeconds", .number (.whole (-0x8000000000000000) (by decide)))]

/-- An application with that toleration. -/
def tolerantValue : Json :=
  .object [("metadata", .object [("name", .string "pi"), ("uid", .string "7")]),
    ("spec", .object [("driver", .object [("tolerations", .array [sampleToleration])]),
      ("executor", .object [])])]

/-- The application that is read from `tolerantValue`. -/
def tolerantApplication : Application where
  metadata := .ofSource (.ofJson (.object [("name", .string "pi"), ("uid", .string "7")]))
  spec := { driver := { tolerations := [.ofSource (.ofJson sampleToleration)] } }

/-- The operations for the sample driver of that application. -/
def tolerantPatch : Patch :=
  [⟨⟨["metadata", "ownerReferences"]⟩, .array [tolerantApplication.ownerReference]⟩,
    ⟨⟨["spec", "tolerations"]⟩, .array [sampleToleration]⟩]

theorem exchange_of_request_sample :
    saysJson (posted askingValue.render) = true ∧
      askingValue.render.utf8ByteSize ≤ maxBodyBytes ∧
      Reader.text Admission.Review.read askingValue.render = .ok Admission.sampleReview ∧
      Admission.sampleReview.request = some Admission.sampleRequest ∧
      ∃ body root bytes text,
        (exchange (posted askingValue.render) (fun _ => "")
          (fun _ => .response 200 tolerantValue.render.toUTF8) {}).response = .json body ∧
        Json.parse? denoted body = some root ∧ root.at? ["response", "patch"] = some bytes ∧
        bytes.utf8? = some text ∧
        (Json.parse? denoted text).bind Patch.ofJson? = some tolerantPatch := by
  have hjson : saysJson (posted askingValue.render) = true := by decide +kernel
  have hsize : askingValue.render.utf8ByteSize ≤ maxBodyBytes := by
    rw [Json.render, String.utf8ByteSize_ofList]
    decide +kernel
  have hread : Reader.text Admission.Review.read askingValue.render =
      .ok Admission.sampleReview :=
    Reader.text_render (by simp [askingValue, sampleRaw, environmentVariable]) rfl
  have happ : Reader.text Application.read tolerantValue.render = .ok tolerantApplication :=
    Reader.text_render
      (by simp [tolerantValue, sampleToleration, restores_whole keepsWhole_denoted]) rfl
  have hdecoded := Json.fromUTF8?_toUTF8 tolerantValue.render
  have hderived : derivePatch samplePod tolerantApplication .driver {} = .ok tolerantPatch := rfl
  have hwhole : ∀ op ∈ tolerantPatch, Numbers (fun n => n.whole?.isSome) op.value := by
    simp [tolerantPatch, sampleToleration, Application.ownerReference, Number.whole?]
  obtain ⟨body, root, hresponse, hroot, -, -, -, -, hiff, hpatch⟩ := exchange_of_request
    (rfl : (posted askingValue.render).path = _) rfl hjson hsize hread rfl
    (fun _ => "") (fun _ => .response 200 tolerantValue.render.toUTF8) {}
  obtain ⟨bytes, hbytes⟩ := Option.isSome_iff_exists.1
    (hiff.2 ⟨tolerantPatch, .intro rfl rfl (.found hdecoded rfl happ) rfl rfl hderived,
      nofun⟩)
  obtain ⟨ops, text, ⟨reference, asked, told, object, plays, derived⟩, htext, -, hops⟩ :=
    hpatch bytes hbytes
  cases reference
  cases object
  cases plays
  cases told with
  | found decoded success read =>
    rw [← Option.some.inj (hdecoded.symm.trans decoded)] at read
    cases happ.symm.trans read
    cases hderived.symm.trans derived
    exact ⟨hjson, hsize, hread, rfl, body, root, bytes, text, hresponse,
      hroot denoted keepsWhole_denoted, hbytes, htext, hops hwhole denoted keepsWhole_denoted⟩

end Webhook

end SparkAdmission
