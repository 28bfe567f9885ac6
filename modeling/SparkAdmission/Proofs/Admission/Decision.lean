import SparkAdmission.Proofs.Admission.Patching
import SparkAdmission.Proofs.Admission.Response

/-!
# The lookup behind a decision

The answer to a request is the verdict on it, given what one reply of the API server tells of its
application. `answer_of_request` says so for every behaviour of the API server: a pod that refers to
no application is answered without a lookup, as if its application were missing; else the verdict is
that for the application of the reply, or a denial that says why the reply tells nothing or why no
request could be made. Not every reference leads to a request (`not_forall_reference_requested`).
-/

namespace SparkAdmission

namespace Reply

/-- What a reply tells of the application: that there is none, or which one it is. -/
inductive Tells : Reply → Option Application → Prop
  | notFound {status : Nat} {body : ByteArray} {text : String}
      (decoded : String.fromUTF8? body = some text) (error : Http.isError status = true)
      (reason : (ApiStatus.ofResponse status text).reason = ApiStatus.notFound) :
      Tells (.response status body) none
  | found {status : Nat} {body : ByteArray} {text : String} {app : Application}
      (decoded : String.fromUTF8? body = some text) (success : Http.isError status = false)
      (read : Reader.text Application.read text = .ok app) :
      Tells (.response status body) (some app)

/-- Why a reply tells nothing of the application. -/
inductive Fails (complaint : Complaint) : Reply → LookupError → Prop
  | transport (what : String) : Fails complaint (.failure what) (.transport what)
  | undecodable {status : Nat} {body : ByteArray} (coded : String.fromUTF8? body = none) :
      Fails complaint (.response status body) (.undecodable (complaint body))
  | api {status : Nat} {body : ByteArray} {text : String}
      (decoded : String.fromUTF8? body = some text) (error : Http.isError status = true)
      (reason : (ApiStatus.ofResponse status text).reason ≠ ApiStatus.notFound) :
      Fails complaint (.response status body) (.api (ApiStatus.ofResponse status text))
  | unreadable {status : Nat} {body : ByteArray} {text : String}
      (decoded : String.fromUTF8? body = some text) (success : Http.isError status = false)
      (unread : ∀ app, Reader.text Application.read text ≠ .ok app) :
      Fails complaint (.response status body) (.unreadable (complaint body))

variable {complaint : Complaint} {reply : Reply}

theorem Tells.application_eq {app : Option Application} (h : reply.Tells app) :
    reply.application complaint = .ok app := by
  cases h with
  | notFound decoded error reason =>
    simp only [application, decoded, if_pos error, if_pos reason]
  | found decoded success read => simp [application, decoded, success, read]

theorem Fails.application_eq {e : LookupError} (h : reply.Fails complaint e) :
    reply.application complaint = .error e := by
  cases h with
  | transport what => rfl
  | undecodable coded => simp only [application, coded]
  | api decoded error reason => simp only [application, decoded, if_pos error, if_neg reason]
  | unreadable decoded success unread =>
    cases hread : Reader.text Application.read _ with
    | ok app => exact absurd hread (unread app)
    | error e => simp [application, decoded, success, hread]

/-- A reply tells of the application, or there is a reason why it does not. -/
theorem tells_or_fails (complaint : Complaint) (reply : Reply) :
    (∃ app, reply.Tells app) ∨ ∃ e, reply.Fails complaint e := by
  cases reply with
  | failure what => exact .inr ⟨_, .transport what⟩
  | response status body =>
    cases decoded : String.fromUTF8? body with
    | none => exact .inr ⟨_, .undecodable decoded⟩
    | some text =>
      cases error : Http.isError status with
      | true =>
        by_cases reason : (ApiStatus.ofResponse status text).reason = ApiStatus.notFound
        · exact .inl ⟨_, .notFound decoded error reason⟩
        · exact .inr ⟨_, .api decoded error reason⟩
      | false =>
        cases read : Reader.text Application.read text with
        | ok app => exact .inl ⟨_, .found decoded error read⟩
        | error e => exact .inr ⟨_, .unreadable decoded error fun app => by rw [read]; nofun⟩

theorem application_eq_ok_iff {app : Option Application} :
    reply.application complaint = .ok app ↔ reply.Tells app := by
  refine ⟨fun h => ?_, Tells.application_eq⟩
  rcases tells_or_fails complaint reply with ⟨app', htells⟩ | ⟨e, hfails⟩
  · cases htells.application_eq.symm.trans h
    exact htells
  · cases hfails.application_eq.symm.trans h

end Reply

theorem ApplicationRef.eq_of_target {ref : ApplicationRef} {target : String}
    (h : ref.target = .ok target) : target = String.ofList (withoutFragment ref.path.toList) := by
  simp only [ApplicationRef.target] at h
  split at h
  · cases h
  · split at h
    · cases h
    · split at h
      · exact (Except.ok.inj h).symm
      · cases h

namespace Admission

/-- Without an application a request is always allowed. -/
theorem Request.verdict_none (request : Request) (settings : Settings) :
    request.verdict none settings = .allowed := by
  unfold verdict
  split
  · rfl
  · split
    · contradiction
    · rfl

/-- The verdict when the lookup ends in this way. -/
def Request.verdictAfter (request : Request) (settings : Settings) :
    Except LookupError (Option Application) → Verdict
  | .ok app => request.verdict app settings
  | .error e => .denied (Error.lookup e).message

namespace Review

variable (review : Review) {request : Request} {ref : ApplicationRef}

theorem answer_of_some {review : Review} (h : review.request = some request)
    (complaint : Complaint) (api : ApiServer) (settings : Settings) :
    review.answer complaint api settings =
      review.answerRequest request complaint api settings := by
  rw [answer, h]

theorem answerRequest_of_none (h : request.applicationRef? = none) (complaint : Complaint)
    (api : ApiServer) (settings : Settings) :
    review.answerRequest request complaint api settings =
      ⟨review.respond request (request.verdict none settings), []⟩ := by
  rw [answerRequest, h, Request.verdict_none]

/-- The answer when a lookup ends in this way. -/
theorem answerRequest_of_lookup (h : request.applicationRef? = some ref) {complaint : Complaint}
    {api : ApiServer} {requests : List String}
    {outcome : Except LookupError (Option Application)}
    (hl : ref.lookup complaint api = ⟨requests, outcome⟩) (settings : Settings) :
    review.answerRequest request complaint api settings =
      ⟨review.respond request (request.verdictAfter settings outcome), requests⟩ := by
  rw [answerRequest, h]
  simp only [hl]
  cases outcome <;> rfl

end Review

/-- The answer to a request is the verdict for what the one reply tells, if a lookup is needed. If
the reply tells nothing or no request can be made, it is a denial that says why. It depends on
nothing else that the API server would answer. -/
theorem answer_of_request {review : Review} {request : Request}
    (h : review.request = some request) (complaint : Complaint) (api : ApiServer)
    (settings : Settings) :
    (request.applicationRef? = none → review.answer complaint api settings =
      ⟨review.respond request (request.verdict none settings), []⟩) ∧
    (∀ ref target, request.applicationRef? = some ref → ref.target = .ok target →
      target = String.ofList (ApplicationRef.withoutFragment ref.path.toList) ∧
      (review.answer complaint api settings).requests = [target] ∧
      (∀ app, (api target).Tells app → (review.answer complaint api settings).response =
        review.respond request (request.verdict app settings)) ∧
      (∀ e, (api target).Fails complaint e → (review.answer complaint api settings).response =
        review.respond request (.denied (Error.lookup e).message)) ∧
      ((∃ app, (api target).Tells app) ∨ ∃ e, (api target).Fails complaint e)) ∧
    (∀ ref e, request.applicationRef? = some ref → ref.target = .error e →
      review.answer complaint api settings =
        ⟨review.respond request (.denied (Error.lookup e).message), []⟩) ∧
    ∀ other : ApiServer, (∀ ref target, request.applicationRef? = some ref →
        ref.target = .ok target → other target = api target) →
      review.answer complaint other settings = review.answer complaint api settings := by
  simp only [Review.answer_of_some h]
  refine ⟨fun hnone => review.answerRequest_of_none hnone complaint api settings,
    fun ref target href htarget => ?_, fun ref e href htarget => ?_, fun other hother => ?_⟩
  · have hanswer := review.answerRequest_of_lookup href
      (ApplicationRef.lookup_of_target complaint api htarget) settings
    rw [hanswer]
    refine ⟨ApplicationRef.eq_of_target htarget, rfl, fun app htells => ?_, fun e hfails => ?_,
      Reply.tells_or_fails complaint _⟩
    · rw [htells.application_eq]
      rfl
    · rw [hfails.application_eq]
      rfl
  · exact review.answerRequest_of_lookup href
      (ApplicationRef.lookup_of_target_error complaint api htarget) settings
  · cases href : request.applicationRef? with
    | none =>
      rw [review.answerRequest_of_none href, review.answerRequest_of_none href]
    | some ref =>
      cases htarget : ref.target with
      | ok target =>
        rw [review.answerRequest_of_lookup href
            (ApplicationRef.lookup_of_target complaint other htarget),
          review.answerRequest_of_lookup href
            (ApplicationRef.lookup_of_target complaint api htarget), hother ref target href htarget]
      | error e =>
        rw [review.answerRequest_of_lookup href
            (ApplicationRef.lookup_of_target_error complaint other htarget),
          review.answerRequest_of_lookup href
            (ApplicationRef.lookup_of_target_error complaint api htarget)]

/-- A review that asks to admit the sample driver. -/
def sampleReview : Review := ⟨"admission.k8s.io/v1", "AdmissionReview", some sampleRequest⟩

/-- What is said of a body that is an object without members. -/
def emptyComplaint : Complaint := fun _ => "missing field \x60metadata\x60 at line 1 column 2"

theorem answer_of_request_sample :
    sampleReview.request = some sampleRequest ∧
      sampleRequest.applicationRef? = some ⟨"default", "pi"⟩ ∧
      (sampleReview.answer emptyComplaint (fun _ => .response 200 "\x7b\x7d".toUTF8) {}).requests =
        ["/apis/sparkoperator.k8s.io/v1beta1/namespaces/default/sparkapplications/pi"] ∧
      (sampleReview.answer emptyComplaint (fun _ => .response 200 "\x7b\x7d".toUTF8) {}).response =
        sampleReview.respond sampleRequest (.denied ("kubernetes error: " ++
          "Error deserializing response: missing field \x60metadata\x60 at line 1 column 2")) := by
  have htree : Source.ofText "\x7b\x7d" = (.object [] true, true) := by cbv
  have hunread : ∀ app, Reader.text Application.read "\x7b\x7d" ≠ .ok app := by
    intro app hread
    rw [Reader.text_eq_ok, htree] at hread
    cases hread.1
  obtain ⟨-, hsome, -⟩ := answer_of_request (rfl : sampleReview.request = some sampleRequest)
    emptyComplaint (fun _ => .response 200 "\x7b\x7d".toUTF8) {}
  obtain ⟨-, hrequests, -, hdenied, -⟩ := hsome ⟨"default", "pi"⟩ _ rfl rfl
  exact ⟨rfl, rfl, hrequests,
    hdenied _ (.unreadable (Json.fromUTF8?_toUTF8 _) rfl hunread)⟩

/-- A request to admit a driver whose application label is there, and empty. -/
def unnamedRequest : Request :=
  ⟨"1", some "default", some (.ofSource (.ofJson (.object [("metadata", .object [("labels",
    .object [(roleLabel, .string "driver"), (applicationLabel, .string "")])])])))⟩

/-- Not every reference leads to a request: an application without a name cannot be asked for. -/
theorem not_forall_reference_requested :
    ¬ ∀ (review : Review) (request : Request) (complaint : Complaint) (api : ApiServer)
        (settings : Settings),
      review.request = some request → request.applicationRef? ≠ none →
        (review.answer complaint api settings).requests.length = 1 := by
  intro h
  have hone := h ⟨"admission.k8s.io/v1", "AdmissionReview", some unnamedRequest⟩ unnamedRequest
    emptyComplaint (fun _ => .failure "") {} rfl (by decide)
  cases hone

end Admission

end SparkAdmission
