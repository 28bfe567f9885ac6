import SparkAdmission.Webhook
import SparkAdmission.Proofs.Admission.Decision
import SparkAdmission.Proofs.Admission.Request

/-!
# Answers to posted reviews

A review that can be read is answered with a review, also when it holds no request. What cannot be
read is refused with an HTTP error, and nothing is requested of the API server for it:
`status_of_post` says when, and `not_forall_status_of_post` that it happens.
-/

namespace SparkAdmission.Webhook

open Source

/-- The codes of refusals: malformed, too long, misfit. -/
def refusals : List Nat := [400, 413, 422]

theorem refusal_spec (e : ReadError) :
    (refusal e).status ∈ refusals ∧
      (refusal e).contentType = some "text/plain; charset=utf-8" := by
  cases e <;> exact ⟨by decide, rfl⟩

theorem exchange_of_post {request : Http.Request} (hpath : request.path = "/mutate/pods")
    (hmethod : request.method = "POST") (complaint : Complaint) (api : ApiServer)
    (settings : Settings) :
    exchange request complaint api settings = mutatePods request complaint api settings := by
  have hroute : Route.ofPath? request.path = some .mutatePods := by
    rw [hpath]
    rfl
  have hallowed : Route.methods .mutatePods |>.contains request.method := by
    rw [hmethod]
    rfl
  simp only [exchange, hroute, if_pos hallowed]

/-- Every answer can be written. -/
theorem sent_eq (answer : Admission.Response) : sent answer = .json answer.toJson.render := by
  rw [sent, Datum.toText_ofJson]

/-- The answer to a review that can be read. -/
theorem mutatePods_of_ok {request : Http.Request} {review : Admission.Review}
    (hjson : saysJson request = true) (hsize : request.body.utf8ByteSize ≤ maxBodyBytes)
    (hread : Reader.text Admission.Review.read request.body = .ok review) (complaint : Complaint)
    (api : ApiServer) (settings : Settings) :
    mutatePods request complaint api settings =
      ⟨.json (review.answer complaint api settings).response.toJson.render,
        (review.answer complaint api settings).requests⟩ := by
  rw [mutatePods, if_pos hjson, if_neg (Nat.not_lt.2 hsize), hread, ← sent_eq]

/-- Whatever is not a review that can be read is refused. -/
theorem mutatePods_of_refused {request : Http.Request} (hjson : saysJson request = true)
    (h : ¬ (request.body.utf8ByteSize ≤ maxBodyBytes ∧
      ∃ review, Reader.text Admission.Review.read request.body = .ok review))
    (complaint : Complaint) (api : ApiServer) (settings : Settings) :
    (mutatePods request complaint api settings).response.status ∈ refusals ∧
      (mutatePods request complaint api settings).response.contentType =
        some "text/plain; charset=utf-8" ∧
      (mutatePods request complaint api settings).requests = [] := by
  rw [mutatePods, if_pos hjson]
  split
  · exact ⟨by decide, rfl, rfl⟩
  · rename_i hsize
    split
    · exact ⟨(refusal_spec _).1, (refusal_spec _).2, rfl⟩
    · rename_i review hread
      exact absurd ⟨Nat.not_lt.1 hsize, review, hread⟩ h

/-- A posted review is answered, with status 200 and a review that holds a response, exactly when it
is not too long and can be read; without a request the response is that there is none. Every other
body is refused with an HTTP error in plain text, without a request to the API server. That happens
to bodies that are no JSON, and to reviews whose object is neither `null` nor a pod. -/
theorem status_of_post {request : Http.Request} (hpath : request.path = "/mutate/pods")
    (hmethod : request.method = "POST") (hjson : saysJson request = true) (complaint : Complaint)
    (api : ApiServer) (settings : Settings) :
    ((exchange request complaint api settings).response.status = 200 ↔
      request.body.utf8ByteSize ≤ maxBodyBytes ∧
        ∃ review, Reader.text Admission.Review.read request.body = .ok review) ∧
    (∀ review, request.body.utf8ByteSize ≤ maxBodyBytes →
      Reader.text Admission.Review.read request.body = .ok review →
      ∃ response : Admission.Response,
        (exchange request complaint api settings).response = .json response.toJson.render ∧
        (∃ members, response.toJson.get? "response" = some (.object members)) ∧
        response = (review.answer complaint api settings).response ∧
        (review.request = none → response = .withoutRequest)) ∧
    ((exchange request complaint api settings).response.status ≠ 200 →
      (exchange request complaint api settings).response.status ∈ refusals ∧
      (exchange request complaint api settings).response.contentType =
        some "text/plain; charset=utf-8" ∧
      (exchange request complaint api settings).requests = []) ∧
    (¬ IsJson request.body → (exchange request complaint api settings).response.status ≠ 200) ∧
    ∀ members closed inner closed' object,
      (ofText request.body).1 = .object members closed →
      (some "request", .object inner closed') ∈ members → (some "object", object) ∈ inner →
      object ≠ .null → (∀ depth, Kubernetes.pod.check object depth ≠ .ok ()) →
      (exchange request complaint api settings).response.status ≠ 200 := by
  rw [exchange_of_post hpath hmethod]
  have hiff : (mutatePods request complaint api settings).response.status = 200 ↔
      request.body.utf8ByteSize ≤ maxBodyBytes ∧
        ∃ review, Reader.text Admission.Review.read request.body = .ok review := by
    constructor
    · intro hstatus
      refine Classical.byContradiction fun hrefused => ?_
      have hcode := (mutatePods_of_refused hjson hrefused complaint api settings).1
      rw [hstatus] at hcode
      exact absurd hcode (by decide)
    · rintro ⟨hsize, review, hread⟩
      rw [mutatePods_of_ok hjson hsize hread]
      rfl
  refine ⟨hiff, fun review hsize hread => ?_, fun hstatus => ?_, fun hnot hstatus => ?_, ?_⟩
  · refine ⟨_, by rw [mutatePods_of_ok hjson hsize hread], ⟨_, rfl⟩, rfl, fun hnone => ?_⟩
    rw [Admission.Review.answer, hnone]
  · exact mutatePods_of_refused hjson (mt hiff.2 hstatus) complaint api settings
  · obtain ⟨-, review, hread⟩ := hiff.1 hstatus
    exact hnot (Admission.Review.strict_read.isJson_of_text hread)
  · -- a review with such an object cannot be read, so its answer has not status 200
    intro members closed inner closed' object hroot hrequest hobject hnull hcheck hstatus
    obtain ⟨-, review, hread⟩ := hiff.1 hstatus
    have hread := (Reader.text_eq_ok.1 hread).1
    rw [hroot] at hread
    rcases Admission.Review.eq_null_or_check_of_read hread hrequest hobject with he | ⟨depth, hd⟩
    · exact hnull he
    · exact hcheck depth hd

/-- A body that is posted as JSON. -/
def posted (body : String) : Http.Request :=
  ⟨"POST", "/mutate/pods", [("content-type", "application/json")], body⟩

/-- The text of a review that holds a response already, and no request. -/
def answeredReview : String :=
  "\x7b\"apiVersion\":\"admission.k8s.io/v1\",\"kind\":\"AdmissionReview\",\"response\":" ++
    "\x7b\"uid\":\"1\",\"allowed\":true,\"status\":\x7b\"status\":\"Success\"\x7d\x7d\x7d"

theorem status_of_post_sample :
    (posted answeredReview).path = "/mutate/pods" ∧ (posted answeredReview).method = "POST" ∧
      saysJson (posted answeredReview) = true ∧
      (exchange (posted answeredReview) (fun _ => "") (fun _ => .failure "") {}).response =
        .json Admission.Response.withoutRequest.toJson.render := by
  have hjson : saysJson (posted answeredReview) = true := by decide +kernel
  have htree : ofText answeredReview = (.object
      [(some "apiVersion", .string (some "admission.k8s.io/v1")),
        (some "kind", .string (some "AdmissionReview")),
        (some "response", .object [(some "uid", .string (some "1")), (some "allowed", .bool true),
          (some "status", .object [(some "status", .string (some "Success"))] true)] true)]
      true, true) := by cbv
  have hread : Reader.text Admission.Review.read answeredReview =
      .ok ⟨"admission.k8s.io/v1", "AdmissionReview", none⟩ := by
    rw [Reader.text_eq_ok, htree]
    exact ⟨rfl, rfl⟩
  obtain ⟨-, hok, -⟩ := status_of_post (rfl : (posted answeredReview).path = _) rfl hjson
    (fun _ => "") (fun _ => .failure "") {}
  obtain ⟨response, hresponse, -, -, hwithout⟩ := hok _ (by decide +kernel) hread
  rw [hwithout rfl] at hresponse
  exact ⟨rfl, rfl, hjson, hresponse⟩

/-- Not every posted body is answered with a review: an object without members is refused. -/
theorem not_forall_status_of_post :
    ¬ ∀ (request : Http.Request) (complaint : Complaint) (api : ApiServer) (settings : Settings),
      request.path = "/mutate/pods" → request.method = "POST" → saysJson request = true →
        (exchange request complaint api settings).response.status = 200 := by
  intro h
  have hjson : saysJson (posted "\x7b\x7d") = true := by decide +kernel
  have htree : ofText "\x7b\x7d" = (.object [] true, true) := by cbv
  have hread : ∀ review, Reader.text Admission.Review.read "\x7b\x7d" ≠ .ok review := by
    intro review hread
    rw [Reader.text_eq_ok, htree] at hread
    cases hread.1
  have hstatus := h (posted "\x7b\x7d") (fun _ => "") (fun _ => .failure "") {} rfl rfl hjson
  have hexchange := exchange_of_post (rfl : (posted "\x7b\x7d").path = _) rfl (fun _ => "")
    (fun _ => .failure "") {}
  have hrefused := (mutatePods_of_refused hjson (fun hok => hok.2.elim hread)
    (fun _ => "") (fun _ => .failure "") {}).1
  rw [← hexchange, hstatus] at hrefused
  exact absurd hrefused (by decide)

end SparkAdmission.Webhook
