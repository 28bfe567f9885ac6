import Mathlib.Data.List.TakeWhile
import SparkAdmission.Proofs.Admission.Decision

/-!
# What a lookup addresses

Namespace and name of an application are put into the request target as they are. A reference is
addressed by its target when each of the two is one segment of the path, and there is neither query
nor fragment. That is so exactly when no character of them divides a target
(`ApplicationRef.addressed_iff_isPlain`), so a target addresses one reference at most. Other
references share their targets: two of them are looked up alike when their paths agree up to the
fragment (`Admission.requests_eq_iff`), and `Admission.not_forall_requests_eq` is a pair of them.
-/

namespace SparkAdmission

/-! ### Parts between slashes -/

namespace Pointer

theorem splitSlashes_ne_nil (cs : List Char) : splitSlashes cs ≠ [] := by
  induction cs using splitSlashes.induct with
  | case1 => exact List.cons_ne_nil _ _
  | case2 cs ih => exact List.cons_ne_nil _ _
  | case3 c cs hc hnil ih => exact absurd hnil ih
  | case4 c cs hc head tail hsplit ih =>
    rw [splitSlashes.eq_3 _ _ (fun he => hc he), hsplit]
    exact List.cons_ne_nil _ _

/-- The parts between slashes, with slashes between them, are the text. -/
theorem intercalate_splitSlashes (cs : List Char) : ['/'].intercalate (splitSlashes cs) = cs := by
  induction cs using splitSlashes.induct with
  | case1 => rfl
  | case2 cs ih =>
    obtain ⟨part, parts, hsplit⟩ := List.exists_cons_of_ne_nil (splitSlashes_ne_nil cs)
    rw [hsplit] at ih
    rw [splitSlashes, hsplit, List.intercalate_cons_cons, ih]
    rfl
  | case3 c cs hc hnil ih => exact absurd hnil (splitSlashes_ne_nil cs)
  | case4 c cs hc part parts hsplit ih =>
    rw [splitSlashes.eq_3 _ _ (fun he => hc he), hsplit]
    rw [hsplit] at ih
    cases parts with
    | nil => rw [← ih]; rfl
    | cons next parts =>
      rw [List.intercalate_cons_cons] at ih ⊢
      rw [List.cons_append, List.cons_append, ← List.cons_append, ← ih]
      rfl

theorem slash_notMem_of_mem_splitSlashes {cs part : List Char} (h : part ∈ splitSlashes cs) :
    '/' ∉ part := by
  induction cs using splitSlashes.induct generalizing part with
  | case1 => rw [List.mem_singleton.1 h]; exact List.not_mem_nil
  | case2 cs ih =>
    rcases List.mem_cons.1 h with rfl | h
    · exact List.not_mem_nil
    · exact ih h
  | case3 c cs hc hnil ih => exact absurd hnil (splitSlashes_ne_nil cs)
  | case4 c cs hc first parts hsplit ih =>
    rw [splitSlashes.eq_3 _ _ (fun he => hc he), hsplit] at h
    rw [hsplit] at ih
    rcases List.mem_cons.1 h with rfl | h
    · rw [List.mem_cons, not_or]
      exact ⟨fun he => hc he.symm, ih List.mem_cons_self⟩
    · exact ih (List.mem_cons_of_mem _ h)

/-- Parts without a slash are the parts of the text in which they stand between slashes. -/
theorem splitSlashes_intercalate {parts : List (List Char)} (hne : parts ≠ [])
    (h : ∀ part ∈ parts, '/' ∉ part) : splitSlashes (['/'].intercalate parts) = parts := by
  induction parts with
  | nil => exact absurd rfl hne
  | cons part parts ih =>
    obtain ⟨hpart, hparts⟩ := List.forall_mem_cons.1 h
    cases parts with
    | nil => simpa using splitSlashes_of_notMem hpart
    | cons next parts =>
      rw [List.intercalate_cons_cons, List.append_assoc, List.singleton_append,
        splitSlashes_append hpart, ih (List.cons_ne_nil _ _) hparts]

end Pointer

/-! ### Addressed references -/

namespace ApplicationRef

/-- The segments of a path. -/
def segments (path : String) : List String := (Pointer.splitSlashes path.toList).map String.ofList

/-- The segments of the path under which the application of this namespace and name stands. -/
def parts (ref : ApplicationRef) : List String :=
  ["", "apis", Application.group, Application.version, "namespaces", ref.namespaceName,
    Application.plural, ref.name]

/-- A target addresses the reference: it has no query and no fragment, and namespace and name are
one segment each of its path. -/
structure Addressed (ref : ApplicationRef) (target : String) : Prop where
  noQuery : '?' ∉ target.toList
  noFragment : '#' ∉ target.toList
  segments_eq : segments target = ref.parts

/-- No character of namespace and name divides a request target. -/
def IsPlain (ref : ApplicationRef) : Prop :=
  ∀ c ∈ ref.namespaceName.toList ++ ref.name.toList, c ≠ '/' ∧ c ≠ '?' ∧ c ≠ '#'

instance (ref : ApplicationRef) : Decidable ref.IsPlain :=
  List.decidableBAll (fun c => c ≠ '/' ∧ c ≠ '?' ∧ c ≠ '#') _

variable {ref other : ApplicationRef} {target : String}

theorem toList_path (ref : ApplicationRef) :
    ref.path.toList = ['/'].intercalate (ref.parts.map String.toList) := by
  simp [path, parts, Application.apiVersion, List.intercalate_cons_cons]

/-- What stands in front of the namespace in a path. -/
def front : List Char := ("/apis/" ++ Application.apiVersion ++ "/namespaces/").toList

/-- What stands between namespace and name in a path, behind the slash that ends the namespace. -/
def middle : List Char := (Application.plural ++ "/").toList

theorem toList_path_eq_append (ref : ApplicationRef) : ref.path.toList =
    front ++ (ref.namespaceName.toList ++ '/' :: (middle ++ ref.name.toList)) := by
  simp [path, front, middle, Application.plural]

theorem slash_notMem_of_mem_parts (hnamespace : '/' ∉ ref.namespaceName.toList)
    (hname : '/' ∉ ref.name.toList) : ∀ part ∈ ref.parts, '/' ∉ part.toList := by
  have hfixed : ∀ part ∈ ["", "apis", Application.group, Application.version, "namespaces",
      Application.plural], '/' ∉ part.toList := by decide
  simp only [List.forall_mem_cons] at hfixed
  simp only [parts, List.forall_mem_cons, hfixed, hnamespace, hname]
  simp

theorem segments_path (h : ∀ part ∈ ref.parts, '/' ∉ part.toList) :
    segments ref.path = ref.parts := by
  have hsplit : Pointer.splitSlashes ref.path.toList = ref.parts.map String.toList := by
    rw [toList_path]
    refine Pointer.splitSlashes_intercalate (List.cons_ne_nil _ _) fun cs hcs => ?_
    obtain ⟨part, hpart, rfl⟩ := List.mem_map.1 hcs
    exact h part hpart
  rw [segments, hsplit, List.map_map]
  exact (List.map_congr_left fun part _ => String.ofList_toList).trans (List.map_id _)

theorem slash_notMem_of_mem_segments {path segment : String} (h : segment ∈ segments path) :
    '/' ∉ segment.toList := by
  obtain ⟨cs, hcs, rfl⟩ := List.mem_map.1 h
  rw [String.toList_ofList]
  exact Pointer.slash_notMem_of_mem_splitSlashes hcs

/-- A path is determined by its segments. -/
theorem eq_path_of_segments (h : segments target = ref.parts) : target = ref.path := by
  have htoList : (segments target).map String.toList = Pointer.splitSlashes target.toList := by
    rw [segments, List.map_map]
    exact (List.map_congr_left fun cs _ => String.toList_ofList).trans (List.map_id _)
  refine String.toList_inj.1 ?_
  rw [toList_path, ← h, htoList, Pointer.intercalate_splitSlashes]

theorem withoutFragment_eq_self {cs : List Char} (h : '#' ∉ cs) : withoutFragment cs = cs := by
  refine List.takeWhile_eq_self_iff.2 fun c hc => ?_
  rw [bne_iff_ne]
  rintro rfl
  exact h hc

theorem target_eq_path (h : ref.target = .ok target) (hfragment : '#' ∉ ref.path.toList) :
    target = ref.path := by
  rw [eq_of_target h, withoutFragment_eq_self hfragment, String.ofList_toList]

/-- Only namespace and name can bring a query or a fragment into a path. -/
theorem mem_path_iff {c : Char} (hc : c ∈ ['?', '#']) :
    c ∈ ref.path.toList ↔ c ∈ ref.namespaceName.toList ++ ref.name.toList := by
  have hfixed : c ∉ front ∧ c ∉ middle ∧ c ≠ '/' := by
    obtain rfl | rfl : c = '?' ∨ c = '#' := by simpa using hc
    · decide
    · decide
  simp [toList_path_eq_append, hfixed]

/-- The target of a reference addresses it exactly when the reference is plain. -/
theorem addressed_iff_isPlain (h : ref.target = .ok target) :
    ref.Addressed target ↔ ref.IsPlain := by
  constructor
  · intro ha c hc
    have hpath : target = ref.path := eq_path_of_segments ha.segments_eq
    refine ⟨?_, ?_, ?_⟩
    · rintro rfl
      have hmem : ref.namespaceName ∈ segments target ∧ ref.name ∈ segments target := by
        rw [ha.segments_eq]
        simp [parts]
      rcases List.mem_append.1 hc with hc | hc
      · exact slash_notMem_of_mem_segments hmem.1 hc
      · exact slash_notMem_of_mem_segments hmem.2 hc
    · rintro rfl
      exact ha.noQuery (hpath ▸ (mem_path_iff (by decide)).2 hc)
    · rintro rfl
      exact ha.noFragment (hpath ▸ (mem_path_iff (by decide)).2 hc)
  · intro hp
    have hpath : target = ref.path := by
      refine target_eq_path h fun hm => ?_
      exact (hp _ ((mem_path_iff (by decide)).1 hm)).2.2 rfl
    refine ⟨fun hm => ?_, fun hm => ?_, ?_⟩
    · rw [hpath, mem_path_iff (by decide)] at hm
      exact (hp _ hm).2.1 rfl
    · rw [hpath, mem_path_iff (by decide)] at hm
      exact (hp _ hm).2.2 rfl
    · rw [hpath]
      refine segments_path (slash_notMem_of_mem_parts (fun hm => ?_) fun hm => ?_)
      · exact (hp _ (List.mem_append_left _ hm)).1 rfl
      · exact (hp _ (List.mem_append_right _ hm)).1 rfl

/-- References whose namespaces hold no slash have a path in common only when they are equal. -/
theorem eq_of_path_eq (h : '/' ∉ ref.namespaceName.toList)
    (h' : '/' ∉ other.namespaceName.toList) (hpath : ref.path = other.path) : ref = other := by
  have hlist := congrArg String.toList hpath
  rw [toList_path_eq_append, toList_path_eq_append] at hlist
  have hbehind := List.append_cancel_left hlist
  have hnamespace : ref.namespaceName.toList = other.namespaceName.toList := by
    have hparts := congrArg Pointer.splitSlashes hbehind
    rw [Pointer.splitSlashes_append h, Pointer.splitSlashes_append h'] at hparts
    exact (List.cons.inj hparts).1
  rw [hnamespace] at hbehind
  have hname := List.append_cancel_left (List.cons.inj (List.append_cancel_left hbehind)).2
  obtain ⟨namespaceName, name⟩ := ref
  rw [mk.injEq]
  exact ⟨String.toList_inj.1 hnamespace, String.toList_inj.1 hname⟩

end ApplicationRef

/-! ### Requested references -/

namespace Admission

/-- The request of a review refers to an application, and this target is what is requested for it,
whatever the API server answers. -/
def Review.Requests (review : Review) (ref : ApplicationRef) (target : String) : Prop :=
  ∃ request, review.request = some request ∧ request.applicationRef? = some ref ∧
    ∀ complaint api settings, (review.answer complaint api settings).requests = [target]

variable {review other : Review} {ref ref' : ApplicationRef} {target target' : String}

theorem Review.Requests.target_eq (h : review.Requests ref target) : ref.target = .ok target := by
  obtain ⟨request, hrequest, href, hanswer⟩ := h
  have hrequests := hanswer (fun _ => "") (fun _ => .failure "") {}
  rw [Review.answer_of_some hrequest] at hrequests
  cases htarget : ref.target with
  | ok requested =>
    rw [Review.answerRequest_of_lookup review href
      (ApplicationRef.lookup_of_target _ _ htarget)] at hrequests
    rw [List.singleton_inj.1 hrequests]
  | error e =>
    rw [Review.answerRequest_of_lookup review href
      (ApplicationRef.lookup_of_target_error _ _ htarget)] at hrequests
    cases hrequests

theorem Review.requests_of_target {request : Request} (hrequest : review.request = some request)
    (href : request.applicationRef? = some ref) (htarget : ref.target = .ok target) :
    review.Requests ref target := by
  refine ⟨request, hrequest, href, fun complaint api settings => ?_⟩
  rw [Review.answer_of_some hrequest, Review.answerRequest_of_lookup review href
    (ApplicationRef.lookup_of_target complaint api htarget)]

/-- A request addresses the application that it was made for exactly when no character of namespace
and name divides a target. Two requests are the same exactly when their paths agree up to the
fragment; without fragments and without slashes in the namespaces they are the same only for the
same application. -/
theorem requests_eq_iff (h : review.Requests ref target) (h' : other.Requests ref' target') :
    (ref.Addressed target ↔ ref.IsPlain) ∧
    (target = target' ↔ ApplicationRef.withoutFragment ref.path.toList =
      ApplicationRef.withoutFragment ref'.path.toList) ∧
    (target = target' → '#' ∉ ref.path.toList → '#' ∉ ref'.path.toList →
      '/' ∉ ref.namespaceName.toList → '/' ∉ ref'.namespaceName.toList → ref = ref') := by
  have htarget := h.target_eq
  have htarget' := h'.target_eq
  refine ⟨ApplicationRef.addressed_iff_isPlain htarget, ?_, fun heq hf hf' hs hs' => ?_⟩
  · rw [ApplicationRef.eq_of_target htarget, ApplicationRef.eq_of_target htarget',
      String.ofList_inj]
  · refine ApplicationRef.eq_of_path_eq hs hs' ?_
    rw [← ApplicationRef.target_eq_path htarget hf, ← ApplicationRef.target_eq_path htarget' hf',
      heq]

/-- A review that asks to admit a pod of this role that names this application. -/
def labelledReview (role name : String) : Review :=
  ⟨"admission.k8s.io/v1", "AdmissionReview", some ⟨"1", some "default", some (.ofSource (.ofJson
    (.object [("metadata", .object [("labels", .object [(roleLabel, .string role),
      (applicationLabel, .string name)])])])))⟩⟩

/-- Where the sample application stands. -/
def sampleTarget : String :=
  "/apis/sparkoperator.k8s.io/v1beta1/namespaces/default/sparkapplications/pi"

theorem requests_labelledReview_pi :
    (labelledReview "driver" "pi").Requests ⟨"default", "pi"⟩ sampleTarget :=
  Review.requests_of_target rfl rfl rfl

theorem requests_labelledReview_fragment :
    (labelledReview "driver" "pi#x").Requests ⟨"default", "pi#x"⟩ sampleTarget :=
  Review.requests_of_target rfl rfl rfl

theorem requests_eq_iff_sample :
    (labelledReview "driver" "pi").Requests ⟨"default", "pi"⟩ sampleTarget ∧
      (labelledReview "driver" "pi#x").Requests ⟨"default", "pi#x"⟩ sampleTarget ∧
      ApplicationRef.Addressed ⟨"default", "pi"⟩ sampleTarget ∧
      ApplicationRef.withoutFragment (ApplicationRef.path ⟨"default", "pi"⟩).toList =
        ApplicationRef.withoutFragment (ApplicationRef.path ⟨"default", "pi#x"⟩).toList := by
  obtain ⟨haddressed, hsame, -⟩ :=
    requests_eq_iff requests_labelledReview_pi requests_labelledReview_fragment
  exact ⟨requests_labelledReview_pi, requests_labelledReview_fragment,
    haddressed.2 (by decide), hsame.1 rfl⟩

/-- Two references can share a request, which then does not address both of them: a name is not
read beyond a `#` in it. -/
theorem not_forall_requests_eq :
    (¬ ∀ (review other : Review) (ref ref' : ApplicationRef) (target : String),
      review.Requests ref target → other.Requests ref' target → ref = ref') ∧
    ¬ ∀ (review : Review) (ref : ApplicationRef) (target : String),
      review.Requests ref target → ref.Addressed target := by
  refine ⟨fun h => ?_, fun h => ?_⟩
  · have heq := h _ _ _ _ _ requests_labelledReview_pi requests_labelledReview_fragment
    revert heq
    decide
  · have haddressed := h _ _ _ requests_labelledReview_fragment
    have hplain := (ApplicationRef.addressed_iff_isPlain
      requests_labelledReview_fragment.target_eq).1 haddressed
    revert hplain
    decide

end Admission

end SparkAdmission
