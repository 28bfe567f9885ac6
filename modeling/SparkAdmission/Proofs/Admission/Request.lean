import SparkAdmission.Admission.Request
import SparkAdmission.Proofs.Kubernetes.SourceReading

/-!
# Reviews are read strictly

A review is read only from a text that is JSON throughout, its unknown members and the parts of its
request that are not kept included (`Review.strict_read`). The object of its request is a pod, if it
has one (`Review.eq_null_or_check_of_read`).
-/

namespace SparkAdmission.Admission

open Source

namespace Request

theorem strict_texts (required optional : List String) :
    Reader.Strict (texts required optional) := by
  refine Record.strict_skim (fun field hf => ?_) _
  obtain ⟨name, -, rfl⟩ := List.mem_map.1 hf
  exact RecordField.strict_seen Reader.strict_string _

theorem strict_fields : ∀ field ∈ fields, field.Strict := by
  have hof : ∀ {α : Type} {read : Reader α}, Reader.Strict read → ∀ name set,
      RecordField.Strict (.of (σ := Parts) name read set) :=
    fun hr name set => RecordField.strict_of hr name set
  have hstring := Reader.strict_string
  have htype : Reader.Strict typeName := strict_texts _ _
  have hresource : Reader.Strict resourceName := strict_texts _ _
  simp only [fields, skipped, List.forall_mem_cons]
  exact ⟨hof hstring _ _, hof htype _ _, hof hresource _ _,
    hof (Reader.strict_optional hstring) _ _, hof (Reader.strict_optional htype) _ _,
    hof (Reader.strict_optional hresource) _ _, hof (Reader.strict_optional hstring) _ _,
    hof hstring _ _, hof (Reader.strict_optional hstring) _ _, hof (Reader.strict_choice _) _ _,
    hof Document.strict_read _ _, hof (Reader.strict_optional Document.strict_read) _ _,
    RecordField.strict_always (hof (Reader.strict_optional Document.strict_read) _ _),
    hof Reader.strict_bool _ _, hof (Reader.strict_optional Document.strict_read) _ _,
    List.forall_mem_nil _⟩

theorem strict_read : Reader.Strict read := by
  intro depth s a h
  obtain ⟨parts, hread, -⟩ := bind_eq_ok.1 h
  exact Record.strict_read strict_fields _ hread

/-- The object of a request that is read is `null` or a pod. -/
theorem eq_null_or_check_of_read {depth : Levels} {members : List (Option String × Source)}
    {closed : Bool} {request : Request} (h : read depth (.object members closed) = .ok request)
    {object : Source} (hm : (some "object", object) ∈ members) :
    object = .null ∨ ∃ depth, Kubernetes.pod.check object depth = .ok () := by
  obtain ⟨parts, hread, -⟩ := bind_eq_ok.1 h
  obtain ⟨d, -, hread⟩ := bind_eq_ok.1 hread
  obtain ⟨before, after, hput⟩ := Record.exists_put_of_mem hread hm rfl
  obtain ⟨pod, hpod, -⟩ := map_eq_ok.1 hput
  refine (Reader.eq_null_or_of_optional hpod).imp_right ?_
  rintro ⟨document, hdocument⟩
  obtain ⟨u, hcheck, -⟩ := map_eq_ok.1 hdocument
  exact ⟨d, hcheck⟩

end Request

namespace Review

theorem strict_details : Reader.Strict details := by
  have hstring := Reader.strict_string
  refine Record.strict_skim ?_ _
  simp only [List.forall_mem_cons]
  exact ⟨RecordField.strict_seen hstring _, RecordField.strict_seen hstring _,
    RecordField.strict_seen hstring _, RecordField.strict_seen hstring _,
    RecordField.strict_seen (Reader.strict_list (Request.strict_texts _ _)) _,
    RecordField.strict_seen (Reader.strict_whole _ _) _, List.forall_mem_nil _⟩

theorem strict_status : Reader.Strict status := by
  have hstring := Reader.strict_string
  refine Record.strict_skim ?_ _
  simp only [List.forall_mem_cons]
  exact ⟨RecordField.strict_always
      (RecordField.strict_seen (Reader.strict_optional (Reader.strict_choice _)) _),
    RecordField.strict_seen (Reader.strict_whole _ _) _, RecordField.strict_seen hstring _,
    RecordField.strict_seen hstring _,
    RecordField.strict_seen (Reader.strict_optional strict_details) _, List.forall_mem_nil _⟩

theorem strict_response : Reader.Strict response := by
  have hlist : ∀ {α : Type} {read : Reader α}, Reader.Strict read → ∀ name,
      (RecordField.seen name (Reader.optional (Reader.list read))).always.Strict :=
    fun hr name => RecordField.strict_always
      (RecordField.strict_seen (Reader.strict_optional (Reader.strict_list hr)) name)
  refine Record.strict_skim ?_ _
  simp only [List.forall_mem_cons]
  exact ⟨RecordField.strict_seen Reader.strict_string _,
    RecordField.strict_seen Reader.strict_bool _, RecordField.strict_seen strict_status _,
    hlist (Reader.strict_whole _ _) _,
    RecordField.strict_always
      (RecordField.strict_seen (Reader.strict_optional (Reader.strict_choice _)) _),
    RecordField.strict_seen Document.strict_read _, hlist Reader.strict_string _,
    List.forall_mem_nil _⟩

/-- A member that was read is the request, the response, or any value of another name, and then the
other members were read. -/
theorem readMembers_cons {depth : Levels} {closed : Bool} {member : Option String × Source}
    {rest : List (Option String × Source)} {parts result : Parts}
    (h : readMembers depth closed (member :: rest) parts = .ok result) :
    ∃ next, readMembers depth closed rest next = .ok result ∧
      ((∃ request, member.1 = some "request" ∧
          Reader.optional Request.read depth member.2 = .ok request) ∨
        (∃ answer, member.1 = some "response" ∧
          Reader.optional response depth member.2 = .ok answer) ∨
        (member.1 ≠ some "request" ∧ Shape.any.check member.2 depth = .ok ())) := by
  unfold readMembers at h
  split at h
  · contradiction
  · cases h
  · rename_i heq
    cases heq
    obtain ⟨request, hrequest, h⟩ := bind_eq_ok.1 (of_refusal_eq_ok h)
    exact ⟨_, h, .inl ⟨request, rfl, hrequest⟩⟩
  · rename_i heq
    cases heq
    obtain ⟨answer, hanswer, h⟩ := bind_eq_ok.1 (of_refusal_eq_ok h)
    exact ⟨_, h, .inr (.inl ⟨answer, rfl, hanswer⟩)⟩
  · rename_i name s others hne hne' heq
    cases heq
    obtain ⟨u, hany, h⟩ := bind_eq_ok.1 h
    exact ⟨_, h, .inr (.inr ⟨fun he => hne (Option.some.inj he), hany⟩)⟩

theorem isWhole_of_readMembers {depth : Levels} {closed : Bool}
    {members : List (Option String × Source)} {parts result : Parts}
    (h : readMembers depth closed members parts = .ok result) :
    (∀ m ∈ members, m.2.isWhole = true) ∧ closed = true := by
  induction members generalizing parts with
  | nil =>
    obtain ⟨u, hclosed, -⟩ := bind_eq_ok.1 h
    exact ⟨List.forall_mem_nil _, finish_eq_ok.1 hclosed⟩
  | cons member rest ih =>
    obtain ⟨next, hrest, hmember⟩ := readMembers_cons h
    have hwhole : member.2.isWhole = true := by
      rcases hmember with ⟨request, -, hrequest⟩ | ⟨answer, -, hanswer⟩ | ⟨-, hany⟩
      · exact Reader.strict_optional Request.strict_read hrequest
      · exact Reader.strict_optional strict_response hanswer
      · exact Shape.isWhole_of_check _ hany
    obtain ⟨hwholes, hclosed⟩ := ih hrest
    exact ⟨List.forall_mem_cons.2 ⟨hwhole, hwholes⟩, hclosed⟩

/-- The member `request` of a review has been read as a request. -/
theorem exists_request_of_mem {depth : Levels} {closed : Bool}
    {members : List (Option String × Source)} {parts result : Parts}
    (h : readMembers depth closed members parts = .ok result) {s : Source}
    (hm : (some "request", s) ∈ members) :
    ∃ request, Reader.optional Request.read depth s = .ok request := by
  induction members generalizing parts with
  | nil => cases hm
  | cons member rest ih =>
    obtain ⟨next, hrest, hmember⟩ := readMembers_cons h
    rcases List.mem_cons.1 hm with rfl | hm
    · rcases hmember with ⟨request, -, hrequest⟩ | ⟨answer, hname, -⟩ | ⟨hne, -⟩
      · exact ⟨request, hrequest⟩
      · exact absurd hname (by simp)
      · exact absurd rfl hne
    · exact ih hrest hm

/-- The object of the request of a review that is read is `null` or a pod. -/
theorem eq_null_or_check_of_read {depth : Levels} {members inner : List (Option String × Source)}
    {closed closed' : Bool} {review : Review}
    (h : read depth (.object members closed) = .ok review)
    (hrequest : (some "request", .object inner closed') ∈ members) {object : Source}
    (hobject : (some "object", object) ∈ inner) :
    object = .null ∨ ∃ depth, Kubernetes.pod.check object depth = .ok () := by
  obtain ⟨d, -, hread⟩ := bind_eq_ok.1 h
  obtain ⟨parts, hparts, -⟩ := bind_eq_ok.1 hread
  obtain ⟨asked, hasked⟩ := exists_request_of_mem hparts hrequest
  rcases Reader.eq_null_or_of_optional hasked with he | ⟨request, hrequest⟩
  · cases he
  · exact Request.eq_null_or_check_of_read hrequest hobject

/-- A review is read only where the text is JSON throughout. -/
theorem strict_read : Reader.Strict read := by
  intro depth s review h
  cases s with
  | object members closed =>
    obtain ⟨d, -, h⟩ := bind_eq_ok.1 h
    obtain ⟨parts, hmembers, -⟩ := bind_eq_ok.1 h
    exact isWhole_object.2 (isWhole_of_readMembers hmembers)
  | _ => cases h

end Review

end SparkAdmission.Admission
