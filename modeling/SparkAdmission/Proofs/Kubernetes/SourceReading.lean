import SparkAdmission.Proofs.Json.Reader
import SparkAdmission.Proofs.Kubernetes.RawDocument

/-!
# Reading the tree of a text

A document that is read from a text is read from the value of the text as well, with the same
normal form (`Document.reads_of_read`). The tree can say more than its value: it may repeat names,
of which the last counts, and it may nest too deep. What is read from a value is described by
`Reads` alone (`Document.value_of_reads`). Of a tree that is no JSON nothing is read
(`Document.strict_read`).
-/

namespace SparkAdmission

namespace Shape

open Json

/-! ### Normal forms -/

theorem mem_membersToJson {members : List (Option String × Source)} {m : String × Json}
    (h : m ∈ Source.membersToJson members) :
    ∃ source, (some m.1, source) ∈ members ∧ m.2 = source.toJson := by
  induction members with
  | nil => cases h
  | cons head rest ih =>
    obtain ⟨name | name, source⟩ := head
    · obtain ⟨source', hmem, he⟩ := ih h
      exact ⟨source', List.mem_cons_of_mem _ hmem, he⟩
    · rcases List.mem_cons.1 h with rfl | h
      · exact ⟨source, List.mem_cons_self, rfl⟩
      · obtain ⟨source', hmem, he⟩ := ih h
        exact ⟨source', List.mem_cons_of_mem _ hmem, he⟩

theorem map_membersToJson {f : Json → Json} {g : Source → Json}
    (hfg : ∀ source, f source.toJson = g source) (members : List (Option String × Source)) :
    (Source.membersToJson members).map (fun m => (m.1, f m.2)) =
      members.filterMap fun m => m.1.map (·, g m.2) := by
  induction members with
  | nil => rfl
  | cons head rest ih =>
    obtain ⟨name | name, source⟩ := head
    · exact ih
    · simp [Source.membersToJson, hfg, ih]

/-- A shape without brackets makes the same of a tree and of its value. -/
theorem normalizeScalar_toJson (s : Shape) (source : Source) :
    s.normalizeScalar (.ofJson source.toJson) = s.normalizeScalar source := by
  cases source with
  | number n => cases n <;> cases s <;> rfl
  | string text => cases text <;> cases s <;> rfl
  | _ => cases s <;> rfl

mutual

/-- The normal form of the value of a tree is the normal form of the tree. -/
theorem normalForm_toJson : (s : Shape) → (source : Source) →
    normalForm s source.toJson = s.normalize source
  | .any, source => normalForm_any source.canonical_toJson
  | .list s, source => by
    cases source with
    | array items closed =>
      rw [Source.toJson, Source.itemsToJson_eq_map, normalForm_list, List.map_map, normalize]
      congr 1
      exact List.map_congr_left fun source _ => normalForm_toJson s source
    | number n => cases n <;> rfl
    | string text => cases text <;> rfl
    | _ => rfl
  | .map s, source => by
    cases source with
    | object members closed =>
      rw [Source.toJson, Json.ofMembers, normalForm_map, map_sortMembers,
        sortMembers_of_increasing (increasing_sortMembers _),
        map_membersToJson fun source => normalForm_toJson s source]
      rfl
    | number n => cases n <;> rfl
    | string text => cases text <;> rfl
    | _ => rfl
  | .object fields, source => by
    cases source with
    | object members closed =>
      rw [Source.toJson, Json.ofMembers, normalForm_object, normalMembers_toJson fields, normalize]
    | number n => cases n <;> rfl
    | string text => cases text <;> rfl
    | _ => rfl
  | .string, source | .boolean, source | .int32, source | .int64, source | .intOrString, source
  | .time, source => normalizeScalar_toJson _ source

theorem normalMembers_toJson : (fields : List (String × Presence × Shape)) →
    (members : List (Option String × Source)) →
      normalMembers fields (sortMembers (Source.membersToJson members)) =
        normalizeFields fields members
  | [], _ => rfl
  | (name, presence, s) :: rest, members => by
    have hvalue := normalForm_toJson s
    rw [normalMembers_cons name presence s rest (increasing_sortMembers _),
      normalMembers_toJson rest members, Source.given?_sortMembers]
    cases presence with
    | constant text => rfl
    | optional | defaulted =>
      rw [normalizeFields]
      cases Source.given? name members with
      | none => rfl
      | some source => simp [fieldValue, hvalue]

end

/-! ### Acceptance -/

theorem refuseBracket_ne_ok (s : Shape) (depth : Levels) : s.refuseBracket depth ≠ .ok () := by
  unfold refuseBracket
  split
  · cases Source.enter depth <;> exact nofun
  · exact nofun

theorem of_ite_eq_ok {b : Bool} {e : ReadError}
    (h : (if b then Except.ok () else .error e) = Except.ok ()) : b := by
  cases b with
  | false => cases h
  | true => rfl

/-- What passes the check in brackets passed it one level further in, up to the closing bracket. -/
theorem exists_of_enter {depth : Levels} {inside : Levels → Except ReadError Unit}
    {closed : Bool}
    (h : (Source.enter depth >>= fun d => inside d >>= fun _ => Source.finish closed) = .ok ()) :
    ∃ d, inside d = .ok () ∧ closed = true := by
  obtain ⟨d, -, h⟩ := bind_eq_ok.1 h
  obtain ⟨hinside, hfinish⟩ := bind_unit_eq_ok.1 h
  exact ⟨d, hinside, Source.finish_eq_ok.1 hfinish⟩

theorem check_array {items : List Source} {closed : Bool} {s : Shape} {depth : Levels}
    (h : check (.array items closed) s depth = .ok ()) :
    (∃ item d, s.item? = some item ∧ ∀ source ∈ items, check source item d = .ok ()) ∧
      closed = true := by
  cases hs : s.item? with
  | none =>
    rw [check, hs] at h
    exact absurd h (refuseBracket_ne_ok s depth)
  | some item =>
    rw [check, hs] at h
    obtain ⟨d, hd, hclosed⟩ := exists_of_enter h
    exact ⟨⟨item, d, rfl, checkItems_eq_ok.1 hd⟩, hclosed⟩

theorem check_object {members : List (Option String × Source)} {closed : Bool} {s : Shape}
    {depth : Levels} (h : check (.object members closed) s depth = .ok ()) :
    ((∃ fields d, s = .object fields ∧
      ∀ m ∈ members, ∃ name, m.1 = some name ∧ FieldFits d m.2 (fields.lookup name)) ∨
    ∃ value d, s.member? = some value ∧
      ∀ m ∈ members, m.1.isSome ∧ check m.2 value d = .ok ()) ∧ closed = true := by
  cases s with
  | object fields =>
    obtain ⟨d, hd, hclosed⟩ := exists_of_enter h
    exact ⟨.inl ⟨fields, d, rfl, checkFields_eq_ok.1 hd⟩, hclosed⟩
  | map value =>
    obtain ⟨d, hd, hclosed⟩ := exists_of_enter h
    exact ⟨.inr ⟨value, d, rfl, checkMembers_eq_ok.1 hd⟩, hclosed⟩
  | any =>
    obtain ⟨d, hd, hclosed⟩ := exists_of_enter h
    exact ⟨.inr ⟨.any, d, rfl, checkMembers_eq_ok.1 hd⟩, hclosed⟩
  | _ =>
    simp only [check, member?] at h
    exact absurd h (refuseBracket_ne_ok _ depth)

/-- Without brackets the check does not depend on the depth. -/
theorem accepts_of_fitsScalar {s : Shape} {source : Source} (h : s.fitsScalar source) :
    Accepts s source.toJson := by
  have hfits : s.fitsScalar (.ofJson source.toJson) := by
    cases source with
    | number n =>
      cases n with
      | none => cases s <;> cases h
      | some n => exact h
    | string text =>
      cases text with
      | none => cases s <;> cases h
      | some text => exact h
    | fault | array | object => cases s <;> cases h
    | _ => exact h
  cases source with
  | number n => cases n <;> exact if_pos hfits
  | string text => cases text <;> exact if_pos hfits
  | array | object => cases s <;> cases h
  | _ => exact if_pos hfits

mutual

/-- The value of a tree that passes the check is accepted, at whatever depth the tree stood. -/
theorem accepts_toJson : (source : Source) → {s : Shape} → {depth : Levels} →
    check source s depth = .ok () → Accepts s source.toJson
  | .array items closed, s, depth, h => by
    obtain ⟨⟨item, d, hs, hitems⟩, -⟩ := check_array h
    cases s with
    | any => exact accepts_any _
    | list s =>
      cases hs
      rw [Source.toJson, Source.itemsToJson_eq_map, accepts_list, List.forall_mem_map]
      exact fun source hm => accepts_itemsToJson items source hm (hitems source hm)
    | _ => cases hs
  | .object members closed, s, depth, h => by
    have hmembers : ∀ m ∈ sortMembers (Source.membersToJson members),
        ∃ source, (some m.1, source) ∈ members ∧ m.2 = source.toJson :=
      fun m hm => mem_membersToJson (mem_of_mem_sortMembers hm)
    rcases (check_object h).1 with ⟨fields, d, rfl, hfits⟩ | ⟨value, d, hs, hfits⟩
    · rw [Source.toJson, Json.ofMembers, accepts_object]
      rintro ⟨name, j⟩ hm
      obtain ⟨source, hmem, rfl⟩ := hmembers _ hm
      obtain ⟨name', he, hfield⟩ := hfits _ hmem
      cases he
      generalize fields.lookup name = field at hfield
      match field, hfield with
      | none, _ => trivial
      | some (.constant text, _), hsource => rw [show source = _ from hsource]; rfl
      | some (.optional, _), hsource | some (.defaulted, _), hsource =>
        exact hsource.imp (fun he => by rw [show source = _ from he]; rfl)
          (accepts_membersToJson members _ hmem)
    · cases s with
      | any => exact accepts_any _
      | map s =>
        cases hs
        rw [Source.toJson, Json.ofMembers, accepts_map]
        rintro ⟨name, j⟩ hm
        obtain ⟨source, hmem, rfl⟩ := hmembers _ hm
        exact accepts_membersToJson members _ hmem (hfits _ hmem).2
      | _ => cases hs
  | .fault, s, depth, h | .null, s, depth, h | .bool b, s, depth, h | .number n, s, depth, h
  | .string text, s, depth, h => accepts_of_fitsScalar (of_ite_eq_ok h)

theorem accepts_itemsToJson : (items : List Source) → ∀ source ∈ items, ∀ {s : Shape}
    {depth : Levels}, check source s depth = .ok () → Accepts s source.toJson
  | source :: rest, source', hm, s, depth, h => by
    rcases List.mem_cons.1 hm with he | hm
    · rw [he] at h ⊢
      exact accepts_toJson source h
    · exact accepts_itemsToJson rest source' hm h

theorem accepts_membersToJson : (members : List (Option String × Source)) → ∀ m ∈ members,
    ∀ {s : Shape} {depth : Levels}, check m.2 s depth = .ok () → Accepts s m.2.toJson
  | (name, source) :: rest, m, hm, s, depth, h => by
    rcases List.mem_cons.1 hm with he | hm
    · rw [he] at h ⊢
      exact accepts_toJson source h
    · exact accepts_membersToJson rest m hm h

end

/-! ### Strictness -/

theorem isWhole_of_fitsScalar {s : Shape} {source : Source} (h : s.fitsScalar source) :
    source.isWhole = true := by
  cases source with
  | fault | array | object => cases s <;> cases h
  | _ => rfl

mutual

/-- A tree that passes the check is JSON throughout. -/
theorem isWhole_of_check : (source : Source) → {s : Shape} → {depth : Levels} →
    check source s depth = .ok () → source.isWhole = true
  | .array items closed, s, depth, h => by
    obtain ⟨⟨item, d, -, hitems⟩, hclosed⟩ := check_array h
    refine Source.isWhole_array.2 ⟨fun source hm => ?_, hclosed⟩
    exact isWhole_of_checkItems items source hm (hitems source hm)
  | .object members closed, s, depth, h => by
    obtain ⟨hmembers, hclosed⟩ := check_object h
    refine Source.isWhole_object.2 ⟨fun m hm => ?_, hclosed⟩
    rcases hmembers with ⟨fields, d, -, hfits⟩ | ⟨value, d, -, hfits⟩
    · obtain ⟨name, -, hfield⟩ := hfits m hm
      generalize fields.lookup name = field at hfield
      match field, hfield with
      | none, hwhole => exact hwhole
      | some (.constant text, _), hsource => rw [show m.2 = _ from hsource]; rfl
      | some (.optional, _), hsource | some (.defaulted, _), hsource =>
        exact hsource.elim (fun he => by rw [show m.2 = _ from he]; rfl)
          (isWhole_of_checkMembers members m hm)
    · exact isWhole_of_checkMembers members m hm (hfits m hm).2
  | .fault, s, depth, h | .null, s, depth, h | .bool b, s, depth, h | .number n, s, depth, h
  | .string text, s, depth, h => isWhole_of_fitsScalar (of_ite_eq_ok h)

theorem isWhole_of_checkItems : (items : List Source) → ∀ source ∈ items, ∀ {s : Shape}
    {depth : Levels}, check source s depth = .ok () → source.isWhole = true
  | source :: rest, source', hm, s, depth, h => by
    rcases List.mem_cons.1 hm with he | hm
    · rw [he] at h ⊢
      exact isWhole_of_check source h
    · exact isWhole_of_checkItems rest source' hm h

theorem isWhole_of_checkMembers : (members : List (Option String × Source)) → ∀ m ∈ members,
    ∀ {s : Shape} {depth : Levels}, check m.2 s depth = .ok () → m.2.isWhole = true
  | (name, source) :: rest, m, hm, s, depth, h => by
    rcases List.mem_cons.1 hm with he | hm
    · rw [he] at h ⊢
      exact isWhole_of_check source h
    · exact isWhole_of_checkMembers rest m hm h

end

end Shape

namespace Document

variable {s : Shape}

/-- What is read from a text is read from the value of the text. -/
theorem reads_of_read {depth : Levels} {source : Source} {d : Document s}
    (h : read depth source = .ok d) : Reads s source.toJson d.json := by
  obtain ⟨u, hcheck, rfl⟩ := map_eq_ok.1 h
  exact ⟨source.canonical_toJson, Shape.accepts_toJson source hcheck, s.normalForm_toJson source⟩

theorem strict_read : Reader.Strict (read (s := s)) := by
  intro depth source d h
  obtain ⟨u, hcheck, -⟩ := map_eq_ok.1 h
  exact Shape.isWhole_of_check source hcheck

/-- A value that is read as a normal form is read as the document of it. -/
theorem value_of_reads {raw normal : Json} (h : Reads s raw normal) :
    ∃ d : Document s, Reader.value read raw = some d ∧ d.json = normal := by
  refine ⟨ofSource (.ofJson raw), ?_, h.normalForm_eq⟩
  rw [Reader.value, read, show s.check _ none = _ from h.accepts]
  rfl

end Document

end SparkAdmission
