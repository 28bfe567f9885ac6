import SparkAdmission.Proofs.GrowingList
import SparkAdmission.Proofs.Kubernetes.Reading

/-!
# Raw documents and their normal forms

`Reads s raw normal` says that a raw document, with its unknown members and its `null`s, is read as
a normal form. Children that a shape knows are read as children of the normal form, and setting
one in the raw document sets it in the normal form (`Reads.setMember`, `Reads.setItem`). Therefore,
at the place of an optional member, a list that grows in the raw document grows in the normal form,
and what is put into the one is put into the other (`OptionalAt.reads_grow`,
`OptionalAt.reads_put`).
-/

namespace SparkAdmission

open Json Shape

/-! ### Reading a raw document -/

/-- The raw document is read as this normal form. -/
structure Reads (s : Shape) (raw normal : Json) : Prop where
  canonical : raw.Canonical
  accepts : Accepts s raw
  normalForm_eq : normalForm s raw = normal

/-- What stands in the place of an optional member is read as what the normal form has there; a
`null` is read as nothing. -/
inductive ReadsMember (s : Shape) : Option Json → Option Json → Prop
  | missing : ReadsMember s none none
  | null : ReadsMember s (some .null) none
  | given {raw normal : Json} (reads : Reads s raw normal) (notNull : raw ≠ .null) :
      ReadsMember s (some raw) (some normal)

namespace Reads

variable {s : Shape} {fields : List Field} {raw normal : Json} {members : List (String × Json)}

theorem object_iff (canonical : (Json.object members).Canonical) :
    Reads (.object fields) (.object members) normal ↔
      (∀ m ∈ members, AcceptsField m.2 (fields.lookup m.1)) ∧
        normal = .object (normalMembers fields members) := by
  constructor
  · rintro ⟨-, ha, rfl⟩
    exact ⟨accepts_object.1 ha, normalForm_object fields members⟩
  · rintro ⟨ha, rfl⟩
    exact ⟨canonical, accepts_object.2 ha, normalForm_object fields members⟩

theorem list_iff {items : List Json} (canonical : (Json.array items).Canonical) :
    Reads (.list s) (.array items) normal ↔
      (∀ j ∈ items, Accepts s j) ∧ normal = .array (items.map (normalForm s)) := by
  constructor
  · rintro ⟨-, ha, rfl⟩
    exact ⟨accepts_list.1 ha, normalForm_list s items⟩
  · rintro ⟨ha, rfl⟩
    exact ⟨canonical, accepts_list.2 ha, normalForm_list s items⟩

theorem sorted (h : Reads (.object fields) (.object members) normal) :
    Increasing (members.map (·.1)) := by
  cases h.canonical
  assumption

/-- A member that is given is read as the member of the normal form. -/
theorem member {presence : Presence} {name : String} {child : Json}
    (h : Reads (.object fields) (.object members) normal) (hf : fieldsSorted fields)
    (hl : fields.lookup name = some (presence, s)) (hp : ∀ text, presence ≠ .constant text)
    (hc : members.lookup name = some child) (hn : child ≠ .null) :
    normal.child? name = some (normalForm s child) ∧ Reads s child (normalForm s child) := by
  obtain ⟨ha, rfl⟩ := (object_iff h.canonical).1 h
  have hgiven : Json.given? name members = some child := given?_eq_some_iff.2 ⟨hc, hn⟩
  have haccepts := ha _ (mem_of_lookup hc)
  rw [hl] at haccepts
  have hchild : (Json.object members).child? name = some child := hc
  refine ⟨?_, h.canonical.child hchild, ?_, rfl⟩
  · rw [child?, lookup_normalMembers hf h.sorted, hl, hgiven]
    cases presence with
    | constant text => exact absurd rfl (hp text)
    | _ => rfl
  · cases presence with
    | constant text => exact absurd rfl (hp text)
    | _ => exact haccepts.resolve_left hn

/-- A member of the normal form that is more than a default is given in the raw document. -/
theorem exists_member {presence : Presence} {name : String} {value : Json}
    (h : Reads (.object fields) raw normal) (hf : fieldsSorted fields)
    (hl : fields.lookup name = some (presence, s)) (hp : ∀ text, presence ≠ .constant text)
    (hv : normal.child? name = some value) (hd : value ≠ s.default) :
    ∃ child, raw.child? name = some child ∧ Reads s child value := by
  obtain ⟨members, rfl⟩ := h.accepts.eq_object
  have hnormal := ((object_iff h.canonical).1 h).2
  cases hg : Json.given? name members with
  | some child =>
    obtain ⟨hc, hn⟩ := given?_eq_some_iff.1 hg
    obtain ⟨he, hreads⟩ := h.member hf hl hp hc hn
    rw [hv] at he
    cases he
    exact ⟨child, hc, hreads⟩
  | none =>
    rw [hnormal, child?, lookup_normalMembers hf h.sorted, hl, hg, Option.bind_some] at hv
    cases presence with
    | constant text => exact absurd rfl (hp text)
    | optional => cases hv
    | defaulted => exact absurd (Option.some.inj hv).symm hd

/-- Setting a member in the raw document sets it in the normal form. -/
theorem setMember {presence : Presence} {name : String} {value value' : Json}
    (h : Reads (.object fields) (.object members) normal) (hf : fieldsSorted fields)
    (hl : fields.lookup name = some (presence, s)) (hp : ∀ text, presence ≠ .constant text)
    (hv : Reads s value value') (hn : value ≠ .null) :
    Reads (.object fields) ((Json.object members).setChild name value)
      (normal.setChild name value') := by
  have canonical : ((Json.object members).setChild name value).Canonical :=
    h.canonical.setChild hv.canonical
  obtain ⟨ha, rfl⟩ := (object_iff h.canonical).1 h
  refine (object_iff canonical).2 ⟨fun m hm => ?_, ?_⟩
  · rcases mem_insertMember hm with rfl | hm
    · rw [hl]
      cases presence with
      | constant text => exact absurd rfl (hp text)
      | _ => exact .inr hv.accepts
    · exact ha m hm
  · rw [normalMembers_insertMember hf h.sorted hl hp hn, hv.normalForm_eq]
    rfl

/-- An item is read as the item of the normal form. -/
theorem item {items : List Json} {token : String} {child : Json}
    (h : Reads (.list s) (.array items) normal)
    (hc : (Json.array items).child? token = some child) :
    normal.child? token = some (normalForm s child) ∧ Reads s child (normalForm s child) := by
  obtain ⟨ha, rfl⟩ := (list_iff h.canonical).1 h
  obtain ⟨i, hi, hx⟩ := Option.bind_eq_some_iff.1 hc
  refine ⟨?_, h.canonical.child hc, ha child (List.mem_of_getElem? hx), rfl⟩
  rw [child?, hi, Option.bind_some, List.getElem?_map, hx, Option.map_some]

/-- Setting an item in the raw document sets it in the normal form. -/
theorem setItem {items : List Json} {token : String} {value value' : Json}
    (h : Reads (.list s) (.array items) normal) (hv : Reads s value value') :
    Reads (.list s) ((Json.array items).setChild token value) (normal.setChild token value') := by
  have canonical : ((Json.array items).setChild token value).Canonical :=
    h.canonical.setChild hv.canonical
  obtain ⟨ha, rfl⟩ := (list_iff h.canonical).1 h
  rw [setChild] at canonical ⊢
  refine (list_iff canonical).2 ?_
  rw [setChild]
  cases index? token with
  | none => exact ⟨ha, rfl⟩
  | some i =>
    simp only [Option.elim_some, List.map_set, hv.normalForm_eq, and_true]
    intro j hj
    rcases List.mem_or_eq_of_mem_set hj with hj | rfl
    · exact ha j hj
    · exact hv.accepts

end Reads

/-! ### Optional members inside a document -/

/-- The place is that of an optional member of shape `leaf` inside documents of shape `s`. -/
inductive OptionalAt : (s : Shape) → (place : List String) → (leaf : Shape) → Prop
  | here {fields : List Field} {name : String} {leaf : Shape}
      (known : fields.lookup name = some (.optional, leaf)) :
      OptionalAt (.object fields) [name] leaf
  | member {fields : List Field} {name : String} {presence : Presence} {s leaf : Shape}
      {place : List String} (known : fields.lookup name = some (presence, s))
      (notConstant : ∀ text, presence ≠ .constant text) (rest : OptionalAt s place leaf) :
      OptionalAt (.object fields) (name :: place) leaf
  | item {s leaf : Shape} {token : String} {place : List String} (rest : OptionalAt s place leaf) :
      OptionalAt (.list s) (token :: place) leaf

namespace OptionalAt

variable {s leaf : Shape} {place : List String} {raw normal : Json} {f g : Option Json → Json}

theorem ne_nil (h : OptionalAt s place leaf) : place ≠ [] := by
  cases h <;> exact List.cons_ne_nil _ _

theorem isSorted_leaf (hp : OptionalAt s place leaf) (hs : s.isSorted) : leaf.isSorted := by
  induction hp with
  | here known => exact isSorted_of_lookup hs known
  | member known notConstant rest ih => exact ih (isSorted_of_lookup hs known)
  | item rest ih => exact ih hs

/-- Only objects and lists have members inside. -/
theorem ne_null (h : OptionalAt s place leaf) (ha : Accepts s raw) : raw ≠ .null := by
  cases h with
  | here | member =>
    obtain ⟨members, rfl⟩ := ha.eq_object
    simp
  | item =>
    obtain ⟨items, rfl⟩ := ha.eq_array
    simp

theorem isMember_of_cons {token : String} (hp : place ≠ []) (h : IsMember (token :: place) raw) :
    ∃ child, raw.child? token = some child ∧ IsMember place child := by
  rcases h.cases with ⟨name, members, he, -⟩ | ⟨token', place', child, he, hc, hm⟩
  · exact absurd (List.cons.inj he).2 hp
  · cases he
    exact ⟨child, hc, hm⟩

theorem isMember_ne_null (h : IsMember place raw) : raw ≠ .null := by
  rintro rfl
  rcases h.cases with ⟨name, members, -, he⟩ | ⟨token, place, child, -, hc, -⟩
  · cases he
  · cases hc

/-- What stands in the place of the member is read as what the normal form has there. -/
theorem readsMember (hp : OptionalAt s place leaf) (hs : s.isSorted) (h : Reads s raw normal)
    (hm : IsMember place raw) : ReadsMember leaf (raw.follow? place) (normal.follow? place) := by
  induction hp generalizing raw normal with
  | @here fields name leaf known =>
    obtain ⟨members, rfl⟩ := h.accepts.eq_object
    obtain ⟨-, rfl⟩ := (Reads.object_iff h.canonical).1 h
    have hnormal : (Json.object (normalMembers fields members)).child? name =
        fieldValue .optional leaf (Json.given? name members) := by
      rw [child?, lookup_normalMembers hs h.sorted, known, Option.bind_some]
    rw [follow?_singleton, follow?_singleton, hnormal, child?]
    cases hc : members.lookup name with
    | none =>
      rw [Json.given?, hc]
      exact .missing
    | some child =>
      by_cases hn : child = .null
      · rw [Json.given?, hc, hn]
        exact .null
      · rw [given?_eq_some_iff.2 ⟨hc, hn⟩]
        exact .given (h.member hs known (by simp) hc hn).2 hn
  | @member fields name presence s leaf place known notConstant rest ih =>
    obtain ⟨members, rfl⟩ := h.accepts.eq_object
    obtain ⟨child, hc, hm⟩ := isMember_of_cons rest.ne_nil hm
    obtain ⟨hnormal, hchild⟩ := h.member hs known notConstant hc (isMember_ne_null hm)
    rw [follow?_cons, follow?_cons, hc, hnormal]
    exact ih (isSorted_of_lookup hs known) hchild hm
  | @item s leaf token place rest ih =>
    obtain ⟨items, rfl⟩ := h.accepts.eq_array
    obtain ⟨child, hc, hm⟩ := isMember_of_cons rest.ne_nil hm
    obtain ⟨hnormal, hchild⟩ := h.item hc
    rw [follow?_cons, follow?_cons, hc, hnormal]
    exact ih hs hchild hm

/-- Altering the member in the raw document alters it in the normal form. -/
theorem reads_alter (hp : OptionalAt s place leaf) (hs : s.isSorted) (h : Reads s raw normal)
    (hm : IsMember place raw)
    (hfg : ∀ old old', ReadsMember leaf old old' → Reads leaf (f old) (g old') ∧ f old ≠ .null) :
    Reads s (raw.alter f place) (normal.alter g place) := by
  have hleaf := hp.readsMember hs h hm
  induction hp generalizing raw normal with
  | @here fields name leaf known =>
    obtain ⟨members, rfl⟩ := h.accepts.eq_object
    rw [follow?_singleton, follow?_singleton] at hleaf
    obtain ⟨hv, hn⟩ := hfg _ _ hleaf
    rw [alter_singleton, alter_singleton]
    exact h.setMember hs known (by simp) hv hn
  | @member fields name presence s leaf place known notConstant rest ih =>
    obtain ⟨members, rfl⟩ := h.accepts.eq_object
    obtain ⟨child, hc, hm⟩ := isMember_of_cons rest.ne_nil hm
    obtain ⟨hnormal, hchild⟩ := h.member hs known notConstant hc (isMember_ne_null hm)
    have hsorted := isSorted_of_lookup hs known
    have halter := ih hsorted hchild hm hfg (rest.readsMember hsorted hchild hm)
    rw [alter_cons_of_child hc, alter_cons_of_child hnormal]
    exact h.setMember hs known notConstant halter (rest.ne_null halter.accepts)
  | @item s leaf token place rest ih =>
    obtain ⟨items, rfl⟩ := h.accepts.eq_array
    obtain ⟨child, hc, hm⟩ := isMember_of_cons rest.ne_nil hm
    obtain ⟨hnormal, hchild⟩ := h.item hc
    rw [alter_cons_of_child hc, alter_cons_of_child hnormal]
    exact h.setItem (ih hs hchild hm hfg (rest.readsMember hs hchild hm))

end OptionalAt

/-- A list that is read as it stands keeps doing so when it gets items that are. -/
theorem ReadsMember.extended {s : Shape} {old old' : Option Json} {added : List Json}
    (h : ReadsMember (.list s) old old') (ha : ∀ j ∈ added, Reads s j j) :
    Reads (.list s) (.array (old.elim [] items ++ added))
      (.array (old'.elim [] items ++ added)) := by
  have hadded : added.map (normalForm s) = added :=
    (List.map_congr_left fun j hj => (ha j hj).normalForm_eq).trans (List.map_id added)
  have hnew : Reads (.list s) (.array added) (.array added) :=
    (Reads.list_iff (.array fun j hj => (ha j hj).canonical)).2
      ⟨fun j hj => (ha j hj).accepts, by rw [hadded]⟩
  cases h with
  | missing | null => exact hnew
  | @given raw normal reads notNull =>
    obtain ⟨xs, rfl⟩ := reads.accepts.eq_array
    obtain ⟨hxs, rfl⟩ := (Reads.list_iff reads.canonical).1 reads
    have canonical : (Json.array (xs ++ added)).Canonical := by
      cases reads.canonical with
      | array each =>
        refine .array fun j hj => ?_
        rcases List.mem_append.1 hj with hj | hj
        · exact each j hj
        · exact (ha j hj).canonical
    refine (Reads.list_iff canonical).2 ⟨fun j hj => ?_, ?_⟩
    · rcases List.mem_append.1 hj with hj | hj
      · exact hxs j hj
      · exact (ha j hj).accepts
    · rw [List.map_append, hadded]
      rfl

namespace OptionalAt

variable {s leaf : Shape} {place : List String} {raw normal : Json}

/-- A list that grows in the raw document grows in the normal form. -/
theorem reads_grow (hp : OptionalAt s place (.list leaf)) (hs : s.isSorted)
    (h : Reads s raw normal) (hm : IsMember place raw) {added : List Json}
    (ha : ∀ j ∈ added, Reads leaf j j) :
    Reads s (raw.grow place added) (normal.grow place added) := by
  unfold grow
  split
  · exact h
  · exact hp.reads_alter hs h hm fun old old' ho => ⟨ho.extended ha, by simp⟩

/-- A member that is put into the raw document is put into the normal form. -/
theorem reads_put (hp : OptionalAt s place leaf) (hs : s.isSorted) (h : Reads s raw normal)
    (hm : IsMember place raw) {value : Json} (hv : Reads leaf value value) (hn : value ≠ .null) :
    Reads s (raw.put place value) (normal.put place value) :=
  hp.reads_alter hs h hm fun _ _ _ => ⟨hv, hn⟩

/-- A list of the raw document has as many items as that of the normal form. -/
theorem isList (hp : OptionalAt s place (.list leaf)) (hs : s.isSorted) (h : Reads s raw normal)
    (hm : IsMember place raw) :
    IsList (raw.follow? place) ((raw.follow? place).elim [] items) ∧
      ((raw.follow? place).elim [] items).length =
        ((normal.follow? place).elim [] items).length := by
  have hread := hp.readsMember hs h hm
  generalize raw.follow? place = old, normal.follow? place = old' at hread ⊢
  cases hread with
  | missing => exact ⟨.missing, rfl⟩
  | null => exact ⟨.null, rfl⟩
  | @given raw' normal' reads notNull =>
    obtain ⟨xs, rfl⟩ := reads.accepts.eq_array
    obtain ⟨-, rfl⟩ := (Reads.list_iff reads.canonical).1 reads
    exact ⟨.array xs, by simp [items]⟩

end OptionalAt

end SparkAdmission
