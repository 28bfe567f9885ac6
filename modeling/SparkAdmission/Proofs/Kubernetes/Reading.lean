import SparkAdmission.Kubernetes.Shape
import SparkAdmission.Proofs.Json.Reader
import SparkAdmission.Proofs.Json.Source

/-!
# Reading a value of a shape

A value is accepted by a shape when a reader of the shape finds no fault and no misfit in it, and
what is read is its normal form. Both are described here by the parts of the value: a list by its
items, an object by what it gives under the names of the fields. In a normal form stands under a
name what the field of the name makes of the value that is given (`lookup_normalMembers`), so that
setting a member goes along with reading (`normalMembers_insertMember`).
-/

namespace SparkAdmission.Shape

open Json

theorem bind_unit_eq_ok {ε β : Type} {x : Except ε Unit} {f : Unit → Except ε β} {b : β} :
    x >>= f = .ok b ↔ x = .ok () ∧ f () = .ok b :=
  bind_eq_ok.trans ⟨fun ⟨(), h⟩ => h, fun h => ⟨(), h⟩⟩

/-- A reader of the shape finds no fault and no misfit in the value. -/
def Accepts (s : Shape) (j : Json) : Prop := s.check (.ofJson j) none = .ok ()

/-- What is read of a value. -/
def normalForm (s : Shape) (j : Json) : Json := s.normalize (.ofJson j)

/-- What may stand under a name, by its field: anything where there is none, the text of a
constant, and else `null` or what passes the check. -/
def FieldFits (depth : Levels) (source : Source) : Option (Presence × Shape) → Prop
  | none => source.isWhole
  | some (.constant text, _) => source = .string (some text)
  | some (_, s) => source = .null ∨ check source s depth = .ok ()

/-! ### Acceptance -/

theorem checkItems_eq_ok {items : List Source} {s : Shape} {depth : Levels} :
    checkItems items s depth = .ok () ↔ ∀ source ∈ items, check source s depth = .ok () := by
  induction items with
  | nil => simp [checkItems]
  | cons source rest ih => simp [checkItems, bind_unit_eq_ok, ih]

theorem checkMembers_eq_ok {members : List (Option String × Source)} {s : Shape}
    {depth : Levels} :
    checkMembers members s depth = .ok () ↔
      ∀ m ∈ members, m.1.isSome ∧ check m.2 s depth = .ok () := by
  induction members with
  | nil => simp [checkMembers]
  | cons m rest ih =>
    obtain ⟨name | name, source⟩ := m
    · simp [checkMembers]
    · simp [checkMembers, bind_unit_eq_ok, ih]

theorem checkConstant_eq_ok {text : String} {source : Source} :
    checkConstant text source = .ok () ↔ source = .string (some text) := by
  unfold checkConstant
  split
  · rename_i s
    by_cases h : s = text <;> simp [h]
  · rename_i h
    simp only [reduceCtorEq, false_iff]
    exact h text

theorem checkFields_eq_ok {members : List (Option String × Source)} {fields : List Field}
    {depth : Levels} :
    checkFields members fields depth = .ok () ↔
      ∀ m ∈ members, ∃ name, m.1 = some name ∧ FieldFits depth m.2 (fields.lookup name) := by
  induction members with
  | nil => simp [checkFields]
  | cons m rest ih =>
    rw [List.forall_mem_cons, ← ih]
    obtain ⟨name | name, source⟩ := m
    · simp [checkFields]
    · simp only [Option.some.injEq, exists_eq_left']
      cases hl : fields.lookup name with
      | none =>
        rw [checkFields.eq_3 _ _ _ _ _ hl, FieldFits]
        by_cases hw : source.isWhole <;> simp [hw, bind, Except.bind, throw]
      | some field =>
        obtain ⟨presence, s⟩ := field
        cases presence with
        | constant text =>
          rw [checkFields.eq_4 _ _ _ _ _ _ _ hl, bind_unit_eq_ok, checkConstant_eq_ok]
          rfl
        | _ =>
          by_cases hn : source = .null
          · rw [hn, checkFields.eq_5 _ _ _ _ _ hl (by simp)]
            simp [FieldFits]
          · rw [checkFields.eq_6 _ _ _ _ _ _ _ hl hn (by simp), bind_unit_eq_ok]
            simp [FieldFits, hn]

theorem accepts_list {s : Shape} {items : List Json} :
    Accepts (.list s) (.array items) ↔ ∀ j ∈ items, Accepts s j := by
  have hcheck : (Shape.list s).check (.ofJson (.array items)) none =
      checkItems (items.map Source.ofJson) s none >>= fun _ => .ok () := by
    rw [Source.ofJson, Source.ofItems_eq_map]
    rfl
  rw [Accepts, hcheck, bind_unit_eq_ok, checkItems_eq_ok]
  simp [Accepts]

/-- What a value may be under a name, by the field of the name. -/
def AcceptsField (j : Json) : Option (Presence × Shape) → Prop
  | none => True
  | some (.constant text, _) => j = .string text
  | some (_, s) => j = .null ∨ Accepts s j

theorem acceptsField_iff {j : Json} {field : Option (Presence × Shape)} :
    AcceptsField j field ↔ FieldFits none (.ofJson j) field := by
  unfold AcceptsField FieldFits
  split
  · simp [Source.isWhole_ofJson]
  · cases j <;> simp [Source.ofJson]
  · rw [Accepts]
    cases j <;> simp [Source.ofJson]

theorem accepts_object {fields : List Field} {members : List (String × Json)} :
    Accepts (.object fields) (.object members) ↔
      ∀ m ∈ members, AcceptsField m.2 (fields.lookup m.1) := by
  have hcheck : (Shape.object fields).check (.ofJson (.object members)) none =
      checkFields (members.map fun m => (some m.1, .ofJson m.2)) fields none >>=
        fun _ => .ok () := by
    rw [Source.ofJson, Source.ofMembers_eq_map]
    rfl
  rw [Accepts, hcheck, bind_unit_eq_ok, checkFields_eq_ok, List.forall_mem_map]
  simp [acceptsField_iff]

theorem accepts_map {s : Shape} {members : List (String × Json)} :
    Accepts (.map s) (.object members) ↔ ∀ m ∈ members, Accepts s m.2 := by
  have hcheck : (Shape.map s).check (.ofJson (.object members)) none =
      checkMembers (members.map fun m => (some m.1, .ofJson m.2)) s none >>=
        fun _ => .ok () := by
    rw [Source.ofJson, Source.ofMembers_eq_map]
    rfl
  rw [Accepts, hcheck, bind_unit_eq_ok, checkMembers_eq_ok, List.forall_mem_map]
  simp [Accepts]

mutual

/-- Any value is accepted as it is. -/
theorem accepts_any : (j : Json) → Accepts .any j
  | .null | .bool _ | .number _ | .string _ => rfl
  | .array items => by
    have hcheck : Shape.any.check (.ofJson (.array items)) none =
        checkItems (items.map Source.ofJson) .any none >>= fun _ => .ok () := by
      rw [Source.ofJson, Source.ofItems_eq_map]
      rfl
    rw [Accepts, hcheck, bind_unit_eq_ok, checkItems_eq_ok, List.forall_mem_map]
    exact ⟨accepts_any_items items, rfl⟩
  | .object members => by
    have hcheck : Shape.any.check (.ofJson (.object members)) none =
        checkMembers (members.map fun m => (some m.1, .ofJson m.2)) .any none >>=
          fun _ => .ok () := by
      rw [Source.ofJson, Source.ofMembers_eq_map]
      rfl
    rw [Accepts, hcheck, bind_unit_eq_ok, checkMembers_eq_ok, List.forall_mem_map]
    exact ⟨fun m hm => ⟨rfl, accepts_any_members members m hm⟩, rfl⟩

theorem accepts_any_items : (items : List Json) → ∀ j ∈ items, Accepts .any j
  | [], _, h => nomatch h
  | j :: rest, j', h => by
    rcases List.mem_cons.1 h with he | h
    · rw [he]
      exact accepts_any j
    · exact accepts_any_items rest j' h

theorem accepts_any_members : (members : List (String × Json)) → ∀ m ∈ members, Accepts .any m.2
  | [], _, h => nomatch h
  | (name, j) :: rest, m, h => by
    rcases List.mem_cons.1 h with he | h
    · rw [he]
      exact accepts_any j
    · exact accepts_any_members rest m h

end

theorem Accepts.eq_array {s : Shape} {j : Json} (h : Accepts (.list s) j) :
    ∃ items, j = .array items := by
  cases j with
  | array items => exact ⟨items, rfl⟩
  | _ => exact nomatch h

theorem Accepts.eq_object {fields : List Field} {j : Json} (h : Accepts (.object fields) j) :
    ∃ members, j = .object members := by
  cases j with
  | object members => exact ⟨members, rfl⟩
  | _ => exact nomatch h

/-! ### Normal forms -/

theorem normalForm_list (s : Shape) (items : List Json) :
    normalForm (.list s) (.array items) = .array (items.map (normalForm s)) := by
  rw [normalForm, Source.ofJson, Source.ofItems_eq_map, normalize, List.map_map]
  rfl

theorem normalForm_any {j : Json} (h : j.Canonical) : normalForm .any j = j := by
  rw [normalForm, normalize, Source.toJson_ofJson h]

theorem normalForm_map (s : Shape) (members : List (String × Json)) :
    normalForm (.map s) (.object members) =
      .object (sortMembers (members.map fun m => (m.1, normalForm s m.2))) := by
  rw [normalForm, Source.ofJson, Source.ofMembers_eq_map, normalize, Json.ofMembers,
    List.filterMap_map]
  congr 2
  exact congrFun List.filterMap_eq_map _

/-- The members of the normal form of an object with fields. -/
def normalMembers (fields : List Field) (members : List (String × Json)) : List (String × Json) :=
  normalizeFields fields (members.map fun m => (some m.1, .ofJson m.2))

theorem normalForm_object (fields : List Field) (members : List (String × Json)) :
    normalForm (.object fields) (.object members) = .object (normalMembers fields members) := by
  rw [normalForm, Source.ofJson, Source.ofMembers_eq_map, normalize]
  rfl

/-! ### Sorted fields -/

mutual

/-- Whether the fields of every object in the shape are sorted by name. -/
def isSorted : Shape → Bool
  | .list s | .map s => s.isSorted
  | .object fields => fieldsSorted fields
  | _ => true

/-- Whether fields are sorted by name, and the shapes of the fields are sorted. -/
def fieldsSorted : List (String × Presence × Shape) → Bool
  | [] => true
  | (name, _, s) :: rest =>
    rest.head?.all (fun f => name < f.1) && s.isSorted && fieldsSorted rest

end

theorem increasing_of_fieldsSorted {fields : List Field} (h : fieldsSorted fields) :
    Increasing (fields.map (·.1)) := by
  induction fields with
  | nil => exact .nil
  | cons field rest ih =>
    simp only [fieldsSorted, Bool.and_eq_true] at h
    have hrest := ih h.2
    refine List.pairwise_cons.2 ⟨?_, hrest⟩
    cases rest with
    | nil => nofun
    | cons next rest =>
      -- in front of the next name, and so in front of all names behind that
      have hnext : field.1 < next.1 := of_decide_eq_true h.1.1
      intro name hname
      rcases List.mem_cons.1 hname with rfl | hname
      · exact hnext
      · exact String.lt_trans hnext ((List.pairwise_cons.1 hrest).1 name hname)

theorem isSorted_of_lookup {fields : List Field} (h : fieldsSorted fields) {name : String}
    {presence : Presence} {s : Shape} (hl : fields.lookup name = some (presence, s)) :
    s.isSorted := by
  induction fields with
  | nil => cases hl
  | cons field rest ih =>
    obtain ⟨key, field⟩ := field
    simp only [fieldsSorted, Bool.and_eq_true] at h
    rw [lookup_cons_eq] at hl
    split at hl
    · cases hl
      exact h.1.2
    · exact ih h.2 hl

/-! ### Members of a normal form -/

/-- What the normal form has under the name of a field that is given a value or nothing. -/
def fieldValue : Presence → Shape → Option Json → Option Json
  | .constant text, _, _ => some (.string text)
  | _, s, some j => some (normalForm s j)
  | .optional, _, none => none
  | .defaulted, s, none => some s.default

theorem normalMembers_cons (name : String) (presence : Presence) (s : Shape) (fields : List Field)
    {members : List (String × Json)} (sorted : Increasing (members.map (·.1))) :
    normalMembers ((name, presence, s) :: fields) members =
      ((fieldValue presence s (Json.given? name members)).toList.map fun j => (name, j)) ++
        normalMembers fields members := by
  unfold normalMembers
  cases presence with
  | constant text => rfl
  | optional | defaulted =>
    rw [normalizeFields, Source.given?_ofMembers sorted]
    cases Json.given? name members <;> rfl

variable {fields : List Field} {members : List (String × Json)}

theorem names_normalMembers (sorted : Increasing (members.map (·.1))) (fields : List Field) :
    ((normalMembers fields members).map (·.1)).Sublist (fields.map (·.1)) := by
  induction fields with
  | nil => exact .slnil
  | cons field rest ih =>
    obtain ⟨name, presence, s⟩ := field
    rw [normalMembers_cons name presence s rest sorted, List.map_append, List.map_cons]
    cases fieldValue presence s (Json.given? name members) with
    | none => exact ih.cons name
    | some j => exact ih.cons_cons name

theorem increasing_normalMembers (hf : fieldsSorted fields)
    (sorted : Increasing (members.map (·.1))) :
    Increasing ((normalMembers fields members).map (·.1)) :=
  (increasing_of_fieldsSorted hf).sublist (names_normalMembers sorted fields)

/-- Under the name of a field stands what the field makes of the value that is given. -/
theorem lookup_normalMembers (hf : fieldsSorted fields) (sorted : Increasing (members.map (·.1)))
    (name : String) :
    (normalMembers fields members).lookup name =
      (fields.lookup name).bind fun f => fieldValue f.1 f.2 (Json.given? name members) := by
  induction fields with
  | nil => rfl
  | cons field rest ih =>
    obtain ⟨key, presence, s⟩ := field
    have hrest : fieldsSorted rest := by
      simp only [fieldsSorted, Bool.and_eq_true] at hf
      exact hf.2
    rw [normalMembers_cons key presence s rest sorted, List.lookup_append, ih hrest,
      lookup_cons_eq]
    by_cases h : name = key
    · subst h
      -- the name stands for no other field
      have hnone : rest.lookup name = none := by
        have hlt := (List.pairwise_cons.1 (increasing_of_fieldsSorted hf)).1
        rw [List.lookup_eq_none_iff]
        intro f hmem
        rw [bne_iff_ne]
        rintro rfl
        exact String.lt_irrefl _ (hlt f.1 (List.mem_map_of_mem hmem))
      rw [hnone, if_pos rfl, Option.bind_some]
      cases fieldValue presence s (Json.given? name members) <;> simp
    · rw [if_neg h]
      cases fieldValue presence s (Json.given? key members) <;> simp [lookup_cons_eq, h]

/-- Setting a member that a field knows sets it in the normal form. -/
theorem normalMembers_insertMember (hf : fieldsSorted fields)
    (sorted : Increasing (members.map (·.1))) {name : String} {presence : Presence} {s : Shape}
    (hl : fields.lookup name = some (presence, s)) (hp : ∀ text, presence ≠ .constant text)
    {value : Json} (hv : value ≠ .null) :
    normalMembers fields (insertMember name value members) =
      insertMember name (normalForm s value) (normalMembers fields members) := by
  have sorted' := increasing_insertMember name value sorted
  apply eq_of_lookup_eq (increasing_normalMembers hf sorted')
    (increasing_insertMember _ _ (increasing_normalMembers hf sorted))
  intro key
  rw [lookup_normalMembers hf sorted', lookup_insertMember, lookup_normalMembers hf sorted]
  by_cases h : key = name
  · subst h
    rw [if_pos rfl, hl, given?_insertMember_self hv, Option.bind_some]
    cases presence with
    | constant text => exact absurd rfl (hp text)
    | _ => rfl
  · rw [if_neg h, given?_insertMember_of_ne h]

end SparkAdmission.Shape
