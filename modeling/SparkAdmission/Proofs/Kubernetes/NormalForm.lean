import SparkAdmission.Proofs.Kubernetes.RawDocument
import SparkAdmission.Proofs.Timestamp

/-!
# Documents in normal form

A value in normal form is read as it is (`reads_of_conforms`): reading what has been read and
written changes nothing. The object case compares members name by name, so a shape needs its
fields sorted.
-/

namespace SparkAdmission.Shape

open Json

/-! ### The members of a normal form -/

/-- What stands under a name in a normal form, by the field of the name. -/
inductive FieldHolds : Option (Presence × Shape) → Option Json → Prop
  | unknown : FieldHolds none none
  | absent {s : Shape} : FieldHolds (some (.optional, s)) none
  | given {s : Shape} {value : Json} (conforms : Conforms s value) (notNull : value ≠ .null) :
      FieldHolds (some (.optional, s)) (some value)
  | defaulted {s : Shape} {value : Json} (conforms : Conforms s value) :
      FieldHolds (some (.defaulted, s)) (some value)
  | constant {text : String} {s : Shape} :
      FieldHolds (some (.constant text, s)) (some (.string text))

theorem names_of_fieldsConform {fields : List Field} {members : List (String × Json)}
    (h : FieldsConform fields members) :
    (members.map (·.1)).Sublist (fields.map (·.1)) := by
  induction fields generalizing members with
  | nil =>
    cases h
    exact .slnil
  | cons field fields ih =>
    cases h with
    | absent rest => exact (ih rest).cons _
    | given _ _ rest | defaulted _ rest | constant rest => exact (ih rest).cons_cons _

theorem fieldHolds_lookup {fields : List Field} {members : List (String × Json)}
    (hf : fieldsSorted fields) (h : FieldsConform fields members) (name : String) :
    FieldHolds (fields.lookup name) (members.lookup name) := by
  induction fields generalizing members with
  | nil =>
    cases h
    exact .unknown
  | cons field fields ih =>
    have hrest : fieldsSorted fields := by
      simp only [fieldsSorted, Bool.and_eq_true] at hf
      exact hf.2
    have hlt := (List.pairwise_cons.1 (increasing_of_fieldsSorted hf)).1
    cases h with
    | @absent key s _ _ rest =>
      rw [lookup_cons_eq]
      split
      · rename_i he
        subst he
        -- the names behind the field are greater than its own
        have hnone : members.lookup name = none :=
          lookup_eq_none_of_forall_lt fun n hn =>
            hlt n ((names_of_fieldsConform rest).subset hn)
        rw [hnone]
        exact .absent
      · exact ih hrest rest
    | given head notNull rest =>
      rw [lookup_cons_eq, lookup_cons_eq]
      split
      · exact .given head notNull
      · exact ih hrest rest
    | defaulted head rest =>
      rw [lookup_cons_eq, lookup_cons_eq]
      split
      · exact .defaulted head
      · exact ih hrest rest
    | constant rest =>
      rw [lookup_cons_eq, lookup_cons_eq]
      split
      · exact .constant
      · exact ih hrest rest

/-! ### Reading a normal form -/

/-- A field makes of what stands under its name what stands there already. -/
theorem fieldValue_of_fieldHolds {field : Option (Presence × Shape)} {value : Option Json}
    (h : FieldHolds field value)
    (each : ∀ {presence : Presence} {s : Shape} {j : Json},
      field = some (presence, s) → Conforms s j → normalForm s j = j) :
    (field.bind fun f => fieldValue f.1 f.2 (value.filter fun j => !j.isNull)) = value := by
  have hkept : ∀ {j : Json}, j ≠ .null → (some j).filter (fun j => !j.isNull) = some j :=
    fun hj => Option.filter_eq_some_iff.2 ⟨rfl, by simpa [← Bool.not_eq_true] using hj⟩
  cases h with
  | unknown | absent | constant => rfl
  | given conforms notNull =>
    rw [hkept notNull, Option.bind_some, fieldValue, each rfl conforms]
    simp
  | @defaulted s value conforms =>
    by_cases hn : value = .null
    · -- only an arbitrary value may be null, and null is its default
      subst hn
      cases conforms
      rfl
    · rw [hkept hn, Option.bind_some, fieldValue, each rfl conforms]
      simp

/-- Members in normal form that are read as they are make an object that is. -/
theorem reads_object {fields : List Field} {members : List (String × Json)}
    (hf : fieldsSorted fields) (h : FieldsConform fields members)
    (each : ∀ {name : String} {presence : Presence} {s : Shape} {value : Json},
      fields.lookup name = some (presence, s) → Conforms s value → Reads s value value) :
    Reads (.object fields) (.object members) (.object members) := by
  have sorted : Increasing (members.map (·.1)) :=
    (increasing_of_fieldsSorted hf).sublist (names_of_fieldsConform h)
  have holds := fieldHolds_lookup hf h
  have hmember : ∀ {name : String} {value : Json}, (name, value) ∈ members →
      FieldHolds (fields.lookup name) (some value) := by
    intro name value hm
    rw [← lookup_of_mem sorted hm]
    exact holds name
  have canonical : (Json.object members).Canonical := by
    refine .object sorted ?_
    rintro ⟨name, value⟩ hm
    have hm := hmember hm
    generalize hl : fields.lookup name = field at hm
    cases hm with
    | given conforms | defaulted conforms => exact (each hl conforms).canonical
    | constant => exact .string _
  refine (Reads.object_iff canonical).2 ⟨?_, ?_⟩
  · rintro ⟨name, value⟩ hm
    have hm := hmember hm
    generalize hl : fields.lookup name = field at hm
    cases hm with
    | given conforms | defaulted conforms => exact .inr (each hl conforms).accepts
    | constant => rfl
  · congr 1
    apply eq_of_lookup_eq sorted (increasing_normalMembers hf sorted)
    intro name
    rw [lookup_normalMembers hf sorted, Json.given?]
    exact (fieldValue_of_fieldHolds (holds name) fun hl hc => (each hl hc).normalForm_eq).symm

mutual

/-- A value in normal form is read as it is. -/
theorem reads_of_conforms : (s : Shape) → s.isSorted → {j : Json} → Conforms s j → Reads s j j
  | .string, _, _, .string s => ⟨.string s, rfl, rfl⟩
  | .boolean, _, _, .boolean b => ⟨.bool b, rfl, rfl⟩
  | .int32, _, _, .int32 fits => ⟨.number _, if_pos fits, if_pos fits⟩
  | .int64, _, _, .int64 fits => ⟨.number _, if_pos fits, if_pos fits⟩
  | .intOrString, _, _, .int fits => ⟨.number _, if_pos fits, if_pos fits⟩
  | .intOrString, _, _, .intText s => ⟨.string s, rfl, rfl⟩
  | .time, _, _, .time t => by
    refine ⟨.string _, if_pos ?_, ?_⟩
    · change (Timestamp.parse? t.text).isSome
      rw [Timestamp.parse?_text, Option.isSome_some]
    · change Json.string ((Timestamp.parse? t.text).getD .epoch).text = _
      rw [Timestamp.parse?_text, Option.getD_some]
  | .any, _, _, .any canonical => ⟨canonical, accepts_any _, normalForm_any canonical⟩
  | .list s, hs, _, .list each => by
    have hitems := fun j hj => reads_of_conforms s hs (each j hj)
    refine (Reads.list_iff (.array fun j hj => (hitems j hj).canonical)).2
      ⟨fun j hj => (hitems j hj).accepts, ?_⟩
    congr 1
    exact ((List.map_congr_left fun j hj => (hitems j hj).normalForm_eq).trans
      (List.map_id _)).symm
  | .map s, hs, _, @Conforms.map _ members sorted each => by
    have hmembers := fun m hm => reads_of_conforms s hs (each m hm)
    refine ⟨.object sorted fun m hm => (hmembers m hm).canonical,
      accepts_map.2 fun m hm => (hmembers m hm).accepts, ?_⟩
    have hsame : members.map (fun m => (m.1, normalForm s m.2)) = members :=
      (List.map_congr_left fun m hm => by rw [(hmembers m hm).normalForm_eq, id]).trans
        (List.map_id members)
    rw [normalForm_map, hsame, sortMembers_of_increasing sorted]
  | .object fields, hs, _, .object each => reads_object hs each (reads_of_field fields hs)

/-- The same of the shapes of fields. -/
theorem reads_of_field : (fields : List (String × Presence × Shape)) → fieldsSorted fields →
    {name : String} → {presence : Presence} → {s : Shape} → {j : Json} →
      fields.lookup name = some (presence, s) → Conforms s j → Reads s j j
  | (key, presence', s') :: rest, hf, name, presence, s, j, hl, hc => by
    simp only [fieldsSorted, Bool.and_eq_true] at hf
    rw [lookup_cons_eq] at hl
    split at hl
    · cases hl
      exact reads_of_conforms s' hf.1.2 hc
    · exact reads_of_field rest hf.2 hl hc

end

/-- A value that is its own normal form is in normal form. -/
theorem conforms_of_normalForm_eq {s : Shape} {j : Json} (h : normalForm s j = j) :
    Conforms s j := by
  rw [← h]
  exact conforms_normalize s (.ofJson j)

end SparkAdmission.Shape
