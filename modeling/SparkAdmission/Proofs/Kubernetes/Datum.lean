import SparkAdmission.Kubernetes.Datum
import SparkAdmission.Proofs.Json.Writer
import SparkAdmission.Proofs.Kubernetes.NormalForm

/-!
# Documents are written as they are

What a value in normal form tells can always be written, and as a value it is what it was
(`toJson_datum`). A shape needs its fields sorted, so that the members are told in the order in
which they stand.
-/

namespace SparkAdmission.Shape

open Json

/-! ### The members that are told -/

/-- A member that is not constant is told where it is there. -/
theorem fieldData_cons {name : String} {presence : Presence}
    (hp : ∀ text, presence ≠ .constant text) (s : Shape) (fields : List Field)
    (members : List (String × Json)) :
    fieldData ((name, presence, s) :: fields) members =
      match members.lookup name with
      | some j => (.text name, s.datum j) :: fieldData fields members
      | none => fieldData fields members :=
  fieldData.eq_3 _ _ _ _ _ hp

/-- Only the members of the fields are told. -/
theorem fieldData_congr {fields : List Field} {first second : List (String × Json)}
    (h : ∀ name ∈ fields.map (·.1), first.lookup name = second.lookup name) :
    fieldData fields first = fieldData fields second := by
  induction fields with
  | nil => rfl
  | cons field fields ih =>
    obtain ⟨name, presence, s⟩ := field
    obtain ⟨hname, hrest⟩ := List.forall_mem_cons.1 h
    cases presence with
    | constant text => rw [fieldData, fieldData, ih hrest]
    | optional | defaulted =>
      rw [fieldData_cons (by simp), fieldData_cons (by simp), ih hrest, hname]

/-- The members behind a first one are told by the fields behind its own. -/
theorem fieldData_cons_of_fieldsSorted {name : String} {field : Presence × Shape}
    {fields : List Field} (hf : fieldsSorted ((name, field) :: fields)) (value : Json)
    (members : List (String × Json)) :
    fieldData fields ((name, value) :: members) = fieldData fields members := by
  refine fieldData_congr fun other hother => ?_
  have hlt := (List.pairwise_cons.1 (increasing_of_fieldsSorted hf)).1 other hother
  rw [lookup_cons_eq, if_neg]
  rintro rfl
  exact String.lt_irrefl _ hlt

mutual

/-- What a value in normal form tells can be written, and is that value. -/
theorem toJson_datum : (s : Shape) → s.isSorted → {j : Json} → Conforms s j →
    (s.datum j).toJson = .ok j
  | .string, _, _, .string _ | .boolean, _, _, .boolean _ | .intOrString, _, _, .intText _ => rfl
  | .int32, _, _, .int32 fits | .int64, _, _, .int64 fits | .intOrString, _, _, .int fits =>
    congrArg Datum.toJson (if_pos fits)
  | .time, _, _, .time t => by
    refine congrArg Datum.toJson (if_pos ?_)
    change (Timestamp.parse? t.text).isSome
    rw [Timestamp.parse?_text, Option.isSome_some]
  | .any, _, _, .any canonical => Datum.toJson_ofJson canonical
  | .list s, hs, _, .list each =>
    Datum.toJson_list (Datum.writeItems_map fun j hj => toJson_datum s hs (each j hj))
  | .map s, hs, _, .map sorted each =>
    Datum.toJson_map (Datum.writeEntries_map fun m hm => toJson_datum s hs (each m hm)) sorted
  | .object fields, hs, _, .object each =>
    Datum.toJson_map (writeEntries_fieldData fields hs each)
      ((increasing_of_fieldsSorted hs).sublist (names_of_fieldsConform each))

/-- The members are told in the order in which they stand. -/
theorem writeEntries_fieldData : (fields : List (String × Presence × Shape)) →
    fieldsSorted fields → {members : List (String × Json)} → FieldsConform fields members →
      Datum.writeEntries .ofMembers (fieldData fields members) = .ok members
  | [], _, _, .nil => rfl
  | (name, presence, s) :: fields, hf, members, h => by
    have hsorted := hf
    simp only [fieldsSorted, Bool.and_eq_true] at hsorted
    cases h with
    | absent rest =>
      have hnone : members.lookup name = none := lookup_eq_none_of_forall_lt fun other hother =>
        (List.pairwise_cons.1 (increasing_of_fieldsSorted hf)).1 other
          ((names_of_fieldsConform rest).subset hother)
      rw [fieldData_cons (by simp), hnone]
      exact writeEntries_fieldData fields hsorted.2 rest
    | given head notNull rest | defaulted head rest =>
      rw [fieldData_cons (by simp), List.lookup_cons_self, fieldData_cons_of_fieldsSorted hf]
      exact Datum.writeEntries_cons (toJson_datum s hsorted.1.2 head)
        (writeEntries_fieldData fields hsorted.2 rest)
    | constant rest =>
      rw [fieldData, fieldData_cons_of_fieldsSorted hf]
      exact Datum.writeEntries_cons rfl (writeEntries_fieldData fields hsorted.2 rest)

end

end SparkAdmission.Shape
