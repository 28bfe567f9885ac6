import SparkAdmission.Json.Writer
import SparkAdmission.Proofs.Json.Members

/-!
# Writing what JSON values tell

A JSON value refuses nothing, and its names are texts, so that what it tells is always written. As a
text it has the compact form of the value (`Datum.toText_ofJson`), and as a value it is the same
again where the value is in canonical form (`Datum.toJson_ofJson`).
-/

namespace SparkAdmission.Datum

open Json

variable {object : List (String × Json) → Json}

/-! ### Lists and maps -/

/-- Items are written in order where each of them is written as it is. -/
theorem writeItems_map {f : Json → Datum} {items : List Json}
    (h : ∀ j ∈ items, write object (f j) = .ok j) :
    writeItems object (items.map f) = .ok items := by
  induction items with
  | nil => rfl
  | cons j items ih =>
    obtain ⟨hj, hitems⟩ := List.forall_mem_cons.1 h
    rw [List.map_cons, writeItems, hj, ih hitems]
    rfl

/-- An entry with a text for a key stands in front of the entries behind it. -/
theorem writeEntries_cons {name : String} {d : Datum} {j : Json} {entries : List (Datum × Datum)}
    {members : List (String × Json)} (hd : write object d = .ok j)
    (h : writeEntries object entries = .ok members) :
    writeEntries object ((.text name, d) :: entries) = .ok ((name, j) :: members) := by
  rw [writeEntries, Datum.name, hd, h]
  rfl

/-- Members are written in order where the value of each is written as it is. -/
theorem writeEntries_map {f : Json → Datum} {members : List (String × Json)}
    (h : ∀ m ∈ members, write object (f m.2) = .ok m.2) :
    writeEntries object (members.map fun m => (.text m.1, f m.2)) = .ok members := by
  induction members with
  | nil => rfl
  | cons m members ih =>
    obtain ⟨hm, hmembers⟩ := List.forall_mem_cons.1 h
    exact writeEntries_cons hm (ih hmembers)

/-- A list is written when its items are. -/
theorem toJson_list {items : List Datum} {js : List Json}
    (h : writeItems .ofMembers items = .ok js) : (list items).toJson = .ok (.array js) := by
  rw [toJson, write, h]
  rfl

/-- A map is written when its entries are, as they are told where their names increase. -/
theorem toJson_map {entries : List (Datum × Datum)} {members : List (String × Json)}
    (h : writeEntries .ofMembers entries = .ok members)
    (sorted : Increasing (members.map (·.1))) : (map entries).toJson = .ok (.object members) := by
  rw [toJson, write, h, Except.map, Json.ofMembers, sortMembers_of_increasing sorted]

/-! ### JSON values -/

theorem ofItems_eq_map (items : List Json) : ofItems items = items.map ofJson := by
  induction items with
  | nil => rfl
  | cons j items ih => rw [ofItems, ih, List.map_cons]

theorem ofMembers_eq_map (members : List (String × Json)) :
    ofMembers members = members.map fun m => (.text m.1, ofJson m.2) := by
  induction members with
  | nil => rfl
  | cons m members ih => rw [ofMembers, ih, List.map_cons]

mutual

/-- Where members stay in the order in which they are told, every value is written as it is. -/
theorem write_ofJson : (j : Json) → (ofJson j).write .object = .ok j
  | .null | .bool _ | .number _ | .string _ => rfl
  | .array items => by rw [ofJson, write, writeItems_ofItems items]; rfl
  | .object members => by rw [ofJson, write, writeEntries_ofMembers members]; rfl

theorem writeItems_ofItems : (items : List Json) → writeItems .object (ofItems items) = .ok items
  | [] => rfl
  | j :: items => by rw [ofItems, writeItems, write_ofJson j, writeItems_ofItems items]; rfl

theorem writeEntries_ofMembers : (members : List (String × Json)) →
    writeEntries .object (ofMembers members) = .ok members
  | [] => rfl
  | (_, j) :: members => writeEntries_cons (write_ofJson j) (writeEntries_ofMembers members)

end

/-- The text of what a value tells is its compact text. -/
theorem toText_ofJson (j : Json) : (ofJson j).toText = .ok j.render := by
  rw [toText, write_ofJson]
  rfl

/-- A value in canonical form is written as it is. -/
theorem toJson_ofJson {j : Json} (h : j.Canonical) : (ofJson j).toJson = .ok j := by
  induction h with
  | null | bool | number | string => rfl
  | array _ ih =>
    rw [ofJson, ofItems_eq_map]
    exact toJson_list (writeItems_map ih)
  | object sorted _ ih =>
    rw [ofJson, ofMembers_eq_map]
    exact toJson_map (writeEntries_map ih) sorted

end SparkAdmission.Datum
