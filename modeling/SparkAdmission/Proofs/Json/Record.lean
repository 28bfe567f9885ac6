import SparkAdmission.Json.Reader
import SparkAdmission.Proofs.Json.Source

/-!
# Records read from what was written of them

A record is written as an object with sorted names, from which members may be missing. Reading the
object puts the members that are there into the empty record, one after the other
(`Record.read_ofSome`). A member that was `Written` for a value gives the value back, also where it
is missing, as it then stands for the default (`Record.putSome_cons`).
-/

namespace SparkAdmission

open Json Source

variable {α : Type}

/-! ### Written values -/

/-- What was written of a value is read as that value; where nothing was written the value is the
default. -/
structure Written (read : Reader α) (default : α) (written : Option Json) (value : α) : Prop where
  read_eq : ∀ j, written = some j → read none (.ofJson j) = .ok value
  eq_default : written = none → value = default

namespace Written

variable {read : Reader α}

theorem of_read {default value : α} {j : Json} (h : read none (.ofJson j) = .ok value) :
    Written read default (some j) value where
  read_eq _ he := Option.some.inj he ▸ h
  eq_default he := nomatch he

theorem optional_eq_map {source : Source} (h : source.isNull = false) (depth : Levels) :
    Reader.optional read depth source = (read depth source).map some := by
  cases source with
  | null => cases h
  | _ => rfl

theorem optional {write : α → Json} {value : Option α}
    (h : ∀ a, value = some a → read none (.ofJson (write a)) = .ok a)
    (hnull : ∀ a, value = some a → write a ≠ .null) :
    Written (Reader.optional read) none (value.map write) value := by
  cases value with
  | none => exact ⟨nofun, fun _ => rfl⟩
  | some a =>
    have hread := h a rfl
    have hne : (Source.ofJson (write a)).isNull = false := by
      rw [isNull_ofJson, ← Bool.not_eq_true, isNull_iff]
      exact hnull a rfl
    refine of_read ?_
    rw [optional_eq_map hne, hread]
    rfl

theorem mapM_eq_ok {write : α → Json} {values : List α}
    (h : ∀ a ∈ values, read none (.ofJson (write a)) = .ok a) :
    ((values.map write).map Source.ofJson).mapM (read none) = .ok values := by
  induction values with
  | nil => rfl
  | cons a values ih =>
    obtain ⟨ha, hvalues⟩ := List.forall_mem_cons.1 h
    rw [List.map_cons, List.map_cons, List.mapM_cons, ha, ih hvalues]
    rfl

/-- An empty list is not written. -/
theorem list {write : α → Json} {values : List α}
    (h : ∀ a ∈ values, read none (.ofJson (write a)) = .ok a) :
    Written (Reader.list read) []
      (if values.isEmpty then none else some (.array (values.map write))) values := by
  cases values with
  | nil => exact ⟨nofun, fun _ => rfl⟩
  | cons a values =>
    refine of_read ?_
    rw [Source.ofJson, ofItems_eq_map, Reader.list, enter_none]
    change (do
      let values ← (((a :: values).map write).map Source.ofJson).mapM (read none)
      finish true
      return values) = _
    rw [mapM_eq_ok h]
    rfl

end Written

/-! ### Members put into a record -/

namespace Record

variable {σ : Type} {fields : List (RecordField σ)}

/-- Puts the members that are there into a record; those of unknown name are skipped. -/
def putSome (fields : List (RecordField σ)) :
    List (String × Option Json) → σ → Except ReadError σ
  | [], record => .ok record
  | (_, none) :: rest, record => putSome fields rest record
  | (name, some j) :: rest, record =>
    match fields.find? (·.name == name) with
    | none => putSome fields rest record
    | some field => field.put record none (.ofJson j) >>= putSome fields rest

@[simp] theorem putSome_nil (record : σ) : putSome fields [] record = .ok record := rfl

/-- With a name for each member none is met twice. -/
theorem readMembers_eq_putSome {members : List (String × Option Json)} {seen : List String}
    (hnodup : (members.map (·.1)).Nodup) (hseen : ∀ m ∈ members, m.1 ∉ seen) (record : σ) :
    readMembers fields none true
      ((members.filterMap fun m => m.2.map (m.1, ·)).map fun m => (some m.1, ofJson m.2))
      seen record = putSome fields members record := by
  induction members generalizing seen record with
  | nil => rfl
  | cons member rest ih =>
    obtain ⟨name, value⟩ := member
    obtain ⟨hname, hrest⟩ := List.nodup_cons.1 hnodup
    obtain ⟨hunseen, hother⟩ := List.forall_mem_cons.1 hseen
    cases value with
    | none => exact ih hrest hother record
    | some j =>
      have hcons : ∀ m ∈ rest, m.1 ∉ name :: seen := by
        intro m hm
        rw [List.mem_cons, not_or]
        refine ⟨fun he => hname (List.mem_map.2 ⟨m, hm, he⟩), hother m hm⟩
      change readMembers fields none true ((some name, ofJson j) :: _) seen record = _
      rw [readMembers, putSome]
      cases hfind : fields.find? (·.name == name) with
      | none =>
        rw [if_pos (isWhole_ofJson j)]
        exact ih hrest hother record
      | some field =>
        have hcontains : ¬ seen.contains name = true :=
          fun he => hunseen (List.contains_iff_mem.1 he)
        dsimp only
        rw [if_neg hcontains]
        cases hput : field.put record none (ofJson j) with
        | error e => rfl
        | ok next => exact ih hrest hcons next

/-- The names of the members that are there stand in the order of all names. -/
theorem names_sublist (members : List (String × Option Json)) :
    ((members.filterMap fun m => m.2.map (m.1, ·)).map (·.1)).Sublist (members.map (·.1)) := by
  induction members with
  | nil => exact .slnil
  | cons member rest ih =>
    obtain ⟨name, value⟩ := member
    cases value with
    | none => exact ih.cons _
    | some j => exact ih.cons_cons _

theorem nodup_of_increasing {names : List String} (h : Increasing names) : names.Nodup := by
  refine h.imp fun hlt => ?_
  rintro rfl
  exact String.lt_irrefl _ hlt

/-- An object that was written with sorted names is read member by member. -/
theorem read_ofSome {members : List (String × Option Json)}
    (sorted : Increasing (members.map (·.1))) (empty : σ) :
    read fields empty none (.ofJson (.ofSome members)) = putSome fields members empty := by
  rw [Json.ofSome, Json.ofMembers,
    sortMembers_of_increasing (sorted.sublist (names_sublist members)),
    Source.ofJson, ofMembers_eq_map, read, enter_none]
  exact readMembers_eq_putSome (nodup_of_increasing sorted) (fun _ _ => List.not_mem_nil) empty

theorem putSome_cons_of_read {name : String} {read : Reader α} {set : σ → α → σ} {value : α}
    {j : Json} (hfind : fields.find? (·.name == name) = some (.of name read set))
    (h : read none (.ofJson j) = .ok value) (rest : List (String × Option Json)) (record : σ) :
    putSome fields ((name, some j) :: rest) record = putSome fields rest (set record value) := by
  rw [putSome, hfind]
  simp only [RecordField.of, h]
  rfl

/-- A member that was written for a value puts it into the record, also where it is missing. -/
theorem putSome_cons {name : String} {read : Reader α} {set : σ → α → σ} {default value : α}
    {written : Option Json} {record : σ}
    (hfind : fields.find? (·.name == name) = some (.of name read set))
    (hdefault : set record default = record) (h : Written read default written value)
    (rest : List (String × Option Json)) :
    putSome fields ((name, written) :: rest) record = putSome fields rest (set record value) := by
  cases written with
  | none => rw [putSome, h.eq_default rfl, hdefault]
  | some j => exact putSome_cons_of_read hfind (h.read_eq j rfl) rest record

end Record

end SparkAdmission
