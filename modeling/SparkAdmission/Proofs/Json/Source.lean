import SparkAdmission.Proofs.Json.Members

/-!
# Values and the trees of their texts

The tree of a value is whole, and a value in canonical form is the value of its tree. The tree of
a text and the value of that tree say the same of every name: what a reader is given under a name
by the one, it is given by the other (`given?_sortMembers`).
-/

namespace SparkAdmission

namespace Json

/-- Whether the value is `null`. -/
def isNull : Json → Bool
  | .null => true
  | _ => false

@[simp] theorem isNull_iff {j : Json} : j.isNull = true ↔ j = .null := by
  cases j <;> simp [isNull]

/-- The member of that name, unless it is `null`. -/
def given? (name : String) (members : List (String × Json)) : Option Json :=
  (members.lookup name).filter fun j => !j.isNull

theorem given?_eq_some_iff {name : String} {members : List (String × Json)} {j : Json} :
    given? name members = some j ↔ members.lookup name = some j ∧ j ≠ .null := by
  rw [given?, Option.filter_eq_some_iff, Bool.not_eq_true', ← Bool.not_eq_true, isNull_iff]

theorem given?_insertMember_self {value : Json} (h : value ≠ .null) (name : String)
    (members : List (String × Json)) :
    given? name (insertMember name value members) = some value := by
  rw [given?_eq_some_iff, lookup_insertMember, if_pos rfl]
  exact ⟨rfl, h⟩

theorem given?_insertMember_of_ne {name other : String} (h : other ≠ name) (value : Json)
    (members : List (String × Json)) :
    given? other (insertMember name value members) = given? other members := by
  rw [given?, lookup_insertMember, if_neg h, given?]

end Json

namespace Source

open Json

@[simp] theorem isNull_ofJson (j : Json) : (ofJson j).isNull = j.isNull := by
  cases j <;> rfl

theorem isNull_toJson (s : Source) : s.toJson.isNull = s.isNull := by
  cases s with
  | number n => cases n <;> rfl
  | string s => cases s <;> rfl
  | _ => rfl

mutual

/-- The tree of a value is JSON throughout. -/
theorem isWhole_ofJson : (j : Json) → (ofJson j).isWhole = true
  | .null | .bool _ | .number _ | .string _ => rfl
  | .array items => by simpa [ofJson, isWhole] using itemsWhole_ofItems items
  | .object members => by simpa [ofJson, isWhole] using membersWhole_ofMembers members

theorem itemsWhole_ofItems : (items : List Json) → itemsWhole (items.map ofJson) = true
  | [] => rfl
  | j :: rest => by
    rw [List.map_cons, itemsWhole, isWhole_ofJson j, itemsWhole_ofItems rest]
    rfl

theorem membersWhole_ofMembers : (members : List (String × Json)) →
    membersWhole (members.map fun m => (some m.1, ofJson m.2)) = true
  | [] => rfl
  | (name, j) :: rest => by
    rw [List.map_cons, membersWhole, isWhole_ofJson j, membersWhole_ofMembers rest]
    rfl

end

theorem itemsToJson_eq_map (items : List Source) : itemsToJson items = items.map toJson := by
  induction items with
  | nil => rfl
  | cons s rest ih => rw [itemsToJson, ih, List.map_cons]

theorem membersToJson_ofMembers (members : List (String × Json)) :
    membersToJson (members.map fun m => (some m.1, ofJson m.2)) =
      members.map fun m => (m.1, (ofJson m.2).toJson) := by
  induction members with
  | nil => rfl
  | cons m rest ih => rw [List.map_cons, membersToJson, ih, List.map_cons]

/-- A value in canonical form is the value of its tree. -/
theorem toJson_ofJson {j : Json} (h : j.Canonical) : (ofJson j).toJson = j := by
  induction h with
  | null | bool | number | string => rfl
  | @array items each ih =>
    rw [ofJson, ofItems_eq_map, toJson, itemsToJson_eq_map, List.map_map]
    congr 1
    exact (List.map_congr_left fun j hj => ih j hj).trans (List.map_id items)
  | @object members sorted each ih =>
    rw [ofJson, ofMembers_eq_map, toJson, membersToJson_ofMembers, Json.ofMembers]
    have hmap : members.map (fun m => (m.1, (ofJson m.2).toJson)) = members :=
      (List.map_congr_left fun m hm => by rw [ih m hm, id]).trans (List.map_id members)
    rw [hmap, sortMembers_of_increasing sorted]

/-! ### What is given under a name -/

theorem lastMember?_append_singleton (name : String) (members : List (Option String × Source))
    (m : Option String × Source) :
    lastMember? name (members ++ [m]) =
      if m.1 = some name then some m.2 else lastMember? name members := by
  rw [lastMember?, List.reverse_append, List.reverse_singleton, List.singleton_append,
    List.find?_cons]
  by_cases h : m.1 = some name
  · rw [if_pos h, beq_iff_eq.2 h]
    rfl
  · rw [if_neg h, beq_eq_false_iff_ne.2 h, lastMember?]

theorem membersToJson_append (first second : List (Option String × Source)) :
    membersToJson (first ++ second) = membersToJson first ++ membersToJson second := by
  induction first with
  | nil => rfl
  | cons m rest ih =>
    obtain ⟨name | name, s⟩ := m <;> simp [membersToJson, ih]

/-- The last member of a name stands under it when the members are sorted. -/
theorem lookup_sortMembers_membersToJson (name : String)
    (members : List (Option String × Source)) :
    (sortMembers (membersToJson members)).lookup name = (lastMember? name members).map toJson := by
  -- the induction takes members off the end, as the last one counts
  obtain ⟨reversed, rfl⟩ : ∃ reversed, members = List.reverse reversed :=
    ⟨_, (List.reverse_reverse members).symm⟩
  induction reversed with
  | nil => rfl
  | cons m rest ih =>
    obtain ⟨key, s⟩ := m
    rw [List.reverse_cons, membersToJson_append, lastMember?_append_singleton]
    cases key with
    | none => simpa [membersToJson] using ih
    | some key =>
      change (sortMembers (membersToJson rest.reverse ++ [(key, s.toJson)])).lookup name = _
      rw [sortMembers_append_singleton, lookup_insertMember, ih]
      by_cases h : name = key
      · subst h
        simp
      · have hne : ¬ some key = some name := fun he => h (Option.some.inj he).symm
        rw [if_neg h, if_neg hne]

theorem lastMember?_ofMembers {members : List (String × Json)}
    (sorted : Increasing (members.map (·.1))) (name : String) :
    lastMember? name (members.map fun m => (some m.1, ofJson m.2)) =
      (members.lookup name).map ofJson := by
  obtain ⟨reversed, rfl⟩ : ∃ reversed, members = List.reverse reversed :=
    ⟨_, (List.reverse_reverse members).symm⟩
  induction reversed with
  | nil => rfl
  | cons m rest ih =>
    obtain ⟨key, j⟩ := m
    simp only [List.reverse_cons, List.map_append, Increasing] at sorted
    rw [List.reverse_cons, List.map_append, List.map_singleton, lastMember?_append_singleton,
      ih (List.pairwise_append.1 sorted).1, List.lookup_append, lookup_cons_eq]
    by_cases h : name = key
    · subst h
      -- the last name is greater than all names in front of it
      have habsent : rest.reverse.lookup name = none := by
        rw [List.lookup_eq_none_iff]
        intro m hm
        have hlt : m.1 < name :=
          (List.pairwise_append.1 sorted).2.2 m.1 (List.mem_map_of_mem hm) name (by simp)
        rw [bne_iff_ne]
        rintro rfl
        exact String.lt_irrefl _ hlt
      rw [if_pos rfl, if_pos rfl, habsent]
      rfl
    · have hne : ¬ some key = some name := fun he => h (Option.some.inj he).symm
      rw [if_neg h, if_neg hne, List.lookup_nil, Option.or_none]

/-- What the tree of a value gives under a name is what the value gives. -/
theorem given?_ofMembers {members : List (String × Json)}
    (sorted : Increasing (members.map (·.1))) (name : String) :
    given? name (members.map fun m => (some m.1, ofJson m.2)) =
      (Json.given? name members).map ofJson := by
  rw [given?, lastMember?_ofMembers sorted, Json.given?]
  cases members.lookup name with
  | none => rfl
  | some j => by_cases h : j.isNull <;> simp [Option.filter, h]

/-- What a tree gives under a name is what its value gives. -/
theorem given?_sortMembers (name : String) (members : List (Option String × Source)) :
    Json.given? name (sortMembers (membersToJson members)) =
      (given? name members).map toJson := by
  rw [Json.given?, lookup_sortMembers_membersToJson, given?]
  cases lastMember? name members with
  | none => rfl
  | some s => by_cases h : s.isNull <;> simp [Option.filter, isNull_toJson, h]

end Source

end SparkAdmission
