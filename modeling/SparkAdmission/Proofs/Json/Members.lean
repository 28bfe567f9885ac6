import SparkAdmission.Json.Source

/-!
# Members sorted by name

What `insertMember` does to the members of an object: it sets one name and leaves the others, and
two insertions under different names can change places. Members that are sorted already stay as
they are when they are sorted, and are determined by what stands under each name.
-/

namespace SparkAdmission.Json

/-! ### Looking up -/

theorem lookup_cons_eq {α : Type} (key name : String) (value : α) (rest : List (String × α)) :
    ((name, value) :: rest).lookup key = if key = name then some value else rest.lookup key := by
  rw [List.lookup_cons]
  by_cases h : key = name
  · rw [if_pos h, beq_iff_eq.2 h]
  · rw [if_neg h, beq_eq_false_iff_ne.2 h]

@[simp] theorem lookup_insertMember (key name : String) (value : Json)
    (members : List (String × Json)) :
    (insertMember name value members).lookup key =
      if key = name then some value else members.lookup key := by
  induction members with
  | nil => rw [insertMember, lookup_cons_eq]
  | cons head rest ih =>
    obtain ⟨n, v⟩ := head
    rw [insertMember]
    split
    · rw [lookup_cons_eq]
    · split
      · rename_i hn
        subst hn
        simp only [lookup_cons_eq]
        split <;> rfl
      · rename_i hn
        simp only [lookup_cons_eq, ih]
        by_cases hk : key = n
        · rw [if_pos hk, if_pos hk, if_neg]
          rintro rfl
          exact hn hk
        · rw [if_neg hk, if_neg hk]

theorem mem_of_lookup {members : List (String × Json)} {name : String} {value : Json}
    (h : members.lookup name = some value) : (name, value) ∈ members := by
  obtain ⟨front, back, rfl, -⟩ := List.lookup_eq_some_iff.1 h
  simp

theorem lookup_of_mem {members : List (String × Json)} {name : String} {value : Json}
    (sorted : Increasing (members.map (·.1))) (h : (name, value) ∈ members) :
    members.lookup name = some value := by
  induction members with
  | nil => cases h
  | cons head rest ih =>
    obtain ⟨n, v⟩ := head
    simp only [Increasing, List.map_cons, List.pairwise_cons] at sorted
    rw [lookup_cons_eq]
    rcases List.mem_cons.1 h with he | hm
    · cases he
      rw [if_pos rfl]
    · have hlt : n < name := sorted.1 name (List.mem_map_of_mem hm)
      rw [if_neg (fun he : name = n => String.lt_irrefl n (he ▸ hlt)), ih sorted.2 hm]

theorem lookup_eq_none_of_forall_lt {members : List (String × Json)} {name : String}
    (h : ∀ n ∈ members.map (·.1), name < n) : members.lookup name = none := by
  rw [List.lookup_eq_none_iff]
  intro m hm
  rw [bne_iff_ne]
  rintro rfl
  exact String.lt_irrefl _ (h m.1 (List.mem_map_of_mem hm))

/-- Sorted members are determined by what stands under each name. -/
theorem eq_of_lookup_eq {first second : List (String × Json)}
    (sorted : Increasing (first.map (·.1))) (sorted' : Increasing (second.map (·.1)))
    (h : ∀ name, first.lookup name = second.lookup name) : first = second := by
  induction first generalizing second with
  | nil =>
    cases second with
    | nil => rfl
    | cons head rest =>
      obtain ⟨m, w⟩ := head
      simpa [lookup_cons_eq] using h m
  | cons head rest ih =>
    obtain ⟨n, v⟩ := head
    cases second with
    | nil => simpa using h n
    | cons head' rest' =>
      obtain ⟨m, w⟩ := head'
      simp only [Increasing, List.map_cons, List.pairwise_cons] at sorted sorted'
      -- neither of the first names can be smaller than the other one
      have hn : ((m, w) :: rest').lookup n = some v := by rw [← h n, List.lookup_cons_self]
      have hm : ((n, v) :: rest).lookup m = some w := by rw [h m, List.lookup_cons_self]
      have hnm : n = m := by
        rcases List.mem_cons.1 (mem_of_lookup hn) with he | hm'
        · exact congrArg Prod.fst he
        · have hmn : m < n := sorted'.1 n (List.mem_map_of_mem hm')
          rcases List.mem_cons.1 (mem_of_lookup hm) with he | hn'
          · exact (congrArg Prod.fst he).symm
          · exact absurd (sorted.1 m (List.mem_map_of_mem hn')) (String.lt_asymm hmn)
      subst hnm
      have hvw : w = v := Option.some.inj ((List.lookup_cons_self).symm.trans hn)
      subst hvw
      rw [ih sorted.2 sorted'.2]
      intro name
      have hname := h name
      rw [lookup_cons_eq, lookup_cons_eq] at hname
      by_cases he : name = n
      · rw [he, lookup_eq_none_of_forall_lt sorted.1, lookup_eq_none_of_forall_lt sorted'.1]
      · rwa [if_neg he, if_neg he] at hname

/-! ### Inserting -/

theorem insertMember_insertMember_self (name : String) (value old : Json)
    (members : List (String × Json)) :
    insertMember name value (insertMember name old members) = insertMember name value members := by
  induction members with
  | nil => simp [insertMember]
  | cons head rest ih => grind [insertMember]

theorem insertMember_comm {name other : String} (h : name ≠ other) (value otherValue : Json)
    (members : List (String × Json)) :
    insertMember name value (insertMember other otherValue members) =
      insertMember other otherValue (insertMember name value members) := by
  induction members with
  | nil => grind [insertMember]
  | cons head rest ih => grind [insertMember]

theorem insertMember_of_forall_gt {members : List (String × Json)} {name : String}
    (h : ∀ n ∈ members.map (·.1), n < name) (value : Json) :
    insertMember name value members = members ++ [(name, value)] := by
  induction members with
  | nil => rfl
  | cons head rest ih =>
    have hlt : head.1 < name := h head.1 (by simp)
    rw [insertMember, if_neg (String.lt_asymm hlt), if_neg, ih fun n hn => h n (by simp_all)]
    · rfl
    · rintro rfl
      exact String.lt_irrefl _ hlt

/-- Changing all values goes along with an insertion. -/
theorem map_insertMember (f : Json → Json) (name : String) (value : Json)
    (members : List (String × Json)) :
    (insertMember name value members).map (fun m => (m.1, f m.2)) =
      insertMember name (f value) (members.map fun m => (m.1, f m.2)) := by
  induction members with
  | nil => rfl
  | cons head rest ih =>
    simp only [insertMember, List.map_cons]
    split
    · rfl
    · split
      · rfl
      · rw [List.map_cons, ih]

/-! ### Sorting -/

/-- Sorting members that are sorted changes nothing. -/
theorem sortMembers_of_increasing {members : List (String × Json)}
    (sorted : Increasing (members.map (·.1))) : sortMembers members = members := by
  -- the members read so far are the front, and the next one comes behind all of them
  suffices ∀ front : List (String × Json), Increasing ((front ++ members).map (·.1)) →
      members.foldl (fun acc m => insertMember m.1 m.2 acc) front = front ++ members
    from this [] sorted
  clear sorted
  induction members with
  | nil => simp
  | cons head rest ih =>
    obtain ⟨n, v⟩ := head
    intro front sorted
    have hlt : ∀ m ∈ front.map (·.1), m < n := by
      intro m hm
      rw [List.map_append] at sorted
      exact (List.pairwise_append.1 sorted).2.2 m hm n (by simp)
    rw [List.foldl_cons]
    simp only [insertMember_of_forall_gt hlt]
    rw [ih _ (by simpa using sorted), List.append_assoc]
    rfl

theorem sortMembers_append_singleton (members : List (String × Json)) (name : String)
    (value : Json) :
    sortMembers (members ++ [(name, value)]) = insertMember name value (sortMembers members) := by
  rw [sortMembers, List.foldl_append]
  rfl

/-- Changing all values goes along with sorting. -/
theorem map_sortMembers (f : Json → Json) (members : List (String × Json)) :
    (sortMembers members).map (fun m => (m.1, f m.2)) =
      sortMembers (members.map fun m => (m.1, f m.2)) := by
  suffices ∀ acc : List (String × Json),
      (members.foldl (fun acc m => insertMember m.1 m.2 acc) acc).map (fun m => (m.1, f m.2)) =
        (members.map fun m => (m.1, f m.2)).foldl (fun acc m => insertMember m.1 m.2 acc)
          (acc.map fun m => (m.1, f m.2))
    from this []
  induction members with
  | nil => exact fun _ => rfl
  | cons head rest ih =>
    intro acc
    rw [List.foldl_cons, ih, map_insertMember]
    rfl

end SparkAdmission.Json
