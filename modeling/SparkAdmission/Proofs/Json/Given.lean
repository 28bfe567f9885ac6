import Mathlib.Data.List.Pairwise
import SparkAdmission.Proofs.Json.Reader

/-!
# What is given for the fields of a record

Reading a record comes down to what is given for its fields. An object is read when it gives no
field twice, holds nothing else but named values that are whole, and what it gives can be put into
the empty record in the order in which it stands (`Record.read_object_eq_ok_iff`); an array is read
when what it gives can be put there field by field (`Record.read_array_eq_ok_iff`). Fields of
different names that are put independently of each other are put in any order alike
(`Record.putAll_perm`).
-/

namespace SparkAdmission

open Source

variable {σ : Type}

namespace RecordField

/-- The fields put two values into a record alike in either order. -/
def Commutes (f g : RecordField σ) : Prop :=
  ∀ ⦃depth s t record result⦄,
    (f.put record depth s >>= fun next => g.put next depth t) = .ok result ↔
      (g.put record depth t >>= fun next => f.put next depth s) = .ok result

theorem Commutes.symm {f g : RecordField σ} (h : Commutes f g) : Commutes g f :=
  fun _ _ _ _ _ => Iff.symm (@h _ _ _ _ _)

theorem commutes_of {α β : Type} {name other : String} {read : Reader α} {readOther : Reader β}
    {set : σ → α → σ} {setOther : σ → β → σ}
    (h : ∀ record a b, setOther (set record a) b = set (setOther record b) a) :
    Commutes (.of name read set) (.of other readOther setOther) := by
  intro depth s t record result
  simp only [of, bind_eq_ok, map_eq_ok]
  constructor
  · rintro ⟨_, ⟨a, ha, rfl⟩, b, hb, rfl⟩
    exact ⟨_, ⟨b, hb, rfl⟩, a, ha, (h record a b).symm⟩
  · rintro ⟨_, ⟨b, hb, rfl⟩, a, ha, rfl⟩
    exact ⟨_, ⟨a, ha, rfl⟩, b, hb, h record a b⟩

/-- Putting a value for the field leaves that part of the record as it is. -/
def Keeps {β : Type} (field : RecordField σ) (part : σ → β) : Prop :=
  ∀ ⦃depth s before after⦄, field.put before depth s = .ok after → part after = part before

theorem keeps_of {α β : Type} {name : String} {read : Reader α} {set : σ → α → σ} {part : σ → β}
    (h : ∀ record a, part (set record a) = part record) : Keeps (.of name read set) part := by
  intro depth s before after hput
  obtain ⟨a, -, rfl⟩ := map_eq_ok.1 hput
  exact h before a

end RecordField

namespace Record

/-! ### Putting values one after the other -/

/-- Puts what is given for the fields into the record, one after the other. -/
def putAll (depth : Levels) (given : List (RecordField σ × Source)) (record : σ) :
    Except ReadError σ :=
  given.foldlM (fun record g => g.1.put record depth g.2) record

section PutAll

variable {depth : Levels} {given others : List (RecordField σ × Source)} {record result : σ}

theorem putAll_cons_eq_ok {g : RecordField σ × Source} :
    putAll depth (g :: given) record = .ok result ↔
      ∃ next, g.1.put record depth g.2 = .ok next ∧ putAll depth given next = .ok result := by
  rw [putAll, List.foldlM_cons, bind_eq_ok]
  rfl

theorem putAll_append_eq_ok :
    putAll depth (given ++ others) record = .ok result ↔
      ∃ next, putAll depth given record = .ok next ∧ putAll depth others next = .ok result := by
  rw [putAll, List.foldlM_append, bind_eq_ok]
  rfl

/-- Each of the values has been put. -/
theorem exists_put_of_putAll (h : putAll depth given record = .ok result)
    {g : RecordField σ × Source} (hg : g ∈ given) :
    ∃ before after, g.1.put before depth g.2 = .ok after := by
  obtain ⟨front, back, rfl⟩ := List.append_of_mem hg
  obtain ⟨before, -, h⟩ := putAll_append_eq_ok.1 h
  obtain ⟨after, hput, -⟩ := putAll_cons_eq_ok.1 h
  exact ⟨before, after, hput⟩

/-- A value that is put alike may stand in for another one. -/
theorem putAll_congr {field : RecordField σ} {value other : Source}
    (hput : ∀ before after, field.put before depth value = .ok after →
      field.put before depth other = .ok after)
    (h : putAll depth (given ++ (field, value) :: others) record = .ok result) :
    putAll depth (given ++ (field, other) :: others) record = .ok result := by
  obtain ⟨before, hgiven, h⟩ := putAll_append_eq_ok.1 h
  obtain ⟨after, hvalue, hothers⟩ := putAll_cons_eq_ok.1 h
  exact putAll_append_eq_ok.2
    ⟨before, hgiven, putAll_cons_eq_ok.2 ⟨after, hput before after hvalue, hothers⟩⟩

/-- A part of the record that every field leaves as it is stays as it is. -/
theorem part_eq_of_putAll {β : Type} {part : σ → β} (hkeep : ∀ g ∈ given, g.1.Keeps part)
    (h : putAll depth given record = .ok result) : part result = part record := by
  induction given generalizing record with
  | nil =>
    cases h
    rfl
  | cons g rest ih =>
    rw [List.forall_mem_cons] at hkeep
    obtain ⟨next, hg, hrest⟩ := putAll_cons_eq_ok.1 h
    exact (ih hkeep.2 hrest).trans (hkeep.1 hg)

/-- Values that change nothing when they are put may be left out in front. -/
theorem putAll_append_of_blank
    (hblank : ∀ g ∈ given, g.1.put record depth g.2 = .ok record) :
    putAll depth (given ++ others) record = putAll depth others record := by
  induction given with
  | nil => rfl
  | cons g rest ih =>
    rw [List.forall_mem_cons] at hblank
    rw [List.cons_append, putAll, List.foldlM_cons, hblank.1]
    exact ih hblank.2

/-- Values of fields that commute are put in any order alike. -/
theorem putAll_perm (hp : given.Perm others)
    (hc : given.Pairwise fun g g' => g.1.Commutes g'.1)
    (h : putAll depth given record = .ok result) : putAll depth others record = .ok result := by
  -- two neighbours change places because they commute
  induction hp generalizing record with
  | nil => exact h
  | cons g hp ih =>
    obtain ⟨next, hg, h⟩ := putAll_cons_eq_ok.1 h
    exact putAll_cons_eq_ok.2 ⟨next, hg, ih hc.of_cons h⟩
  | swap g g' rest =>
    obtain ⟨next, hg', h⟩ := putAll_cons_eq_ok.1 h
    obtain ⟨after, hg, h⟩ := putAll_cons_eq_ok.1 h
    have hcomm : g'.1.Commutes g.1 := List.rel_of_pairwise_cons hc List.mem_cons_self
    obtain ⟨next', hg, hg'⟩ := bind_eq_ok.1 (hcomm.1 (bind_eq_ok.2 ⟨next, hg', hg⟩))
    exact putAll_cons_eq_ok.2 ⟨next', hg, putAll_cons_eq_ok.2 ⟨after, hg', h⟩⟩
  | trans hp _ ih ih' => exact ih' ((hp.pairwise_iff fun h => h.symm).1 hc) (ih hc h)

end PutAll

/-! ### What an object gives -/

/-- The field of that name. -/
def fieldOf? (fields : List (RecordField σ)) (name : Option String) : Option (RecordField σ) :=
  name.bind fun name => fields.find? (·.name == name)

/-- The values that the members give for fields. -/
def given (fields : List (RecordField σ)) (members : List (Option String × Source)) :
    List (RecordField σ × Source) :=
  members.filterMap fun member => (fieldOf? fields member.1).map (·, member.2)

/-- The members give no field twice, and what they hold besides is named and whole. -/
structure Consistent (fields : List (RecordField σ)) (members : List (Option String × Source)) :
    Prop where
  others : ∀ m ∈ members, fieldOf? fields m.1 = none → m.1.isSome = true ∧ m.2.isWhole = true
  nodup : ((given fields members).map (·.1.name)).Nodup

section Given

variable {fields : List (RecordField σ)} {members others : List (Option String × Source)}
  {name : Option String} {field : RecordField σ} {value : Source}

theorem mem_and_name_of_fieldOf? (h : fieldOf? fields name = some field) :
    field ∈ fields ∧ name = some field.name := by
  obtain ⟨text, rfl, hfind⟩ := Option.bind_eq_some_iff.1 h
  have hname : (field.name == text) = true :=
    (List.find?_eq_some_iff_append.1 hfind).1
  exact ⟨List.mem_of_find?_eq_some hfind, congrArg some (eq_of_beq hname).symm⟩

theorem fieldOf?_cons_of_ne {name : String} (h : field.name ≠ name) :
    fieldOf? (field :: fields) (some name) = fieldOf? fields (some name) := by
  simp only [fieldOf?, Option.bind_some, List.find?_cons, beq_false_of_ne h]

theorem fieldOf?_name (hnodup : (fields.map (·.name)).Nodup) (h : field ∈ fields) :
    fieldOf? fields (some field.name) = some field := by
  induction fields with
  | nil => cases h
  | cons first rest ih =>
    rw [List.map_cons, List.nodup_cons] at hnodup
    rcases List.mem_cons.1 h with rfl | h
    · simp [fieldOf?]
    · rw [fieldOf?_cons_of_ne fun he => hnodup.1 (he ▸ List.mem_map_of_mem h)]
      exact ih hnodup.2 h

theorem fieldOf?_eq_none {name : String} (h : ∀ field ∈ fields, field.name ≠ name) :
    fieldOf? fields (some name) = none :=
  List.find?_eq_none.2 fun field hf => by simpa using h field hf

theorem given_cons_of_none (h : fieldOf? fields name = none) :
    given fields ((name, value) :: members) = given fields members :=
  List.filterMap_cons_none (by rw [h, Option.map_none])

theorem given_cons_of_some (h : fieldOf? fields name = some field) :
    given fields ((name, value) :: members) = (field, value) :: given fields members :=
  List.filterMap_cons_some (by rw [h, Option.map_some])

theorem of_mem_given (h : (field, value) ∈ given fields members) :
    field ∈ fields ∧ (some field.name, value) ∈ members := by
  obtain ⟨⟨name, s⟩, hm, h⟩ := List.mem_filterMap.1 h
  obtain ⟨found, hfound, h⟩ := Option.map_eq_some_iff.1 h
  cases h
  obtain ⟨hf, rfl⟩ := mem_and_name_of_fieldOf? hfound
  exact ⟨hf, hm⟩

theorem consistent_cons_of_none (h : fieldOf? fields name = none) :
    Consistent fields ((name, value) :: members) ↔
      (name.isSome = true ∧ value.isWhole = true) ∧ Consistent fields members := by
  constructor
  · rintro ⟨hothers, hnodup⟩
    rw [List.forall_mem_cons] at hothers
    rw [given_cons_of_none h] at hnodup
    exact ⟨hothers.1 h, hothers.2, hnodup⟩
  · rintro ⟨hvalue, hothers, hnodup⟩
    exact ⟨List.forall_mem_cons.2 ⟨fun _ => hvalue, hothers⟩, by rwa [given_cons_of_none h]⟩

theorem consistent_cons_of_some (h : fieldOf? fields name = some field) :
    Consistent fields ((name, value) :: members) ↔
      (∀ g ∈ given fields members, g.1.name ≠ field.name) ∧ Consistent fields members := by
  have hnodup : ((given fields ((name, value) :: members)).map (·.1.name)).Nodup ↔
      (∀ g ∈ given fields members, g.1.name ≠ field.name) ∧
        ((given fields members).map (·.1.name)).Nodup := by
    rw [given_cons_of_some h, List.map_cons, List.nodup_cons, List.mem_map, not_exists]
    simp only [not_and, ne_eq]
  constructor
  · rintro ⟨hothers, hgiven⟩
    exact ⟨(hnodup.1 hgiven).1, (List.forall_mem_cons.1 hothers).2, (hnodup.1 hgiven).2⟩
  · rintro ⟨hne, hothers, hgiven⟩
    refine ⟨List.forall_mem_cons.2 ⟨fun hnone => ?_, hothers⟩, hnodup.2 ⟨hne, hgiven⟩⟩
    rw [h] at hnone
    cases hnone

theorem given_perm (hp : members.Perm others) :
    (given fields members).Perm (given fields others) := hp.filterMap _

theorem Consistent.perm (hp : members.Perm others) (h : Consistent fields members) :
    Consistent fields others :=
  ⟨fun m hm => h.others m (hp.mem_iff.2 hm), ((given_perm hp).map _).nodup_iff.1 h.nodup⟩

section Members

variable {depth : Levels} {closed : Bool} {seen : List String} {record result : σ}

theorem readMembers_cons_of_none {name : String} (h : fieldOf? fields (some name) = none) :
    readMembers fields depth closed ((some name, value) :: members) seen record =
      if value.isWhole then readMembers fields depth closed members seen record
      else .error .malformed := by
  rw [readMembers, show fields.find? (·.name == name) = none from h]

theorem readMembers_cons_of_some {name : String} (h : fieldOf? fields (some name) = some field) :
    readMembers fields depth closed ((some name, value) :: members) seen record =
      if seen.contains name then .error .misfit
      else field.put record depth value >>=
        readMembers fields depth closed members (name :: seen) := by
  rw [readMembers, show fields.find? (·.name == name) = some field from h]

/-- The members of an object are read when they are consistent and what they give can be put. -/
theorem readMembers_eq_ok_iff :
    readMembers fields depth closed members seen record = .ok result ↔
      closed = true ∧ Consistent fields members ∧
        (∀ g ∈ given fields members, g.1.name ∉ seen) ∧
        putAll depth (given fields members) record = .ok result := by
  induction members generalizing seen record with
  | nil =>
    rw [readMembers, bind_eq_ok]
    constructor
    · rintro ⟨u, hclosed, h⟩
      exact ⟨finish_eq_ok.1 hclosed, ⟨List.forall_mem_nil _, List.nodup_nil⟩,
        List.forall_mem_nil _, h⟩
    · rintro ⟨hclosed, -, -, h⟩
      exact ⟨(), finish_eq_ok.2 hclosed, h⟩
  | cons member rest ih =>
    obtain ⟨_ | name, value⟩ := member
    · -- a member without a name is malformed
      rw [consistent_cons_of_none rfl]
      constructor
      · intro h
        cases h
      · rintro ⟨-, ⟨⟨hnamed, -⟩, -⟩, -⟩
        cases hnamed
    · cases hfind : fieldOf? fields (some name) with
      | none =>
        rw [readMembers_cons_of_none hfind, consistent_cons_of_none hfind,
          given_cons_of_none hfind]
        by_cases hwhole : value.isWhole = true
        · rw [if_pos hwhole, ih]
          constructor
          · rintro ⟨hclosed, hrest, h⟩
            exact ⟨hclosed, ⟨⟨rfl, hwhole⟩, hrest⟩, h⟩
          · rintro ⟨hclosed, ⟨-, hrest⟩, h⟩
            exact ⟨hclosed, hrest, h⟩
        · rw [if_neg hwhole]
          constructor
          · intro h
            cases h
          · exact fun h => absurd h.2.1.1.2 hwhole
      | some field =>
        have hname : field.name = name :=
          (Option.some.inj (mem_and_name_of_fieldOf? hfind).2).symm
        rw [readMembers_cons_of_some hfind, consistent_cons_of_some hfind,
          given_cons_of_some hfind, List.forall_mem_cons, putAll_cons_eq_ok, hname]
        by_cases hseen : name ∈ seen
        · rw [if_pos (List.contains_iff_mem.2 hseen)]
          constructor
          · intro h
            cases h
          · exact fun h => absurd hseen h.2.2.1.1
        · rw [if_neg (mt List.contains_iff_mem.1 hseen), bind_eq_ok]
          simp only [ih, List.mem_cons, not_or]
          constructor
          · rintro ⟨next, hput, hclosed, hrest, hnew, h⟩
            exact ⟨hclosed, ⟨fun g hg => (hnew g hg).1, hrest⟩,
              ⟨hseen, fun g hg => (hnew g hg).2⟩, next, hput, h⟩
          · rintro ⟨hclosed, ⟨hne, hrest⟩, ⟨-, hnew⟩, next, hput, h⟩
            exact ⟨next, hput, hclosed, hrest, fun g hg => ⟨hne g hg, hnew g hg⟩, h⟩

end Members

/-- A field is given by no member when no member has its name. -/
theorem forall_given_ne_iff (h : fieldOf? fields (some field.name) = some field) :
    (∀ g ∈ given fields members, g.1.name ≠ field.name) ↔
      some field.name ∉ members.map (·.1) := by
  constructor
  · intro hne hm
    obtain ⟨⟨name, s⟩, hm, rfl⟩ := List.mem_map.1 hm
    refine hne (field, s) (List.mem_filterMap.2 ⟨_, hm, ?_⟩) rfl
    rw [h, Option.map_some]
  · intro hm g hg he
    exact hm (List.mem_map.2 ⟨_, (of_mem_given hg).2, congrArg some he⟩)

section Read

variable {empty result : σ} {depth inside : Levels} {closed : Bool}

/-- An object is read when its members are consistent and what they give can be put. -/
theorem read_object_eq_ok_iff (henter : enter depth = .ok inside) :
    read fields empty depth (.object members closed) = .ok result ↔
      closed = true ∧ Consistent fields members ∧
        putAll inside (given fields members) empty = .ok result := by
  have hread : read fields empty depth (.object members closed) =
      readMembers fields inside closed members [] empty := by
    rw [read, henter]
    rfl
  rw [hread, readMembers_eq_ok_iff]
  simp only [List.not_mem_nil, not_false_eq_true, implies_true, true_and]

/-- A member that is no field may be there, if it is whole. -/
theorem read_cons_of_none (henter : enter depth = .ok inside) {name : String}
    (h : fieldOf? fields (some name) = none) :
    read fields empty depth (.object ((some name, value) :: members) closed) = .ok result ↔
      value.isWhole = true ∧ read fields empty depth (.object members closed) = .ok result := by
  rw [read_object_eq_ok_iff henter, read_object_eq_ok_iff henter, consistent_cons_of_none h,
    given_cons_of_none h]
  constructor
  · rintro ⟨hclosed, ⟨⟨-, hwhole⟩, hm⟩, hput⟩
    exact ⟨hwhole, hclosed, hm, hput⟩
  · rintro ⟨hwhole, hclosed, hm, hput⟩
    exact ⟨hclosed, ⟨⟨rfl, hwhole⟩, hm⟩, hput⟩

/-- A value that leaves the empty record as it is may be given for an absent field. -/
theorem read_cons_of_blank (henter : enter depth = .ok inside)
    (h : fieldOf? fields (some field.name) = some field)
    (hblank : field.put empty inside value = .ok empty) :
    read fields empty depth (.object ((some field.name, value) :: members) closed) = .ok result ↔
      some field.name ∉ members.map (·.1) ∧
        read fields empty depth (.object members closed) = .ok result := by
  rw [read_object_eq_ok_iff henter, read_object_eq_ok_iff henter, consistent_cons_of_some h,
    given_cons_of_some h, forall_given_ne_iff h]
  constructor
  · rintro ⟨hclosed, ⟨habsent, hm⟩, hput⟩
    obtain ⟨next, hvalue, hput⟩ := putAll_cons_eq_ok.1 hput
    rw [hblank] at hvalue
    cases hvalue
    exact ⟨habsent, hclosed, hm, hput⟩
  · rintro ⟨habsent, hclosed, hm, hput⟩
    exact ⟨hclosed, ⟨habsent, hm⟩, putAll_cons_eq_ok.2 ⟨empty, hblank, hput⟩⟩

/-- A value that is put alike may stand in for that of a member. -/
theorem read_cons_congr (henter : enter depth = .ok inside) (h : fieldOf? fields name = some field)
    {other : Source}
    (hput : ∀ before after, field.put before inside value = .ok after →
      field.put before inside other = .ok after)
    (hread : read fields empty depth (.object ((name, value) :: members) closed) = .ok result) :
    read fields empty depth (.object ((name, other) :: members) closed) = .ok result := by
  rw [read_object_eq_ok_iff henter, consistent_cons_of_some h, given_cons_of_some h] at hread ⊢
  obtain ⟨hclosed, hm, hall⟩ := hread
  obtain ⟨next, hvalue, hrest⟩ := putAll_cons_eq_ok.1 hall
  exact ⟨hclosed, hm, putAll_cons_eq_ok.2 ⟨next, hput _ _ hvalue, hrest⟩⟩

/-- A part of the record that only one field changes stays as it is when the field is absent. -/
theorem part_eq_of_read {β : Type} {part : σ → β} {name : String}
    (hkeep : ∀ field ∈ fields, field.name ≠ name → field.Keeps part)
    (habsent : some name ∉ members.map (·.1)) (henter : enter depth = .ok inside)
    (hread : read fields empty depth (.object members closed) = .ok result) :
    part result = part empty := by
  obtain ⟨-, -, hput⟩ := (read_object_eq_ok_iff henter).1 hread
  refine part_eq_of_putAll (fun g hg => ?_) hput
  obtain ⟨hf, hm⟩ := of_mem_given hg
  refine hkeep g.1 hf fun hname => habsent ?_
  exact hname ▸ List.mem_map_of_mem (f := (·.1)) hm

end Read

end Given

/-! ### What an array gives -/

section Items

variable {fields : List (RecordField σ)} {depth : Levels} {closed : Bool}

/-- The items of an array are read when there are none too many and they can be put. -/
theorem readItems_eq_ok_iff (hfields : ∀ field ∈ fields, field.inArrays = false)
    {items : List Source} {record result : σ} :
    readItems depth closed fields items record = .ok result ↔
      closed = true ∧ items.length ≤ fields.length ∧
        putAll depth (fields.zip items) record = .ok result := by
  induction items generalizing fields record with
  | nil =>
    have hany : fields.any (·.inArrays) = false :=
      List.any_eq_false.2 fun field hf => by simp [hfields field hf]
    cases closed with
    | false => simp [readItems, finish, bind, Except.bind]
    | true => simp [readItems, finish, hany, putAll, bind, Except.bind, pure, Except.pure]
  | cons s rest ih =>
    cases fields with
    | nil =>
      constructor
      · intro h
        cases h
      · rintro ⟨-, hlength, -⟩
        cases hlength
    | cons field fields =>
      rw [List.forall_mem_cons] at hfields
      rw [readItems, bind_eq_ok, List.zip_cons_cons, putAll_cons_eq_ok, List.length_cons,
        List.length_cons, Nat.add_le_add_iff_right]
      simp only [ih hfields.2]
      constructor
      · rintro ⟨next, hput, hclosed, hlength, h⟩
        exact ⟨hclosed, hlength, next, hput, h⟩
      · rintro ⟨hclosed, hlength, next, hput, h⟩
        exact ⟨next, hput, hclosed, hlength, h⟩

/-- An array is read when its items are none too many and can be put. -/
theorem read_array_eq_ok_iff {inside : Levels} (henter : enter depth = .ok inside)
    (hfields : ∀ field ∈ fields, field.inArrays = false) {items : List Source} {empty result : σ} :
    read fields empty depth (.array items closed) = .ok result ↔
      closed = true ∧ items.length ≤ fields.length ∧
        putAll inside (fields.zip items) empty = .ok result := by
  have hread : read fields empty depth (.array items closed) =
      readItems inside closed fields items empty := by
    rw [read, henter]
    rfl
  rw [hread, readItems_eq_ok_iff hfields]

/-- What is read has been entered. -/
theorem exists_enter_of_read {s : Source} {empty result : σ}
    (h : read fields empty depth s = .ok result) : ∃ inside, enter depth = .ok inside := by
  cases s with
  | object members closed =>
    obtain ⟨inside, henter, -⟩ := bind_eq_ok.1 h
    exact ⟨inside, henter⟩
  | array items closed =>
    obtain ⟨inside, henter, -⟩ := bind_eq_ok.1 h
    exact ⟨inside, henter⟩
  | _ => cases h

/-- What an array gives besides one item does not depend on that item. -/
theorem exists_zip_eq {before : List Source} {field : RecordField σ}
    (h : fields[before.length]? = some field) (after : List Source) :
    ∃ front back, ∀ value,
      fields.zip (before ++ value :: after) = front ++ (field, value) :: back := by
  obtain ⟨hlt, hfield⟩ := List.getElem?_eq_some_iff.1 h
  have hsplit : fields =
      fields.take before.length ++ field :: fields.drop (before.length + 1) := by
    rw [← hfield, ← List.drop_eq_getElem_cons hlt, List.take_append_drop]
  have hlength : (fields.take before.length).length = before.length :=
    List.length_take_of_le (Nat.le_of_lt hlt)
  refine ⟨(fields.take before.length).zip before, (fields.drop (before.length + 1)).zip after,
    fun value => ?_⟩
  rw [← List.zip_cons_cons, ← List.zip_append hlength, ← hsplit]

end Items

/-! ### Fields that are independent of each other -/

/-- The fields have different names and are put independently of each other. -/
structure Independent (fields : List (RecordField σ)) : Prop where
  nodup : (fields.map (·.name)).Nodup
  commuting : fields.Pairwise RecordField.Commutes

namespace Independent

variable {fields : List (RecordField σ)}

/-- What the members of an object give may be put in any order. -/
theorem commutes_given (h : Independent fields) {members : List (Option String × Source)}
    (hm : Consistent fields members) :
    (given fields members).Pairwise fun g g' => g.1.Commutes g'.1 := by
  have hdistinct : (given fields members).Pairwise fun g g' => g.1.name ≠ g'.1.name :=
    List.pairwise_map.1 hm.nodup
  refine hdistinct.imp_of_mem fun {g g'} hg hg' hne => ?_
  have : Std.Symm (RecordField.Commutes (σ := σ)) := ⟨fun _ _ hc => hc.symm⟩
  exact h.commuting.forall (of_mem_given hg).1 (of_mem_given hg').1 fun he =>
    hne (congrArg RecordField.name he)

/-- What the items of an array give may be put in any order. -/
theorem commutes_zip (h : Independent fields) (items : List Source) :
    (fields.zip items).Pairwise fun g g' => g.1.Commutes g'.1 := by
  have hfst : ((fields.zip items).map Prod.fst).Pairwise RecordField.Commutes := by
    rw [List.zip_eq_zip_take_min, List.map_fst_zip (by simp)]
    exact h.commuting.sublist (List.take_sublist _ _)
  exact List.pairwise_map.1 hfst

section Read

variable {members others : List (Option String × Source)} {empty result : σ}
  {depth inside : Levels} {closed : Bool}

/-- The members of an object may stand in any order. -/
theorem read_perm (h : Independent fields) (henter : enter depth = .ok inside)
    (hp : members.Perm others)
    (hread : read fields empty depth (.object members closed) = .ok result) :
    read fields empty depth (.object others closed) = .ok result := by
  obtain ⟨hclosed, hm, hput⟩ := (read_object_eq_ok_iff henter).1 hread
  exact (read_object_eq_ok_iff henter).2
    ⟨hclosed, hm.perm hp, putAll_perm (given_perm hp) (h.commutes_given hm) hput⟩

/-- A member in the middle may as well stand in front. -/
theorem read_middle_iff (h : Independent fields) (henter : enter depth = .ok inside)
    {member : Option String × Source} :
    read fields empty depth (.object (members ++ member :: others) closed) = .ok result ↔
      read fields empty depth (.object (member :: (members ++ others)) closed) = .ok result :=
  ⟨h.read_perm henter List.perm_middle, h.read_perm henter List.perm_middle.symm⟩

end Read

end Independent

end Record

end SparkAdmission
