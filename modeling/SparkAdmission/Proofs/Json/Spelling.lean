import Mathlib.Data.List.Forall2
import Mathlib.Logic.Relation
import SparkAdmission.Proofs.Json.Given

/-!
# Spellings of a record

One record has many spellings: members in any order, unknown members, fields that are absent or
hold what stands for an absent field, and an array of the values in place of an object.
`Record.Respelled` lists the steps from one spelling to another, `Record.Spoiled` steps to what is
no spelling of any record; both go into the values of the fields. A record whose fields are put
independently of each other is read alike from all its spellings, and from nothing that is spoiled
(`Record.Spelled.spells_read`).
-/

namespace SparkAdmission

open Source

/-! ### Steps between spellings -/

/-- How a field of a record may be spelled. -/
structure FieldSpelling where
  name : String
  /-- What may stand for the field when it is absent. -/
  blank : Option Source
  /-- The steps from a value to another spelling of it. -/
  respelled : Source → Source → Prop
  /-- The steps from a value to something that is no value of the field. -/
  spoiled : Source → Source → Prop

/-- A step inside one item of an array. -/
inductive InItem (step : Source → Source → Prop) : Source → Source → Prop
  | mk {before after : List Source} {source other : Source} {closed : Bool}
      (h : step source other) :
      InItem step (.array (before ++ source :: after) closed)
        (.array (before ++ other :: after) closed)

/-- A step, or the step to `null`. -/
def OrNull (step : Source → Source → Prop) (source other : Source) : Prop :=
  other = .null ∨ step source other

/-- No step. -/
def NoStep (_ _ : Source) : Prop := False

namespace FieldSpelling

/-- A field that has to be there. -/
def required (name : String) : FieldSpelling := ⟨name, none, NoStep, NoStep⟩

/-- A field that may be `null`. -/
def optional (name : String) : FieldSpelling := ⟨name, some .null, NoStep, NoStep⟩

/-- A list, empty when it is absent, which must not be `null`. -/
def list (name : String) (respelled spoiled : Source → Source → Prop) : FieldSpelling :=
  ⟨name, some (.array [] true), InItem respelled, OrNull (InItem spoiled)⟩

/-- A record, empty when it is absent, which must not be `null`. -/
def record (name : String) (respelled spoiled : Source → Source → Prop) : FieldSpelling :=
  ⟨name, some (.object [] true), respelled, OrNull spoiled⟩

end FieldSpelling

namespace Record

/-- The items are the values of the fields in their order. What may stand for an absent field does
so in front of a given one; the fields behind the last item are absent. -/
inductive Values (members : List (Option String × Source)) : List FieldSpelling → List Source → Prop
  | absent {fields : List FieldSpelling}
      (h : ∀ field ∈ fields, some field.name ∉ members.map (·.1)) : Values members fields []
  | given {field : FieldSpelling} {fields : List FieldSpelling} {value : Source}
      {items : List Source} (h : (some field.name, value) ∈ members)
      (rest : Values members fields items) : Values members (field :: fields) (value :: items)
  | blank {field : FieldSpelling} {fields : List FieldSpelling} {value : Source}
      {items : List Source} (h : some field.name ∉ members.map (·.1))
      (hblank : field.blank = some value) (rest : Values members fields items) :
      Values members (field :: fields) (value :: items)

/-- The steps from one spelling of a record to another. -/
inductive Respelled (fields : List FieldSpelling) : Source → Source → Prop
  /-- The members stand in another order. -/
  | reordered {members others : List (Option String × Source)} {closed : Bool}
      (h : members.Perm others) : Respelled fields (.object members closed) (.object others closed)
  /-- A member of an unknown name is there. -/
  | added {before after : List (Option String × Source)} {closed : Bool} {name : String}
      {value : Source} (unknown : ∀ field ∈ fields, field.name ≠ name)
      (whole : value.isWhole = true) :
      Respelled fields (.object (before ++ after) closed)
        (.object (before ++ (some name, value) :: after) closed)
  /-- A member of an unknown name is not there. -/
  | removed {before after : List (Option String × Source)} {closed : Bool} {name : String}
      {value : Source} (unknown : ∀ field ∈ fields, field.name ≠ name) :
      Respelled fields (.object (before ++ (some name, value) :: after) closed)
        (.object (before ++ after) closed)
  /-- An absent field holds what may stand for it. -/
  | filled {before after : List (Option String × Source)} {closed : Bool} {field : FieldSpelling}
      {value : Source} (h : field ∈ fields) (hblank : field.blank = some value)
      (absent : some field.name ∉ (before ++ after).map (·.1)) :
      Respelled fields (.object (before ++ after) closed)
        (.object (before ++ (some field.name, value) :: after) closed)
  /-- A field that holds what may stand for an absent one is absent. -/
  | omitted {before after : List (Option String × Source)} {closed : Bool} {field : FieldSpelling}
      {value : Source} (h : field ∈ fields) (hblank : field.blank = some value) :
      Respelled fields (.object (before ++ (some field.name, value) :: after) closed)
        (.object (before ++ after) closed)
  /-- The object is the array of its values. -/
  | positional {members : List (Option String × Source)} {items : List Source} {closed : Bool}
      (h : Values members fields items) :
      Respelled fields (.object members closed) (.array items closed)
  /-- A value in the object is respelled. -/
  | member {before after : List (Option String × Source)} {closed : Bool} {field : FieldSpelling}
      {value other : Source} (h : field ∈ fields) (hvalue : field.respelled value other) :
      Respelled fields (.object (before ++ (some field.name, value) :: after) closed)
        (.object (before ++ (some field.name, other) :: after) closed)
  /-- A value in the array is respelled. -/
  | item {before after : List Source} {closed : Bool} {field : FieldSpelling}
      {value other : Source} (h : fields[before.length]? = some field)
      (hvalue : field.respelled value other) :
      Respelled fields (.array (before ++ value :: after) closed)
        (.array (before ++ other :: after) closed)

/-- The steps from a record to what is none. -/
inductive Spoiled (fields : List FieldSpelling) : Source → Source → Prop
  /-- A value in the object is spoiled. -/
  | member {before after : List (Option String × Source)} {closed : Bool} {field : FieldSpelling}
      {value other : Source} (h : field ∈ fields) (hvalue : field.spoiled value other) :
      Spoiled fields (.object (before ++ (some field.name, value) :: after) closed)
        (.object (before ++ (some field.name, other) :: after) closed)
  /-- A value in the array is spoiled. -/
  | item {before after : List Source} {closed : Bool} {field : FieldSpelling}
      {value other : Source} (h : fields[before.length]? = some field)
      (hvalue : field.spoiled value other) :
      Spoiled fields (.array (before ++ value :: after) closed)
        (.array (before ++ other :: after) closed)
  /-- An array of all values has one item more. -/
  | overlong {items : List Source} {closed : Bool} (h : items.length = fields.length)
      (extra : Source) :
      Spoiled fields (.array items closed) (.array (items ++ [extra]) closed)

end Record

/-! ### Room for brackets -/

namespace Source

/-- At least so many brackets may still be opened, one inside the other. -/
def Leaves (brackets : Nat) (depth : Levels) : Prop := ∀ left, depth = some left → brackets < left

namespace Leaves

variable {brackets : Nat} {depth inside : Levels}

theorem mono {fewer : Nat} (h : Leaves brackets depth) (hle : fewer ≤ brackets) :
    Leaves fewer depth :=
  fun left hleft => Nat.lt_of_le_of_lt hle (h left hleft)

theorem exists_enter (h : Leaves (brackets + 1) depth) : ∃ inside, enter depth = .ok inside := by
  cases depth with
  | none => exact ⟨none, rfl⟩
  | some left =>
    have hlt := h left rfl
    exact ⟨some (left - 1), if_neg (by omega)⟩

theorem of_enter (h : Leaves (brackets + 1) depth) (he : enter depth = .ok inside) :
    Leaves brackets inside := by
  rintro left rfl
  cases depth with
  | none => cases he
  | some outside =>
    have hlt := h outside rfl
    rw [enter, if_neg (by omega)] at he
    cases he
    omega

end Leaves

end Source

/-! ### Readers of spellings -/

/-- At that depth the reader reads respelled values alike, and spoiled ones not at all. -/
structure Reader.Spells {α : Type} (read : Reader α) (depth : Levels)
    (respelled spoiled : Source → Source → Prop) : Prop where
  keeps : ∀ {source other : Source} {a : α}, respelled source other →
    read depth source = .ok a → read depth other = .ok a
  refuses : ∀ {source other : Source} {a : α}, spoiled source other → read depth other ≠ .ok a

namespace Reader.Spells

variable {α : Type} {read : Reader α} {depth : Levels} {respelled spoiled : Source → Source → Prop}

theorem noStep : Spells read depth NoStep NoStep := ⟨nofun, nofun⟩

/-- A reader that reads all spellings of a value alike does so over any number of steps. -/
theorem keeps_all (h : Spells read depth respelled spoiled) {source other : Source} {a : α}
    (hs : Relation.ReflTransGen respelled source other) (hr : read depth source = .ok a) :
    read depth other = .ok a := by
  induction hs with
  | refl => exact hr
  | tail _ hstep ih => exact h.keeps hstep ih

theorem orNull (h : Spells read depth respelled spoiled)
    (hnull : ∀ a, read depth .null ≠ .ok a) : Spells read depth respelled (OrNull spoiled) where
  keeps := h.keeps
  refuses hs := hs.elim (fun he => he ▸ hnull _) h.refuses

/-- What is made of all that a reader reads is spelled as that. -/
theorem bind {β : Type} (h : Spells read depth respelled spoiled) (f : α → Except ReadError β) :
    Spells (fun depth s => read depth s >>= f) depth respelled spoiled where
  keeps hs hr := by
    obtain ⟨a, ha, hf⟩ := bind_eq_ok.1 hr
    exact bind_eq_ok.2 ⟨a, h.keeps hs ha, hf⟩
  refuses hs hr := by
    obtain ⟨a, ha, -⟩ := bind_eq_ok.1 hr
    exact h.refuses hs ha

theorem map {β : Type} (h : Spells read depth respelled spoiled) (f : α → β) :
    Spells (fun depth s => (read depth s).map f) depth respelled spoiled := by
  have hbind : (fun depth s => (read depth s).map f) =
      fun depth s => read depth s >>= fun a => .ok (f a) := by
    funext depth s
    cases read depth s <;> rfl
  rw [hbind]
  exact h.bind _

/-- All items are read when those before, at and behind one place are. -/
theorem mapM_middle_eq_ok {f : Source → Except ReadError α} {before after : List Source}
    {source : Source} {values : List α} :
    (before ++ source :: after).mapM f = .ok values ↔
      ∃ front a back, before.mapM f = .ok front ∧ f source = .ok a ∧ after.mapM f = .ok back ∧
        front ++ a :: back = values := by
  rw [List.mapM_append, List.mapM_cons]
  simp only [bind_eq_ok]
  constructor
  · rintro ⟨front, hfront, _, ⟨a, ha, back, hback, he⟩, hvalues⟩
    cases he
    cases hvalues
    exact ⟨front, a, back, hfront, ha, hback, rfl⟩
  · rintro ⟨front, a, back, hfront, ha, hback, rfl⟩
    exact ⟨front, hfront, _, ⟨a, ha, back, hback, rfl⟩, rfl⟩

/-- An array is read alike in all spellings of its items, and not when an item is spoiled. -/
theorem list (h : ∀ inside, enter depth = .ok inside → Spells read inside respelled spoiled) :
    Spells (Reader.list read) depth (InItem respelled) (OrNull (InItem spoiled)) := by
  refine orNull ⟨fun {source other values} hs hr => ?_, fun {source other values} hs hr => ?_⟩ nofun
  · obtain ⟨hstep⟩ := hs
    obtain ⟨inside, henter, hr⟩ := bind_eq_ok.1 hr
    obtain ⟨_, hitems, hclosed⟩ := bind_eq_ok.1 hr
    obtain ⟨front, a, back, hfront, ha, hback, rfl⟩ := mapM_middle_eq_ok.1 hitems
    have ha := (h inside henter).keeps hstep ha
    exact bind_eq_ok.2 ⟨inside, henter, bind_eq_ok.2
      ⟨_, mapM_middle_eq_ok.2 ⟨front, a, back, hfront, ha, hback, rfl⟩, hclosed⟩⟩
  · obtain ⟨hstep⟩ := hs
    obtain ⟨inside, henter, hr⟩ := bind_eq_ok.1 hr
    obtain ⟨_, hitems, -⟩ := bind_eq_ok.1 hr
    obtain ⟨front, a, back, -, ha, -⟩ := mapM_middle_eq_ok.1 hitems
    exact (h inside henter).refuses hstep ha

end Reader.Spells

/-! ### Records in all their spellings -/

/-- The field reads the spellings of its values alike and nothing that is spoiled. What may stand
for it when it is absent leaves the empty record as it is. -/
structure RecordField.SpelledAs {σ : Type} (field : RecordField σ) (empty : σ) (depth : Levels)
    (spelling : FieldSpelling) : Prop where
  name_eq : field.name = spelling.name
  inArrays_eq : field.inArrays = false
  put_blank : ∀ value, spelling.blank = some value → field.put empty depth value = .ok empty
  spells : ∀ record, Reader.Spells (field.put record) depth spelling.respelled spelling.spoiled

namespace RecordField.SpelledAs

variable {σ α : Type} {empty : σ} {depth : Levels} {name : String} {read : Reader α}
  {respelled spoiled : Source → Source → Prop}

theorem of_spells {blank : Option Source} {set : σ → α → σ}
    (h : read.Spells depth respelled spoiled)
    (hblank : ∀ value, blank = some value → ∃ a, read depth value = .ok a ∧ set empty a = empty) :
    (RecordField.of name read set).SpelledAs empty depth ⟨name, blank, respelled, spoiled⟩ where
  name_eq := rfl
  inArrays_eq := rfl
  put_blank value hvalue := map_eq_ok.2 (hblank value hvalue)
  spells record := h.map (set record)

theorem required {set : σ → α → σ} :
    (RecordField.of name read set).SpelledAs empty depth (.required name) :=
  of_spells .noStep nofun

theorem optional {set : σ → Option α → σ} (hempty : set empty none = empty) :
    (RecordField.of name (Reader.optional read) set).SpelledAs empty depth (.optional name) := by
  refine of_spells .noStep fun value hvalue => ?_
  cases hvalue
  exact ⟨none, rfl, hempty⟩

theorem list {set : σ → List α → σ} (hempty : set empty [] = empty) (hroom : Leaves 1 depth)
    (h : ∀ inside, enter depth = .ok inside → read.Spells inside respelled spoiled) :
    (RecordField.of name (Reader.list read) set).SpelledAs empty depth
      (.list name respelled spoiled) := by
  refine of_spells (.list h) fun value hvalue => ?_
  cases hvalue
  obtain ⟨inside, henter⟩ := hroom.exists_enter
  exact ⟨[], by rw [Reader.list, henter]; rfl, hempty⟩

theorem record {τ : Type} {fields : List (RecordField τ)} {start : τ} {set : σ → τ → σ}
    (hempty : set empty start = empty) (hroom : Leaves 1 depth)
    (h : (Record.read fields start).Spells depth respelled spoiled) :
    (RecordField.of name (Record.read fields start) set).SpelledAs empty depth
      (.record name respelled spoiled) := by
  refine of_spells (h.orNull nofun) fun value hvalue => ?_
  cases hvalue
  obtain ⟨inside, henter⟩ := hroom.exists_enter
  exact ⟨start, by rw [Record.read, henter]; rfl, hempty⟩

end RecordField.SpelledAs

namespace Record

variable {σ : Type} {fields : List (RecordField σ)} {empty result : σ} {depth : Levels}
  {spellings : List FieldSpelling} {spelling : FieldSpelling}

/-- The fields are independent of each other, and each has its spelling. -/
structure Spelled (fields : List (RecordField σ)) (empty : σ) (depth : Levels)
    (spellings : List FieldSpelling) : Prop where
  independent : Independent fields
  spelledAs : List.Forall₂ (fun field spelling => field.SpelledAs empty depth spelling) fields
    spellings

theorem names_eq_of_spelledAs
    (h : List.Forall₂ (fun field spelling => field.SpelledAs empty depth spelling) fields
      spellings) : fields.map (·.name) = spellings.map (·.name) := by
  induction h with
  | nil => rfl
  | cons hfield _ ih => rw [List.map_cons, List.map_cons, hfield.name_eq, ih]

namespace Spelled

theorem inArrays_eq (h : Spelled fields empty depth spellings) :
    ∀ field ∈ fields, field.inArrays = false := by
  intro field hf
  obtain ⟨i, hi, rfl⟩ := List.getElem_of_mem hf
  obtain ⟨hlength, hget⟩ := List.forall₂_iff_get.1 h.spelledAs
  exact (hget i hi (hlength ▸ hi)).inArrays_eq

theorem exists_getElem? (h : Spelled fields empty depth spellings) {i : Nat}
    (hi : spellings[i]? = some spelling) :
    ∃ field, fields[i]? = some field ∧ field.SpelledAs empty depth spelling := by
  obtain ⟨hlt, rfl⟩ := List.getElem?_eq_some_iff.1 hi
  obtain ⟨hlength, hget⟩ := List.forall₂_iff_get.1 h.spelledAs
  exact ⟨_, List.getElem?_eq_getElem (hlength ▸ hlt), hget i (hlength ▸ hlt) hlt⟩

theorem exists_fieldOf? (h : Spelled fields empty depth spellings) (hs : spelling ∈ spellings) :
    ∃ field, fieldOf? fields (some field.name) = some field ∧
      field.SpelledAs empty depth spelling := by
  obtain ⟨i, hi⟩ := List.mem_iff_getElem?.1 hs
  obtain ⟨field, hfield, hspelled⟩ := h.exists_getElem? hi
  exact ⟨field, fieldOf?_name h.independent.nodup (List.mem_of_getElem? hfield), hspelled⟩

theorem fieldOf?_eq_none (h : Spelled fields empty depth spellings) {name : String}
    (unknown : ∀ spelling ∈ spellings, spelling.name ≠ name) :
    fieldOf? fields (some name) = none := by
  refine Record.fieldOf?_eq_none fun field hf hname => ?_
  have hmem : name ∈ spellings.map (·.name) :=
    names_eq_of_spelledAs h.spelledAs ▸ List.mem_map.2 ⟨field, hf, hname⟩
  obtain ⟨spelling, hs, hname⟩ := List.mem_map.1 hmem
  exact unknown spelling hs hname

end Spelled

/-! ### An object as the array of its values -/

section Values

variable {members : List (Option String × Source)} {field : RecordField σ} {value : Source}

theorem given_eq_nil (h : ∀ field ∈ fields, some field.name ∉ members.map (·.1)) :
    given fields members = [] := by
  refine List.eq_nil_iff_forall_not_mem.2 fun g hg => ?_
  obtain ⟨hf, hm⟩ := of_mem_given hg
  exact h g.1 hf (List.mem_map_of_mem (f := (·.1)) hm)

/-- A field that no member has gives nothing. -/
theorem given_fields_cons_of_notMem (h : some field.name ∉ members.map (·.1)) :
    given (field :: fields) members = given fields members := by
  refine List.filterMap_congr fun m hm => ?_
  have hfield : fieldOf? (field :: fields) m.1 = fieldOf? fields m.1 := by
    cases hname : m.1 with
    | none => rfl
    | some name =>
      refine fieldOf?_cons_of_ne fun he => h ?_
      rw [he, ← hname]
      exact List.mem_map_of_mem hm
  rw [hfield]

/-- A field that a member has gives the value of that member. -/
theorem perm_given_fields_cons (hfields : ((field :: fields).map (·.name)).Nodup)
    (hnodup : ((given (field :: fields) members).map (·.1.name)).Nodup)
    (hm : (some field.name, value) ∈ members) :
    (given (field :: fields) members).Perm ((field, value) :: given fields members) := by
  have hfind : fieldOf? (field :: fields) (some field.name) = some field :=
    fieldOf?_name hfields List.mem_cons_self
  have hnone : fieldOf? fields (some field.name) = none := by
    rw [List.map_cons, List.nodup_cons] at hfields
    exact fieldOf?_eq_none fun other hf he => hfields.1 (List.mem_map.2 ⟨other, hf, he⟩)
  obtain ⟨before, after, rfl⟩ := List.append_of_mem hm
  have hperm : (before ++ (some field.name, value) :: after).Perm
      ((some field.name, value) :: (before ++ after)) := List.perm_middle
  have hall : (given (field :: fields) _).Perm (given (field :: fields) _) := given_perm hperm
  have hothers : (given fields _).Perm (given fields _) := given_perm hperm
  rw [given_cons_of_some hfind] at hall
  rw [given_cons_of_none hnone] at hothers
  -- no other member has the name
  have hdistinct := (hall.map (·.1.name)).nodup_iff.1 hnodup
  rw [List.map_cons, List.nodup_cons] at hdistinct
  have habsent : some field.name ∉ (before ++ after).map (·.1) :=
    (forall_given_ne_iff hfind).1 fun g hg he => hdistinct.1 (List.mem_map.2 ⟨g, hg, he⟩)
  rw [given_fields_cons_of_notMem habsent] at hall
  exact hall.trans (hothers.symm.cons _)

/-- The values of an object in the order of the fields give what the object gives, and besides only
what may stand for absent fields. -/
theorem exists_blanks_of_values {items : List Source} (hv : Values members spellings items)
    (hs : List.Forall₂ (fun field spelling => field.SpelledAs empty depth spelling) fields
      spellings) (hfields : (fields.map (·.name)).Nodup)
    (hnodup : ((given fields members).map (·.1.name)).Nodup) :
    items.length ≤ fields.length ∧ ∃ blanks : List (RecordField σ × Source),
      (fields.zip items).Perm (blanks ++ given fields members) ∧
        ∀ g ∈ blanks, g.1.put empty depth g.2 = .ok empty := by
  induction hv generalizing fields with
  | @absent spellings habsent =>
    have hnil : given fields members = [] := by
      refine given_eq_nil fun field hf => ?_
      have hmem : field.name ∈ spellings.map (·.name) :=
        names_eq_of_spelledAs hs ▸ List.mem_map.2 ⟨field, hf, rfl⟩
      obtain ⟨spelling, hspelling, hname⟩ := List.mem_map.1 hmem
      exact hname ▸ habsent spelling hspelling
    refine ⟨Nat.zero_le _, [], ?_, List.forall_mem_nil _⟩
    rw [List.zip_nil_right, hnil]
    exact .nil
  | @given spelling spellings value items hm _ ih =>
    cases hs with
    | @cons field _ fields _ hfield hs =>
      rw [← hfield.name_eq] at hm
      have hperm := perm_given_fields_cons hfields hnodup hm
      have hrest := (hperm.map (·.1.name)).nodup_iff.1 hnodup
      obtain ⟨hlength, blanks, hzip, hblanks⟩ :=
        ih hs (List.nodup_cons.1 hfields).2 (List.nodup_cons.1 hrest).2
      refine ⟨Nat.succ_le_succ hlength, blanks, ?_, hblanks⟩
      exact (hzip.cons _).trans (List.perm_middle.symm.trans (hperm.symm.append_left blanks))
  | @blank spelling spellings value items habsent hblank _ ih =>
    cases hs with
    | @cons field _ fields _ hfield hs =>
      rw [← hfield.name_eq] at habsent
      have hgiven : given (field :: fields) members = given fields members :=
        given_fields_cons_of_notMem habsent
      obtain ⟨hlength, blanks, hzip, hblanks⟩ :=
        ih hs (List.nodup_cons.1 hfields).2 (hgiven ▸ hnodup)
      refine ⟨Nat.succ_le_succ hlength, (field, value) :: blanks, ?_, ?_⟩
      · rw [hgiven]
        exact hzip.cons _
      · exact List.forall_mem_cons.2 ⟨hfield.put_blank value hblank, hblanks⟩

end Values

/-! ### All spellings -/

namespace Spelled

variable {inside : Levels}

/-- An object is read as the array of its values. -/
theorem read_array_of_values (h : Spelled fields empty inside spellings)
    (henter : enter depth = .ok inside) {members : List (Option String × Source)}
    {items : List Source} {closed : Bool} (hv : Values members spellings items)
    (hr : read fields empty depth (.object members closed) = .ok result) :
    read fields empty depth (.array items closed) = .ok result := by
  obtain ⟨hclosed, hm, hput⟩ := (read_object_eq_ok_iff henter).1 hr
  obtain ⟨hlength, blanks, hzip, hblanks⟩ :=
    exists_blanks_of_values hv h.spelledAs h.independent.nodup hm.nodup
  have hcommutes := (hzip.pairwise_iff fun hc => hc.symm).1 (h.independent.commutes_zip items)
  rw [← putAll_append_of_blank hblanks] at hput
  exact (read_array_eq_ok_iff henter h.inArrays_eq).2
    ⟨hclosed, hlength, putAll_perm hzip.symm hcommutes hput⟩

/-- A respelled record is read alike. -/
theorem read_of_respelled (h : Spelled fields empty inside spellings)
    (henter : enter depth = .ok inside) {source other : Source}
    (hs : Respelled spellings source other) (hr : read fields empty depth source = .ok result) :
    read fields empty depth other = .ok result := by
  -- the steps at a member are made in front of all others
  have hi := h.independent
  cases hs with
  | reordered hp => exact hi.read_perm henter hp hr
  | added unknown whole =>
    have hnone := h.fieldOf?_eq_none unknown
    exact (hi.read_middle_iff henter).2 ((read_cons_of_none henter hnone).2 ⟨whole, hr⟩)
  | removed unknown =>
    have hnone := h.fieldOf?_eq_none unknown
    exact ((read_cons_of_none henter hnone).1 ((hi.read_middle_iff henter).1 hr)).2
  | filled hf hblank absent =>
    obtain ⟨field, hfield, hs⟩ := h.exists_fieldOf? hf
    have hput := hs.put_blank _ hblank
    rw [← hs.name_eq] at absent ⊢
    exact (hi.read_middle_iff henter).2 ((read_cons_of_blank henter hfield hput).2 ⟨absent, hr⟩)
  | omitted hf hblank =>
    obtain ⟨field, hfield, hs⟩ := h.exists_fieldOf? hf
    have hput := hs.put_blank _ hblank
    rw [← hs.name_eq] at hr
    exact ((read_cons_of_blank henter hfield hput).1 ((hi.read_middle_iff henter).1 hr)).2
  | positional hv => exact h.read_array_of_values henter hv hr
  | member hf hvalue =>
    obtain ⟨field, hfield, hs⟩ := h.exists_fieldOf? hf
    rw [← hs.name_eq] at hr ⊢
    exact (hi.read_middle_iff henter).2 <| read_cons_congr henter hfield
      (fun before _ => (hs.spells before).keeps hvalue) ((hi.read_middle_iff henter).1 hr)
  | @item before after closed spelling value other hf hvalue =>
    obtain ⟨field, hfield, hs⟩ := h.exists_getElem? hf
    obtain ⟨front, back, hzip⟩ := exists_zip_eq hfield after
    rw [read_array_eq_ok_iff henter h.inArrays_eq, hzip, List.length_append,
      List.length_cons] at hr ⊢
    exact ⟨hr.1, hr.2.1, putAll_congr (fun before _ => (hs.spells before).keeps hvalue) hr.2.2⟩

/-- A spoiled record is not read. -/
theorem read_ne_ok_of_spoiled (h : Spelled fields empty inside spellings)
    (henter : enter depth = .ok inside) {source other : Source}
    (hs : Spoiled spellings source other) : read fields empty depth other ≠ .ok result := by
  intro hr
  cases hs with
  | member hf hvalue =>
    obtain ⟨field, hfield, hs⟩ := h.exists_fieldOf? hf
    rw [← hs.name_eq, h.independent.read_middle_iff henter, read_object_eq_ok_iff henter,
      given_cons_of_some hfield] at hr
    obtain ⟨before, after, hput⟩ := exists_put_of_putAll hr.2.2 List.mem_cons_self
    exact (hs.spells before).refuses hvalue hput
  | @item before after closed spelling value other hf hvalue =>
    obtain ⟨field, hfield, hs⟩ := h.exists_getElem? hf
    obtain ⟨front, back, hzip⟩ := exists_zip_eq hfield after
    rw [read_array_eq_ok_iff henter h.inArrays_eq, hzip] at hr
    obtain ⟨before, after, hput⟩ := exists_put_of_putAll hr.2.2
      (List.mem_append_right front List.mem_cons_self)
    exact (hs.spells before).refuses hvalue hput
  | overlong hlength extra =>
    rw [read_array_eq_ok_iff henter h.inArrays_eq, List.length_append, hlength,
      ← h.spelledAs.length_eq] at hr
    exact absurd hr.2.1 (Nat.not_succ_le_self _)

/-- A record is read alike in all its spellings, and nothing is read of what is spoiled. -/
theorem spells_read
    (h : ∀ inside, enter depth = .ok inside → Spelled fields empty inside spellings) :
    Reader.Spells (read fields empty) depth (Respelled spellings) (Spoiled spellings) where
  keeps hs hr := by
    obtain ⟨inside, henter⟩ := exists_enter_of_read hr
    exact (h inside henter).read_of_respelled henter hs hr
  refuses hs hr := by
    obtain ⟨inside, henter⟩ := exists_enter_of_read hr
    exact (h inside henter).read_ne_ok_of_spoiled henter hs hr

end Spelled

end Record

end SparkAdmission
