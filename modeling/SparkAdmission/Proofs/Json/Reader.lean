import SparkAdmission.Json.Reader

/-!
# What is read is JSON

A reader is *strict* when it gives a value only for a tree that is JSON throughout. A record that
is read from strict fields is read strictly, in either of its forms (`Record.strict_read`), although
members of unknown names are skipped. Of a text that is no JSON a strict reader therefore reads
nothing (`Reader.Strict.isJson_of_text`).
-/

namespace SparkAdmission

theorem bind_eq_ok {ε α β : Type} {x : Except ε α} {f : α → Except ε β} {b : β} :
    x >>= f = .ok b ↔ ∃ a, x = .ok a ∧ f a = .ok b := by
  cases x <;> simp [bind, Except.bind]

theorem map_eq_ok {ε α β : Type} {x : Except ε α} {f : α → β} {b : β} :
    x.map f = .ok b ↔ ∃ a, x = .ok a ∧ f a = b := by
  cases x <;> simp [Except.map]

/-- What goes on behind a refusal was not refused. -/
theorem of_refusal_eq_ok {ε α β : Type} {c : Prop} [Decidable c] {e : ε} {f : α → Except ε β}
    {x : Except ε β} {b : β} (h : (if c then throw e >>= f else x) = .ok b) : x = .ok b := by
  split at h
  · cases h
  · exact h

namespace Source

theorem itemsWhole_iff {items : List Source} :
    itemsWhole items = true ↔ ∀ s ∈ items, s.isWhole = true := by
  induction items with
  | nil => simp [itemsWhole]
  | cons s rest ih => simp [itemsWhole, ih]

theorem membersWhole_iff {members : List (Option String × Source)} :
    membersWhole members = true ↔ ∀ m ∈ members, m.2.isWhole = true := by
  induction members with
  | nil => simp [membersWhole]
  | cons m rest ih => simp [membersWhole, ih]

theorem isWhole_array {items : List Source} {closed : Bool} :
    (array items closed).isWhole = true ↔ (∀ s ∈ items, s.isWhole = true) ∧ closed = true := by
  rw [isWhole, Bool.and_eq_true, itemsWhole_iff]

theorem isWhole_object {members : List (Option String × Source)} {closed : Bool} :
    (object members closed).isWhole = true ↔
      (∀ m ∈ members, m.2.isWhole = true) ∧ closed = true := by
  rw [isWhole, Bool.and_eq_true, membersWhole_iff]

theorem finish_eq_ok {closed : Bool} : finish closed = .ok () ↔ closed = true := by
  cases closed <;> simp [finish]

/-- The text is JSON throughout, and nothing follows it. -/
def IsJson (text : String) : Prop :=
  (ofText text).1.isWhole = true ∧ (ofText text).2 = true

end Source

open Source

/-! ### Strict readers -/

namespace Reader

variable {α : Type} {read : Reader α}

/-- What the reader reads is JSON throughout. -/
def Strict (read : Reader α) : Prop :=
  ∀ ⦃depth : Levels⦄ ⦃s : Source⦄ ⦃a : α⦄, read depth s = .ok a → s.isWhole = true

theorem strict_string : Strict string := by
  intro depth s a h
  cases s with
  | string t => rfl
  | _ => cases h

theorem strict_bool : Strict bool := by
  intro depth s a h
  cases s with
  | bool b => rfl
  | _ => cases h

theorem strict_whole (low high : Int) : Strict (whole low high) := by
  intro depth s a h
  cases s with
  | number n => rfl
  | _ => cases h

/-- Of a name nothing has to be read but the name itself. -/
theorem strict_choice (names : List String) : Strict (choice names) := by
  intro depth s a h
  unfold choice at h
  split at h
  · rfl
  · rename_i name value rest closed
    obtain ⟨d, -, h⟩ := bind_eq_ok.1 h
    replace h := of_refusal_eq_ok h
    split at h
    · split at h
      · rename_i hrest
        rw [List.isEmpty_iff.1 hrest, isWhole_object]
        exact ⟨by simp [isWhole], finish_eq_ok.1 h⟩
      · cases h
    · cases h
  · cases h

/-- Every item of a list that is read has been read. -/
theorem exists_read_of_mapM {depth : Levels} {items : List Source} {values : List α}
    (h : items.mapM (read depth) = .ok values) : ∀ s ∈ items, ∃ a, read depth s = .ok a := by
  induction items generalizing values with
  | nil => exact List.forall_mem_nil _
  | cons s items ih =>
    rw [List.mapM_cons] at h
    obtain ⟨a, ha, h⟩ := bind_eq_ok.1 h
    obtain ⟨rest, hrest, -⟩ := bind_eq_ok.1 h
    exact List.forall_mem_cons.2 ⟨⟨a, ha⟩, ih hrest⟩

theorem strict_list (hr : Strict read) : Strict (list read) := by
  intro depth s values h
  cases s with
  | array items closed =>
    obtain ⟨d, -, h⟩ := bind_eq_ok.1 h
    obtain ⟨values, hitems, h⟩ := bind_eq_ok.1 h
    obtain ⟨u, hclosed, -⟩ := bind_eq_ok.1 h
    refine isWhole_array.2 ⟨fun s hs => ?_, finish_eq_ok.1 hclosed⟩
    obtain ⟨a, ha⟩ := exists_read_of_mapM hitems s hs
    exact hr ha
  | _ => cases h

theorem eq_null_or_of_optional {depth : Levels} {s : Source} {a : Option α}
    (h : optional read depth s = .ok a) : s = .null ∨ ∃ b, read depth s = .ok b := by
  cases s with
  | null => exact .inl rfl
  | _ =>
    obtain ⟨b, hb, -⟩ := map_eq_ok.1 h
    exact .inr ⟨b, hb⟩

theorem strict_optional (hr : Strict read) : Strict (optional read) := by
  intro depth s a h
  rcases eq_null_or_of_optional h with rfl | ⟨b, hb⟩
  · rfl
  · exact hr hb

/-- A text is read when its tree is, and nothing follows that. -/
theorem text_eq_ok {text : String} {a : α} :
    Reader.text read text = .ok a ↔
      read textLevels (ofText text).1 = .ok a ∧ (ofText text).2 = true := by
  constructor
  · intro h
    obtain ⟨b, hb, h⟩ := bind_eq_ok.1 h
    obtain ⟨u, hended, h⟩ := bind_eq_ok.1 h
    cases h
    exact ⟨hb, finish_eq_ok.1 hended⟩
  · rintro ⟨hread, hended⟩
    exact bind_eq_ok.2 ⟨a, hread, bind_eq_ok.2 ⟨(), finish_eq_ok.2 hended, rfl⟩⟩

/-- A strict reader reads nothing of a text that is no JSON. -/
theorem Strict.isJson_of_text (hr : Strict read) {text : String} {a : α}
    (h : Reader.text read text = .ok a) : IsJson text :=
  ⟨hr (text_eq_ok.1 h).1, (text_eq_ok.1 h).2⟩

end Reader

/-! ### Records -/

namespace RecordField

variable {σ α : Type}

/-- Whatever the record under construction, the value of the field is read strictly. -/
def Strict (field : RecordField σ) : Prop := ∀ record, Reader.Strict (field.put record)

theorem strict_of {read : Reader α} (hr : Reader.Strict read) (name : String) (set : σ → α → σ) :
    Strict (.of name read set) := by
  intro record depth s a h
  obtain ⟨b, hb, -⟩ := map_eq_ok.1 h
  exact hr hb

theorem strict_seen {read : Reader α} (hr : Reader.Strict read) (name : String) :
    Strict (.seen name read) := strict_of hr name _

theorem strict_always {field : RecordField σ} (h : Strict field) : Strict field.always := h

end RecordField

namespace Record

variable {σ : Type} {fields : List (RecordField σ)}

/-- A member that was read has a name. It was skipped, or put into the record by the field of that
name, and then the other members were read. -/
theorem readMembers_cons {depth : Levels} {closed : Bool} {member : Option String × Source}
    {rest : List (Option String × Source)} {seen : List String} {record result : σ}
    (h : readMembers fields depth closed (member :: rest) seen record = .ok result) :
    ∃ name seen' next, member.1 = some name ∧
      readMembers fields depth closed rest seen' next = .ok result ∧
      ((fields.find? (·.name == name) = none ∧ member.2.isWhole = true) ∨
        ∃ field, fields.find? (·.name == name) = some field ∧
          field.put record depth member.2 = .ok next) := by
  obtain ⟨name | name, s⟩ := member
  · cases h
  · rw [readMembers] at h
    split at h
    · rename_i hfind
      split at h
      · rename_i hwhole
        exact ⟨name, _, _, rfl, h, .inl ⟨hfind, hwhole⟩⟩
      · cases h
    · rename_i field hfind
      split at h
      · cases h
      · obtain ⟨next, hput, h⟩ := bind_eq_ok.1 h
        exact ⟨name, _, next, rfl, h, .inr ⟨field, hfind, hput⟩⟩

theorem isWhole_of_readMembers (hf : ∀ field ∈ fields, field.Strict) {depth : Levels}
    {closed : Bool} {members : List (Option String × Source)} {seen : List String}
    {record result : σ} (h : readMembers fields depth closed members seen record = .ok result) :
    (∀ m ∈ members, m.2.isWhole = true) ∧ closed = true := by
  induction members generalizing seen record with
  | nil =>
    obtain ⟨u, hclosed, -⟩ := bind_eq_ok.1 h
    exact ⟨List.forall_mem_nil _, finish_eq_ok.1 hclosed⟩
  | cons member rest ih =>
    obtain ⟨name, seen', next, -, hrest, hmember⟩ := readMembers_cons h
    -- a member of an unknown name is skipped, and has to be whole
    have hwhole : member.2.isWhole = true := by
      rcases hmember with ⟨-, hwhole⟩ | ⟨field, hfind, hput⟩
      · exact hwhole
      · exact hf field (List.mem_of_find?_eq_some hfind) record hput
    obtain ⟨hwholes, hclosed⟩ := ih hrest
    exact ⟨List.forall_mem_cons.2 ⟨hwhole, hwholes⟩, hclosed⟩

/-- A member of the name of a field has been read by that field. -/
theorem exists_put_of_mem {depth : Levels} {closed : Bool}
    {members : List (Option String × Source)} {seen : List String} {record result : σ}
    (h : readMembers fields depth closed members seen record = .ok result) {name : String}
    {s : Source} (hm : (some name, s) ∈ members) {field : RecordField σ}
    (hf : fields.find? (·.name == name) = some field) :
    ∃ before after, field.put before depth s = .ok after := by
  induction members generalizing seen record with
  | nil => cases hm
  | cons member rest ih =>
    obtain ⟨name', seen', next, hname, hrest, hmember⟩ := readMembers_cons h
    rcases List.mem_cons.1 hm with rfl | hm
    · cases hname
      rcases hmember with ⟨hnone, -⟩ | ⟨field', hfind, hput⟩
      · rw [hf] at hnone
        cases hnone
      · rw [hf] at hfind
        cases hfind
        exact ⟨record, next, hput⟩
    · exact ih hrest hm

theorem isWhole_of_readItems (hf : ∀ field ∈ fields, field.Strict) {depth : Levels}
    {closed : Bool} {items : List Source} {record result : σ}
    (h : readItems depth closed fields items record = .ok result) :
    (∀ s ∈ items, s.isWhole = true) ∧ closed = true := by
  induction items generalizing fields record with
  | nil =>
    rw [readItems] at h
    obtain ⟨u, hclosed, -⟩ := bind_eq_ok.1 h
    exact ⟨List.forall_mem_nil _, finish_eq_ok.1 hclosed⟩
  | cons s rest ih =>
    cases fields with
    | nil => cases h
    | cons field fields =>
      rw [List.forall_mem_cons] at hf
      obtain ⟨next, hput, h⟩ := bind_eq_ok.1 h
      obtain ⟨hrest, hclosed⟩ := ih hf.2 h
      exact ⟨List.forall_mem_cons.2 ⟨hf.1 _ hput, hrest⟩, hclosed⟩

/-- A record of strict fields is read strictly. -/
theorem strict_read (hf : ∀ field ∈ fields, field.Strict) (empty : σ) :
    Reader.Strict (read fields empty) := by
  intro depth s result h
  cases s with
  | object members closed =>
    obtain ⟨d, -, h⟩ := bind_eq_ok.1 h
    exact isWhole_object.2 (isWhole_of_readMembers hf h)
  | array items closed =>
    obtain ⟨d, -, h⟩ := bind_eq_ok.1 h
    exact isWhole_array.2 (isWhole_of_readItems hf h)
  | _ => cases h

theorem strict_skim {fields : List (RecordField (List String))}
    (hf : ∀ field ∈ fields, field.Strict) (required : List String) :
    Reader.Strict (skim required fields) := by
  intro depth s a h
  obtain ⟨seen, hread, -⟩ := bind_eq_ok.1 h
  exact strict_read hf _ hread

end Record

end SparkAdmission
