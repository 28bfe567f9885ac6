import SparkAdmission.Patch
import SparkAdmission.Proofs.Json.Members
import SparkAdmission.Proofs.Text.Digits

/-!
# Places in a document

A child that is set is read back, and another child is not touched. `alter` sets the value at a
place to what `f` makes of the value that is there: it is read back, every place apart from it
stays as it is (`follow?_alter_of_apart`), and alterations at places apart from each other can
change places (`alter_comm`). An `add` operation is an alteration: of a member, where the parent
is an object, or of a whole list, at its `-` (`add?_member`, `add?_end`).
-/

namespace SparkAdmission.Json

/-! ### Children -/

/-- The child that a token names can be set: in an object any, in an array one that is there. -/
def HasRoom (token : String) (j : Json) : Prop :=
  (∃ members, j = .object members) ∨ (j.child? token).isSome

theorem hasRoom_object (token : String) (members : List (String × Json)) :
    HasRoom token (.object members) := .inl ⟨members, rfl⟩

theorem hasRoom_of_child {token : String} {j child : Json} (h : j.child? token = some child) :
    HasRoom token j := .inr (by rw [h, Option.isSome_some])

theorem child?_setChild_self {token : String} {j : Json} (h : HasRoom token j) (value : Json) :
    (j.setChild token value).child? token = some value := by
  cases j with
  | object members => simp [setChild, child?]
  | array items =>
    rcases h with ⟨members, h⟩ | h
    · cases h
    · cases hi : index? token with
      | none => simp [child?, hi] at h
      | some i => simp_all [setChild, child?]
  | _ => simp [HasRoom, child?] at h

theorem setChild_of_not_hasRoom {token : String} {j : Json} (h : ¬ HasRoom token j)
    (value : Json) : j.setChild token value = j := by
  cases j with
  | object members => exact absurd (hasRoom_object token members) h
  | array items =>
    cases hi : index? token with
    | none => simp [setChild, hi]
    | some i =>
      have hle : items.length ≤ i := by simpa [HasRoom, child?, hi] using h
      simp [setChild, hi, List.set_eq_of_length_le hle]
  | _ => rfl

theorem child?_setChild_of_ne {token other : String} (h : other ≠ token) (value : Json) (j : Json) :
    (j.setChild token value).child? other = j.child? other := by
  cases j with
  | object members => simp [setChild, child?, h]
  | array items =>
    simp only [setChild, child?]
    cases hi : index? token with
    | none => rfl
    | some i =>
      cases hk : index? other with
      | none => rfl
      | some k =>
        have hne : i ≠ k := by
          rintro rfl
          rw [index?_eq_some_iff] at hi hk
          exact h (hk.trans hi.symm)
        simp [List.getElem?_set_ne hne]
  | _ => rfl

theorem setChild_setChild_self (token : String) (value old : Json) (j : Json) :
    (j.setChild token old).setChild token value = j.setChild token value := by
  cases j with
  | object members => simp [setChild, insertMember_insertMember_self]
  | array items =>
    simp only [setChild]
    cases index? token with
    | none => rfl
    | some i => simp
  | _ => rfl

theorem setChild_comm {token other : String} (h : token ≠ other) (value otherValue : Json)
    (j : Json) :
    (j.setChild other otherValue).setChild token value =
      (j.setChild token value).setChild other otherValue := by
  cases j with
  | object members => simp [setChild, insertMember_comm h]
  | array items =>
    simp only [setChild]
    cases hi : index? token with
    | none => rfl
    | some i =>
      cases hk : index? other with
      | none => rfl
      | some k =>
        have hne : k ≠ i := by
          rintro rfl
          rw [index?_eq_some_iff] at hi hk
          exact h (hi.trans hk.symm)
        simp [List.set_comm _ _ hne]
  | _ => rfl

theorem Canonical.child {token : String} {j child : Json} (h : j.Canonical)
    (hc : j.child? token = some child) : child.Canonical := by
  cases h with
  | array each =>
    obtain ⟨i, -, hi⟩ := Option.bind_eq_some_iff.1 hc
    exact each child (List.mem_of_getElem? hi)
  | object sorted each => exact each _ (mem_of_lookup hc)
  | _ => cases hc

theorem Canonical.setChild {token : String} {j value : Json} (h : j.Canonical)
    (hv : value.Canonical) : (j.setChild token value).Canonical := by
  cases h with
  | array each =>
    refine .array fun x hx => ?_
    cases hi : index? token with
    | none => exact each x (by simpa [hi] using hx)
    | some i =>
      rw [hi, Option.elim_some] at hx
      rcases List.mem_or_eq_of_mem_set hx with hx | rfl
      · exact each x hx
      · exact hv
  | object sorted each =>
    refine .object (increasing_insertMember _ _ sorted) fun m hm => ?_
    rcases mem_insertMember hm with rfl | hm
    · exact hv
    · exact each m hm
  | _ => constructor

/-! ### Places -/

/-- Neither of the places lies inside the other one. -/
def Apart : List String → List String → Prop
  | a :: p, b :: q => a ≠ b ∨ Apart p q
  | _, _ => False

@[simp] theorem not_apart_nil (p : List String) : ¬ Apart [] p := by
  cases p <;> exact id

@[simp] theorem not_apart_nil_right (p : List String) : ¬ Apart p [] := by
  cases p <;> exact id

@[simp] theorem apart_cons {a b : String} {p q : List String} :
    Apart (a :: p) (b :: q) ↔ a ≠ b ∨ Apart p q := Iff.rfl

theorem Apart.symm {p q : List String} (h : Apart p q) : Apart q p := by
  induction p generalizing q with
  | nil => exact absurd h (not_apart_nil q)
  | cons a p ih =>
    cases q with
    | nil => exact absurd h (not_apart_nil_right _)
    | cons b q => exact h.imp Ne.symm ih

@[simp] theorem follow?_singleton (token : String) (j : Json) :
    j.follow? [token] = j.child? token := by
  rw [follow?_cons]
  cases j.child? token <;> rfl

/-! ### Altering -/

/-- What `f` makes of the value at a place, in the document around it. Only the value at the place
itself may be missing, and that only in an object. -/
def alter? (f : Option Json → Json) : List String → Option Json → Option Json
  | [], j => some (f j)
  | _ :: _, none => none
  | token :: tokens, some j =>
    some ((alter? f tokens (j.child? token)).elim j (j.setChild token))

/-- The document with what `f` makes of the value at a place. -/
def alter (f : Option Json → Json) (place : List String) (j : Json) : Json :=
  (alter? f place (some j)).getD j

variable {f g : Option Json → Json}

theorem alter?_some (f : Option Json → Json) (p : List String) (j : Json) :
    alter? f p (some j) = some (alter f p j) := by
  cases p <;> rfl

@[simp] theorem alter_nil (f : Option Json → Json) (j : Json) : alter f [] j = f (some j) := rfl

theorem alter_cons (f : Option Json → Json) (token : String) (p : List String) (j : Json) :
    alter f (token :: p) j = (alter? f p (j.child? token)).elim j (j.setChild token) := rfl

theorem alter_cons_of_child {token : String} {j child : Json} (h : j.child? token = some child)
    (f : Option Json → Json) (p : List String) :
    alter f (token :: p) j = j.setChild token (alter f p child) := by
  rw [alter_cons, h, alter?_some, Option.elim_some]

theorem alter_singleton (f : Option Json → Json) (token : String) (j : Json) :
    alter f [token] j = j.setChild token (f (j.child? token)) := by
  cases h : j.child? token <;> simp [alter_cons, alter?, h]

/-- The place is a member of an object. -/
def IsMember (place : List String) (j : Json) : Prop :=
  ∃ parent name members, place = parent ++ [name] ∧ j.follow? parent = some (.object members)

theorem isMember_cons {token : String} {p : List String} {j child : Json}
    (hc : j.child? token = some child) (h : IsMember p child) : IsMember (token :: p) j := by
  obtain ⟨parent, name, members, rfl, hp⟩ := h
  exact ⟨token :: parent, name, members, rfl, by simp [hc, hp]⟩

theorem IsMember.cases {place : List String} {j : Json} (h : IsMember place j) :
    (∃ name members, place = [name] ∧ j = .object members) ∨
      ∃ token p child, place = token :: p ∧ j.child? token = some child ∧ IsMember p child := by
  obtain ⟨parent, name, members, rfl, hp⟩ := h
  cases parent with
  | nil => exact .inl ⟨name, members, rfl, Option.some.inj hp⟩
  | cons token parent =>
    obtain ⟨child, hc, hp⟩ := Option.bind_eq_some_iff.1 hp
    exact .inr ⟨token, parent ++ [name], child, rfl, hc, parent, name, members, rfl, hp⟩

/-- What is set at a place is read back. -/
theorem follow?_alter_self {place : List String} {j : Json} (h : IsMember place j)
    (f : Option Json → Json) :
    (alter f place j).follow? place = some (f (j.follow? place)) := by
  induction place generalizing j with
  | nil =>
    obtain ⟨parent, name, members, he, -⟩ := h
    simp at he
  | cons token p ih =>
    rcases h.cases with ⟨name, members, he, rfl⟩ | ⟨token', p', child, he, hc, hm⟩
    · cases he
      rw [alter_singleton, follow?_singleton, follow?_singleton,
        child?_setChild_self (hasRoom_object _ members)]
    · cases he
      rw [alter_cons_of_child hc, follow?_cons, follow?_cons, hc,
        child?_setChild_self (hasRoom_of_child hc)]
      exact ih hm

/-- A place apart from the altered one stays as it is. -/
theorem follow?_alter_of_apart {p q : List String} (h : Apart p q) (f : Option Json → Json)
    (j : Json) : (alter f p j).follow? q = j.follow? q := by
  induction p generalizing q j with
  | nil => exact absurd h (not_apart_nil q)
  | cons a p ih =>
    cases q with
    | nil => exact absurd h (not_apart_nil_right _)
    | cons b q =>
      rw [alter_cons, follow?_cons, follow?_cons]
      by_cases hab : b = a
      · subst hab
        have hpq : Apart p q := (apart_cons.1 h).resolve_left (not_not_intro rfl)
        cases hc : j.child? b with
        | none =>
          cases p with
          | nil => exact absurd hpq (not_apart_nil q)
          | cons a p => simp [alter?, hc]
        | some child =>
          rw [alter?_some, Option.elim_some, child?_setChild_self (hasRoom_of_child hc)]
          exact ih hpq child
      · cases alter? f p (j.child? a) with
        | none => rfl
        | some child => rw [Option.elim_some, child?_setChild_of_ne hab]

/-- A place around the altered one has its own value, altered further inside. -/
theorem follow?_alter_append (q : List String) {r : List String} (hr : r ≠ [])
    (f : Option Json → Json) (j : Json) :
    (alter f (q ++ r) j).follow? q = (j.follow? q).map (alter f r) := by
  induction q generalizing j with
  | nil => rfl
  | cons a q ih =>
    rw [List.cons_append, follow?_cons, follow?_cons, alter_cons]
    cases hc : j.child? a with
    | none =>
      cases h : q ++ r with
      | nil => exact absurd (List.append_eq_nil_iff.1 h).2 hr
      | cons b p => simp [alter?, hc]
    | some child =>
      rw [alter?_some, Option.elim_some, child?_setChild_self (hasRoom_of_child hc)]
      exact ih child

/-- Only the value at the place matters to an alteration. -/
theorem alter?_congr {p : List String} {j : Option Json}
    (h : f (j.bind (follow? p)) = g (j.bind (follow? p))) : alter? f p j = alter? g p j := by
  induction p generalizing j with
  | nil => cases j <;> simpa [alter?] using h
  | cons token p ih =>
    cases j with
    | none => rfl
    | some j => simp only [alter?, ih (j := j.child? token) (by simpa using h)]

theorem alter_congr {p : List String} {j : Json} (h : f (j.follow? p) = g (j.follow? p)) :
    alter f p j = alter g p j := by
  rw [alter, alter, alter?_congr (by simpa using h)]

theorem alter_of_child_eq_none {token : String} {p : List String} {j : Json}
    (hc : j.child? token = none) (hp : p ≠ []) (f : Option Json → Json) :
    alter f (token :: p) j = j := by
  cases p with
  | nil => exact absurd rfl hp
  | cons a p => rw [alter_cons, hc, alter?, Option.elim_none]

/-- Two alterations at one place are one. -/
theorem alter_alter_self (f g : Option Json → Json) (p : List String) (j : Json) :
    alter f p (alter g p j) = alter (fun v => f (some (g v))) p j := by
  induction p generalizing j with
  | nil => rfl
  | cons token p ih =>
    cases hc : j.child? token with
    | some child =>
      rw [alter_cons_of_child hc, alter_cons_of_child hc,
        alter_cons_of_child (child?_setChild_self (hasRoom_of_child hc) _), ih,
        setChild_setChild_self]
    | none =>
      cases p with
      | nil =>
        simp only [alter_singleton, hc]
        by_cases hr : HasRoom token j
        · rw [child?_setChild_self hr, setChild_setChild_self]
        · simp only [setChild_of_not_hasRoom hr]
      | cons a p =>
        have hp : a :: p ≠ [] := List.cons_ne_nil a p
        simp only [alter_of_child_eq_none hc hp]

/-- Alterations at places apart can change places. -/
theorem alter_comm {p q : List String} (h : Apart p q) (f g : Option Json → Json) (j : Json) :
    alter f p (alter g q j) = alter g q (alter f p j) := by
  induction p generalizing q j with
  | nil => exact absurd h (not_apart_nil q)
  | cons a p ih =>
    cases q with
    | nil => exact absurd h (not_apart_nil_right _)
    | cons b q =>
      by_cases hab : a = b
      · subst hab
        have hpq : Apart p q := (apart_cons.1 h).resolve_left (not_not_intro rfl)
        cases hc : j.child? a with
        | some child =>
          have hroom := hasRoom_of_child hc
          rw [alter_cons_of_child hc, alter_cons_of_child hc,
            alter_cons_of_child (child?_setChild_self hroom _),
            alter_cons_of_child (child?_setChild_self hroom _), setChild_setChild_self,
            setChild_setChild_self, ih hpq]
        | none =>
          have hp : p ≠ [] := by
            rintro rfl
            exact not_apart_nil q hpq
          have hq : q ≠ [] := by
            rintro rfl
            exact not_apart_nil_right p hpq
          simp only [alter_of_child_eq_none hc hp, alter_of_child_eq_none hc hq]
      · -- each of the two children is made from the document as it was
        have hx : (alter g (b :: q) j).child? a = j.child? a := by
          rw [alter_cons]
          cases alter? g q (j.child? b) with
          | none => rfl
          | some child => rw [Option.elim_some, child?_setChild_of_ne hab]
        have hy : (alter f (a :: p) j).child? b = j.child? b := by
          rw [alter_cons]
          cases alter? f p (j.child? a) with
          | none => rfl
          | some child => rw [Option.elim_some, child?_setChild_of_ne (Ne.symm hab)]
        rw [alter_cons f a p (alter g (b :: q) j), hx, alter_cons g b q (alter f (a :: p) j), hy,
          alter_cons, alter_cons]
        cases alter? f p (j.child? a) <;> cases alter? g q (j.child? b) <;>
          simp [setChild_comm hab]

/-! ### Adding -/

theorem add?_cons {token : String} {p : List String} {j child : Json} (hp : p ≠ [])
    (hc : j.child? token = some child) (value : Json) :
    add? value (token :: p) j = (add? value p child).map (j.setChild token) := by
  cases p with
  | nil => exact absurd rfl hp
  | cons a p =>
    have heq : add? value (token :: a :: p) j = (do
        let child ← j.child? token
        let child ← add? value (a :: p) child
        return j.setChild token child) := rfl
    rw [heq, hc]
    cases h : add? value (a :: p) child <;> simp [h]

/-- Adding a member sets it. -/
theorem add?_member {place : List String} {j : Json} (h : IsMember place j) (value : Json) :
    add? value place j = some (alter (fun _ => value) place j) := by
  induction place generalizing j with
  | nil =>
    obtain ⟨parent, name, members, he, -⟩ := h
    simp at he
  | cons token p ih =>
    rcases h.cases with ⟨name, members, he, rfl⟩ | ⟨token', p', child, he, hc, hm⟩
    · cases he
      rw [alter_singleton]
      rfl
    · cases he
      have hp : p ≠ [] := by
        rintro rfl
        obtain ⟨parent, name, members, he, -⟩ := hm
        simp at he
      rw [add?_cons hp hc, ih hm, alter_cons_of_child hc]
      rfl

/-- Adding at the end of a list puts the value behind its items. -/
theorem add?_end {place : List String} {j : Json} {items : List Json}
    (h : j.follow? place = some (.array items)) (value : Json) :
    add? value (place ++ ["-"]) j =
      some (alter (fun _ => .array (items ++ [value])) place j) := by
  induction place generalizing j with
  | nil =>
    cases h
    rfl
  | cons token p ih =>
    obtain ⟨child, hc, hp⟩ := Option.bind_eq_some_iff.1 h
    rw [List.cons_append, add?_cons (by simp) hc, ih hp, alter_cons_of_child hc]
    rfl

end SparkAdmission.Json
