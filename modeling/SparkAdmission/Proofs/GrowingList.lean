import SparkAdmission.GrowingList
import SparkAdmission.Proofs.Json.Location
import SparkAdmission.Proofs.Patch

/-!
# Growth of a list in a document

`grow` puts items behind those of a list, whether the list is there or not. An item that is pushed
on a `GrowingList` makes exactly that of a document in which the list stands as it is counted
(`Fits.run?_addition`), be it missing, `null`, empty or filled, and the count stays right
(`Fits.push`). So it is with any items that are pushed one after the other, at any place, and also
when their operations are written with the names of the place escaped (`run?_pushAll`).
-/

namespace SparkAdmission

namespace Json

/-- The items of a list that is an array, `null` or missing. -/
inductive IsList : Option Json → List Json → Prop
  | missing : IsList none []
  | null : IsList (some .null) []
  | array (items : List Json) : IsList (some (.array items)) items

theorem IsList.elim_items {v : Option Json} {xs : List Json} (h : IsList v xs) :
    v.elim [] Json.items = xs := by
  cases h <;> rfl

theorem IsList.eq_array {v : Option Json} {xs : List Json} (h : IsList v xs) (ne : xs ≠ []) :
    v = some (.array xs) := by
  cases h with
  | array items => rfl
  | _ => exact absurd rfl ne

/-- What stands in the place of a list with more items behind it; without any, what stood there. -/
def extended (added : List Json) (old : Option Json) : Option Json :=
  if added.isEmpty then old else some (.array (old.elim [] items ++ added))

/-- The document in which the list at a place has these items more. -/
def grow (place : List String) (added : List Json) (j : Json) : Json :=
  if added.isEmpty then j else j.alter (fun old => .array (old.elim [] items ++ added)) place

/-- The document with this value at a place. -/
def put (j : Json) (place : List String) (value : Json) : Json := j.alter (fun _ => value) place

@[simp] theorem grow_nil (place : List String) (j : Json) : j.grow place [] = j := rfl

theorem grow_cons (place : List String) (x : Json) (xs : List Json) (j : Json) :
    j.grow place (x :: xs) =
      j.alter (fun old => .array (old.elim [] items ++ x :: xs)) place := rfl

/-- Items can be added one after the other. -/
theorem grow_grow (place : List String) (first second : List Json) (j : Json) :
    (j.grow place first).grow place second = j.grow place (first ++ second) := by
  cases first with
  | nil => rfl
  | cons x xs =>
    cases second with
    | nil => rw [grow_nil, List.append_nil]
    | cons y ys =>
      rw [grow_cons, grow_cons, List.cons_append, grow_cons, alter_alter_self]
      simp [items]

/-- Lists at places apart grow independently. -/
theorem grow_comm {p q : List String} (h : Apart p q) (xs ys : List Json) (j : Json) :
    (j.grow q ys).grow p xs = (j.grow p xs).grow q ys := by
  unfold grow
  split
  · rfl
  · split
    · rfl
    · exact alter_comm h _ _ j

theorem follow?_grow_of_apart {p q : List String} (h : Apart p q) (added : List Json) (j : Json) :
    (j.grow p added).follow? q = j.follow? q := by
  unfold grow
  split
  · rfl
  · exact follow?_alter_of_apart h _ j

theorem follow?_put_of_apart {p q : List String} (h : Apart p q) (value : Json) (j : Json) :
    (j.put p value).follow? q = j.follow? q := follow?_alter_of_apart h _ j

theorem follow?_put_self {place : List String} {j : Json} (h : IsMember place j) (value : Json) :
    (j.put place value).follow? place = some value := follow?_alter_self h _

theorem follow?_grow_self {place : List String} {j : Json} (h : IsMember place j)
    (added : List Json) :
    (j.grow place added).follow? place = extended added (j.follow? place) := by
  unfold grow extended
  split
  · rfl
  · exact follow?_alter_self h _

/-- A list that grows becomes the array of its items and the added ones. -/
theorem IsList.grow_eq_put {place : List String} {j : Json} {xs added : List Json}
    (h : IsList (j.follow? place) xs) (ne : added ≠ []) :
    j.grow place added = j.put place (.array (xs ++ added)) := by
  rw [grow, if_neg (mt List.isEmpty_iff.1 ne), put]
  apply alter_congr
  rw [h.elim_items]

theorem isList_grow {place : List String} {j : Json} {xs : List Json} (hm : IsMember place j)
    (hl : IsList (j.follow? place) xs) (added : List Json) :
    IsList ((j.grow place added).follow? place) (xs ++ added) := by
  rw [follow?_grow_self hm, extended]
  split
  · rename_i he
    rw [List.isEmpty_iff.1 he, List.append_nil]
    exact hl
  · rw [hl.elim_items]
    exact .array _

/-- Altering the place itself or a place apart leaves a member a member. -/
theorem IsMember.alter {p q : List String} {j : Json} (h : IsMember q j) (hpq : Apart p q ∨ p = q)
    (f : Option Json → Json) : IsMember q (j.alter f p) := by
  induction q generalizing p j with
  | nil =>
    obtain ⟨parent, name, members, he, -⟩ := h
    simp at he
  | cons token q ih =>
    cases p with
    | nil => simp at hpq
    | cons a p =>
      rcases h.cases with ⟨name, members, he, rfl⟩ | ⟨token', q', child, he, hc, hm⟩
      · cases he
        -- an object stays an object, whichever of its members is set
        have hobject : ∃ members', (Json.object members).alter f (a :: p) = .object members' := by
          rw [alter_cons]
          cases alter? f p ((Json.object members).child? a) with
          | none => exact ⟨members, rfl⟩
          | some child => exact ⟨_, rfl⟩
        obtain ⟨members', ho⟩ := hobject
        exact ⟨[], token, members', rfl, by rw [ho, follow?_nil]⟩
      · cases he
        by_cases hat : token = a
        · subst hat
          have hpq' : Apart p q ∨ p = q := by
            rcases hpq with ha | he
            · exact .inl ((apart_cons.1 ha).resolve_left (not_not_intro rfl))
            · exact .inr (List.cons.inj he).2
          rw [alter_cons_of_child hc]
          exact isMember_cons (child?_setChild_self (hasRoom_of_child hc) _) (ih hm hpq')
        · have hc' : (j.alter f (a :: p)).child? token = some child := by
            rw [alter_cons]
            cases alter? f p (j.child? a) with
            | none => exact hc
            | some c => rw [Option.elim_some, child?_setChild_of_ne hat, hc]
          exact isMember_cons hc' hm

theorem IsMember.grow {p q : List String} {j : Json} (h : IsMember q j) (hpq : Apart p q ∨ p = q)
    (added : List Json) : IsMember q (j.grow p added) := by
  unfold Json.grow
  split
  · exact h
  · exact h.alter hpq _

end Json

namespace GrowingList

open Json

/-- The list stands in the document with these items, and as many are counted. -/
structure Fits (list : GrowingList) (doc : Json) (items : List Json) : Prop where
  isMember : IsMember list.path.tokens doc
  isList : IsList (doc.follow? list.path.tokens) items
  length_eq : list.length = items.length

variable {list : GrowingList} {doc : Json} {items : List Json}

/-- The operation of an item appends it, whether the list is created by it or not. -/
theorem Fits.run?_addition (h : list.Fits doc items) (item : Json) :
    (list.addition item).run? doc = some (doc.grow list.path.tokens [item]) := by
  cases items with
  | nil =>
    have hlength : list.length = 0 := h.length_eq
    have hcreate : list.addition item = ⟨list.path, .array [item]⟩ := by
      rw [addition, hlength]
      rfl
    rw [hcreate, Add.run?, add?_member h.isMember, h.isList.grow_eq_put (List.cons_ne_nil _ _)]
    rfl
  | cons x xs =>
    have hlength : list.length = xs.length + 1 := h.length_eq
    have happend : list.addition item = ⟨⟨list.path.tokens ++ ["-"]⟩, item⟩ := by
      rw [addition, hlength]
      rfl
    have harray := h.isList.eq_array (List.cons_ne_nil x xs)
    rw [happend, Add.run?, add?_end harray, h.isList.grow_eq_put (List.cons_ne_nil _ _)]
    rfl

/-- The count goes along with the document. -/
theorem Fits.push (h : list.Fits doc items) (item : Json) :
    (list.push item).2.Fits (doc.grow list.path.tokens [item]) (items ++ [item]) where
  isMember := h.isMember.grow (.inr rfl) [item]
  isList := isList_grow h.isMember h.isList [item]
  length_eq := by simp [GrowingList.push, h.length_eq]

/-- A list stands in every document that has the same in its place. -/
theorem Fits.congr (h : list.Fits doc items) {other : Json}
    (hm : IsMember list.path.tokens other)
    (heq : other.follow? list.path.tokens = doc.follow? list.path.tokens) :
    list.Fits other items where
  isMember := hm
  isList := by
    rw [heq]
    exact h.isList
  length_eq := h.length_eq

/-- The list is counted as empty exactly when it has no items. -/
theorem Fits.isEmpty_iff (h : list.Fits doc items) : list.isEmpty ↔ items = [] := by
  rw [isEmpty, beq_iff_eq, h.length_eq, List.length_eq_zero_iff]

/-! ### Items one after the other -/

/-- The operations of items that are pushed in order. -/
def operations (list : GrowingList) (added : List Json) : Patch := (list.pushAll added).map Prod.fst

/-- The list before the first of the items that are pushed, and behind each of them. -/
def states (list : GrowingList) (added : List Json) : List GrowingList :=
  list :: (list.pushAll added).map Prod.snd

theorem operations_cons (list : GrowingList) (item : Json) (added : List Json) :
    list.operations (item :: added) =
      list.addition item :: (list.push item).2.operations added := rfl

theorem states_cons (list : GrowingList) (item : Json) (added : List Json) :
    list.states (item :: added) = list :: (list.push item).2.states added := rfl

theorem push_path (list : GrowingList) (item : Json) : (list.push item).2.path = list.path := rfl

theorem length_pushAll (list : GrowingList) (added : List Json) :
    (list.pushAll added).length = added.length := by
  induction added generalizing list with
  | nil => rfl
  | cons item added ih => rw [pushAll, List.length_cons, List.length_cons, ih]

theorem length_operations (list : GrowingList) (added : List Json) :
    (list.operations added).length = added.length := by
  rw [operations, List.length_map, length_pushAll]

theorem length_states (list : GrowingList) (added : List Json) :
    (list.states added).length = added.length + 1 := by
  rw [states, List.length_cons, List.length_map, length_pushAll]

/-- The first operations are those of the first items. -/
theorem take_operations (list : GrowingList) (added : List Json) (n : Nat) :
    (list.operations added).take n = list.operations (added.take n) := by
  induction n generalizing list added with
  | zero => rfl
  | succ n ih =>
    cases added with
    | nil => rfl
    | cons item added =>
      rw [operations_cons, List.take_succ_cons, List.take_succ_cons, operations_cons, ih]

/-- Items that are pushed one after the other are appended in their order. -/
theorem Fits.run?_operations (h : list.Fits doc items) (added : List Json) :
    Patch.run? (list.operations added) doc = some (doc.grow list.path.tokens added) := by
  induction added generalizing list doc items with
  | nil => rfl
  | cons item added ih =>
    rw [operations_cons, Patch.run?_cons, h.run?_addition, Option.bind_some, ih (h.push item),
      push_path, grow_grow, List.singleton_append]

/-- In every state the list is counted as the operations so far leave it. -/
theorem Fits.state (h : list.Fits doc items) {added : List Json} {n : Nat} {state : GrowingList}
    (hn : (list.states added)[n]? = some state) :
    state.Fits (doc.grow list.path.tokens (added.take n)) (items ++ added.take n) := by
  induction n generalizing list doc items added with
  | zero =>
    cases hn
    rw [List.take_zero, grow_nil, List.append_nil]
    exact h
  | succ n ih =>
    cases added with
    | nil => cases hn
    | cons item added =>
      rw [states_cons, List.getElem?_cons_succ] at hn
      have hnext := ih (h.push item) hn
      rw [push_path, grow_grow, List.append_assoc, List.singleton_append] at hnext
      exact hnext

/-- Items of any kind are pushed on a list that stands at any place in a document, as an array,
`null` or missing, and is counted as it stands there. Their operations, one for each item, are read
back as they are written, with the names of the place escaped, and apply in their order. They leave
the list as the array of its own items and the pushed ones, and the document around it as it was;
behind each item the list is counted as it stands in the document then. -/
theorem run?_pushAll {tokens : List String} {doc : Json} {items : List Json}
    (hmember : IsMember tokens doc) (hlist : IsList (doc.follow? tokens) items)
    (added : List Json) :
    let list : GrowingList := ⟨⟨tokens⟩, items.length⟩
    (list.operations added).length = added.length ∧
      (∃ doc', (Patch.ofJson? (Patch.toJson (list.operations added))).bind (Patch.run? · doc) =
          some doc' ∧
        doc' = (if added = [] then doc else doc.put tokens (.array (items ++ added))) ∧
        IsList (doc'.follow? tokens) (items ++ added) ∧
        ∀ other, Apart tokens other → doc'.follow? other = doc.follow? other) ∧
      ∀ n ≤ added.length, ∃ state doc', (list.states added)[n]? = some state ∧
        Patch.run? ((list.operations added).take n) doc = some doc' ∧
        IsList (doc'.follow? tokens) (items ++ added.take n) ∧
        state.length = (items ++ added.take n).length ∧
        (state.isEmpty ↔ (items ++ added.take n).length = 0) := by
  intro list
  have hfits : list.Fits doc items := ⟨hmember, hlist, rfl⟩
  refine ⟨length_operations list added, ⟨doc.grow tokens added, ?_, ?_, ?_, ?_⟩, fun n hn => ?_⟩
  · rw [Patch.ofJson?_toJson, Option.bind_some]
    exact hfits.run?_operations added
  · split
    · rename_i hnil
      rw [hnil, grow_nil]
    · rename_i hne
      exact hlist.grow_eq_put hne
  · exact isList_grow hmember hlist added
  · exact fun other hapart => follow?_grow_of_apart hapart added doc
  · obtain ⟨state, hstate⟩ : ∃ state, (list.states added)[n]? = some state :=
      ⟨_, List.getElem?_eq_getElem (by rw [length_states]; exact Nat.lt_succ_of_le hn)⟩
    have hnow := hfits.state hstate
    refine ⟨state, doc.grow tokens (added.take n), hstate, ?_,
      isList_grow hmember hlist _, hnow.length_eq, ?_⟩
    · rw [take_operations]
      exact hfits.run?_operations _
    · rw [hnow.isEmpty_iff, List.length_eq_zero_iff]

/-- A document with names that are escaped in pointers, and a `null` under the empty name. -/
def escapedDocument : Json :=
  .object [("~/", .array [.object [("", .null), ("kept", .bool true)]])]

/-- A list and a `null` become the items of a list that was `null`. -/
theorem run?_pushAll_sample :
    IsMember ["~/", "0", ""] escapedDocument ∧
      IsList (escapedDocument.follow? ["~/", "0", ""]) [] ∧
      ∃ doc', (Patch.ofJson? (Patch.toJson
          (operations ⟨⟨["~/", "0", ""]⟩, 0⟩ [.array [], .null]))).bind
            (Patch.run? · escapedDocument) = some doc' ∧
        doc'.follow? ["~/", "0", ""] = some (.array [.array [], .null]) ∧
        doc'.follow? ["~/", "0", "kept"] = some (.bool true) := by
  have hmember : IsMember ["~/", "0", ""] escapedDocument := ⟨["~/", "0"], "", _, rfl, rfl⟩
  have hlist : IsList (escapedDocument.follow? ["~/", "0", ""]) [] := .null
  obtain ⟨-, ⟨doc', hrun, hdoc, -, hapart⟩, -⟩ := run?_pushAll hmember hlist [.array [], .null]
  refine ⟨hmember, hlist, doc', hrun, ?_, ?_⟩
  · rw [hdoc, if_neg (List.cons_ne_nil _ _), follow?_put_self hmember]
    rfl
  · rw [hapart _ (by simp)]
    rfl

example : (operations ⟨⟨["~/", "0", ""]⟩, 0⟩ [.array [], .null]).map (·.path.text) =
    ["/~0~1/0/", "/~0~1/0//-"] := by decide

end GrowingList

end SparkAdmission
