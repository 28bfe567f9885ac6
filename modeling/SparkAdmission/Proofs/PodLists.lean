import SparkAdmission.PodLists
import SparkAdmission.Proofs.GrowingList

/-!
# Changes to a pod document

The five lists and two settings of a pod stand at places apart from each other. A document is
*tracked* by the state of the lists when every list stands in it as it is counted. Then the
operation of a change does to the document what the change says (`Tracks.run?_perform`) and the
document stays tracked (`Tracks.perform`); by induction the same holds of any changes in any order
(`Tracks.run?_performAll`, `Tracks.performAll`). What changes make of a document is described place
by place (`follow?_applyAll_list`, `follow?_applyAll_setting`, `follow?_applyAll_of_apart`), and as
a whole where they only add items (`PodLists.applyAll_items`).
-/

namespace SparkAdmission

open Json

/-- Where a setting is. -/
def PodSetting.place (setting : PodSetting) : List String := ["spec", setting.name]

namespace PodLists

theorem place_apart {list other : PodList} (h : list ≠ other) (container : Nat) :
    Apart (place container list) (place container other) := by
  cases list <;> cases other <;> first | exact absurd rfl h | simp [place]

theorem place_apart_setting (container : Nat) (list : PodList) (setting : PodSetting) :
    Apart (place container list) setting.place := by
  cases list <;> cases setting <;> simp [place, PodSetting.place, PodSetting.name]

theorem setting_apart {setting other : PodSetting} (h : setting ≠ other) :
    Apart setting.place other.place := by
  cases setting <;> cases other <;>
    first | exact absurd rfl h | simp [PodSetting.place, PodSetting.name]

end PodLists

/-! ### What a change does -/

namespace Change

/-- The place that is changed, for the Spark container of that index. -/
def place (container : Nat) : Change → List String
  | .item list _ => PodLists.place container list
  | .setting s _ => s.place

/-- The document after the change. -/
def apply (container : Nat) (doc : Json) : Change → Json
  | .item list value => doc.grow (PodLists.place container list) [value]
  | .setting s value => doc.put s.place value

/-- The document after changes in order. -/
def applyAll (container : Nat) (doc : Json) (changes : List Change) : Json :=
  changes.foldl (apply container) doc

/-- The items that a change adds to a list. -/
def addedTo (list : PodList) : Change → List Json
  | .item other value => if other = list then [value] else []
  | .setting _ _ => []

/-- The values that a change gives to a setting. -/
def givenTo (setting : PodSetting) : Change → List Json
  | .item _ _ => []
  | .setting other value => if other = setting then [value] else []

variable {container : Nat} {doc : Json}

@[simp] theorem applyAll_nil : applyAll container doc [] = doc := rfl

@[simp] theorem applyAll_cons (change : Change) (changes : List Change) :
    applyAll container doc (change :: changes) =
      applyAll container (apply container doc change) changes := rfl

theorem applyAll_append (first second : List Change) :
    applyAll container doc (first ++ second) =
      applyAll container (applyAll container doc first) second := List.foldl_append

/-- A change leaves the places apart from its own. -/
theorem follow?_apply_of_apart {change : Change} {q : List String}
    (h : Apart (change.place container) q) :
    (change.apply container doc).follow? q = doc.follow? q := by
  cases change with
  | item list value => exact follow?_grow_of_apart h _ _
  | setting s value => exact follow?_put_of_apart h _ _

/-- Changes leave the places apart from all of theirs. -/
theorem follow?_applyAll_of_apart {changes : List Change} {q : List String}
    (h : ∀ change ∈ changes, Apart (change.place container) q) :
    (applyAll container doc changes).follow? q = doc.follow? q := by
  induction changes generalizing doc with
  | nil => rfl
  | cons change changes ih =>
    rw [applyAll_cons, ih fun c hc => h c (List.mem_cons_of_mem _ hc),
      follow?_apply_of_apart (h change List.mem_cons_self)]

/-- A change leaves lists and settings members of objects. -/
theorem isMember_apply {q : List String} (h : IsMember q doc) {change : Change}
    (hq : Apart (change.place container) q ∨ change.place container = q) :
    IsMember q (change.apply container doc) := by
  cases change with
  | item list value => exact h.grow hq _
  | setting s value => exact h.alter hq _

theorem place_list (container : Nat) (change : Change) (list : PodList) :
    (Apart (change.place container) (PodLists.place container list) ∧ change.addedTo list = []) ∨
      ∃ value, change = .item list value := by
  cases change with
  | item other value =>
    by_cases h : other = list
    · exact .inr ⟨value, by rw [h]⟩
    · exact .inl ⟨PodLists.place_apart h container, if_neg h⟩
  | setting s value =>
    exact .inl ⟨(PodLists.place_apart_setting container list s).symm, rfl⟩

theorem place_setting (container : Nat) (change : Change) (setting : PodSetting) :
    (Apart (change.place container) setting.place ∧ change.givenTo setting = []) ∨
      ∃ value, change = .setting setting value := by
  cases change with
  | item list value => exact .inl ⟨PodLists.place_apart_setting container list setting, rfl⟩
  | setting other value =>
    by_cases h : other = setting
    · exact .inr ⟨value, by rw [h]⟩
    · exact .inl ⟨PodLists.setting_apart h, if_neg h⟩

theorem isMember_apply_list {list : PodList} (h : IsMember (PodLists.place container list) doc)
    (change : Change) : IsMember (PodLists.place container list) (change.apply container doc) := by
  rcases change.place_list container list with ⟨hp, -⟩ | ⟨value, rfl⟩
  · exact isMember_apply h (.inl hp)
  · exact isMember_apply h (.inr rfl)

theorem isMember_apply_setting {setting : PodSetting} (h : IsMember setting.place doc)
    (change : Change) : IsMember setting.place (change.apply container doc) := by
  rcases change.place_setting container setting with ⟨hp, -⟩ | ⟨value, rfl⟩
  · exact isMember_apply h (.inl hp)
  · exact isMember_apply h (.inr rfl)

theorem extended_extended (first second : List Json) (old : Option Json) :
    extended second (extended first old) = extended (first ++ second) old := by
  cases first with
  | nil => rfl
  | cons x xs =>
    cases second with
    | nil => rw [List.append_nil]; rfl
    | cons y ys => simp [extended, items]

/-- A list has the items of all changes behind its own, in the order of the changes. -/
theorem follow?_applyAll_list {list : PodList}
    (h : IsMember (PodLists.place container list) doc) (changes : List Change) :
    (applyAll container doc changes).follow? (PodLists.place container list) =
      extended (changes.flatMap (addedTo list)) (doc.follow? (PodLists.place container list)) := by
  induction changes generalizing doc with
  | nil => rfl
  | cons change changes ih =>
    rw [applyAll_cons, ih (isMember_apply_list h change), List.flatMap_cons, ← extended_extended]
    congr 1
    rcases change.place_list container list with ⟨hp, he⟩ | ⟨value, rfl⟩
    · rw [follow?_apply_of_apart hp, he]
      rfl
    · rw [addedTo, if_pos rfl]
      exact follow?_grow_self h _

/-- A setting has the value that it is given last, else the one that it had. -/
theorem follow?_applyAll_setting {setting : PodSetting} (h : IsMember setting.place doc)
    (changes : List Change) :
    (applyAll container doc changes).follow? setting.place =
      (changes.flatMap (givenTo setting)).getLast?.or (doc.follow? setting.place) := by
  induction changes generalizing doc with
  | nil => rfl
  | cons change changes ih =>
    rw [applyAll_cons, ih (isMember_apply_setting h change), List.flatMap_cons,
      List.getLast?_append, Option.or_assoc]
    congr 1
    rcases change.place_setting container setting with ⟨hp, he⟩ | ⟨value, rfl⟩
    · rw [follow?_apply_of_apart hp, he]
      rfl
    · rw [givenTo, if_pos rfl]
      exact follow?_put_self h value

end Change

/-! ### All lists at once -/

/-- The lists of a pod. -/
def PodList.all : List PodList := [.ownerReferences, .volumes, .volumeMounts, .env, .tolerations]

namespace PodLists

/-- The document in which each of these lists has its items more. -/
def growLists (container : Nat) (added : PodList → List Json) (lists : List PodList) (doc : Json) :
    Json :=
  lists.foldl (fun doc list => doc.grow (place container list) (added list)) doc

variable {container : Nat} {added : PodList → List Json}

/-- A list that is none of these may grow before or after them. -/
theorem growLists_grow {list : PodList} {lists : List PodList} (h : list ∉ lists) (xs : List Json)
    (doc : Json) :
    growLists container added lists (doc.grow (place container list) xs) =
      (growLists container added lists doc).grow (place container list) xs := by
  induction lists generalizing doc with
  | nil => rfl
  | cons other lists ih =>
    rw [List.mem_cons, not_or] at h
    rw [growLists, List.foldl_cons, grow_comm (place_apart (Ne.symm h.1) container)]
    exact ih h.2 _

/-- The items can be added in two turns. -/
theorem growLists_growLists (first second : PodList → List Json) {lists : List PodList}
    (nodup : lists.Nodup) (doc : Json) :
    growLists container second lists (growLists container first lists doc) =
      growLists container (fun list => first list ++ second list) lists doc := by
  induction lists generalizing doc with
  | nil => rfl
  | cons list lists ih =>
    rw [List.nodup_cons] at nodup
    have hfirst : growLists container first (list :: lists) doc =
        (growLists container first lists doc).grow (place container list) (first list) :=
      growLists_grow nodup.1 _ doc
    rw [hfirst, growLists, List.foldl_cons, grow_grow, ← growLists_grow nodup.1]
    exact ih nodup.2 _

/-- Changes that only add items give every list its items, whatever their order. -/
theorem applyAll_items {changes : List Change}
    (h : ∀ change ∈ changes, ∃ list value, change = .item list value) (doc : Json) :
    Change.applyAll container doc changes =
      growLists container (fun list => changes.flatMap (Change.addedTo list)) PodList.all doc := by
  induction changes generalizing doc with
  | nil => rfl
  | cons change changes ih =>
    rw [List.forall_mem_cons] at h
    obtain ⟨⟨list, value, rfl⟩, h⟩ := h
    have hone : (Change.item list value).apply container doc =
        growLists container (fun other => (Change.item list value).addedTo other)
          PodList.all doc := by
      cases list <;> rfl
    rw [Change.applyAll_cons, ih h, hone, growLists_growLists _ _ (by decide)]
    rfl

end PodLists

/-! ### Tracking -/

/-- Every list stands in the document as it is counted, with these items, and the settings can be
made in it. -/
structure Tracks (lists : PodLists) (container : Nat) (doc : Json) (items : PodList → List Json) :
    Prop where
  path_eq : ∀ list, (lists.get list).path = ⟨PodLists.place container list⟩
  fits : ∀ list, (lists.get list).Fits doc (items list)
  isMember_setting : ∀ setting : PodSetting, IsMember setting.place doc

namespace Tracks

variable {lists : PodLists} {container : Nat} {doc : Json} {items : PodList → List Json}

theorem isMember_list (h : Tracks lists container doc items) (list : PodList) :
    IsMember (PodLists.place container list) doc := by
  have := (h.fits list).isMember
  rwa [h.path_eq list] at this

/-- The operation of a change does what the change says. -/
theorem run?_perform (h : Tracks lists container doc items) (change : Change) :
    (lists.perform change).1.run? doc = some (change.apply container doc) := by
  cases change with
  | item list value =>
    have hrun := (h.fits list).run?_addition value
    rwa [h.path_eq list] at hrun
  | setting s value => exact add?_member (h.isMember_setting s) value

/-- A change counts in the list that it adds to and in no other. -/
theorem get_perform_of_addedTo_eq_nil {change : Change} {list : PodList}
    (h : change.addedTo list = []) : (lists.perform change).2.get list = lists.get list := by
  cases change with
  | item other value =>
    have hne : list ≠ other := by
      rintro rfl
      simp [Change.addedTo] at h
    exact PodLists.get_set_of_ne hne _ _
  | setting s value => rfl

/-- A change leaves the document tracked by the lists after it. -/
theorem perform (h : Tracks lists container doc items) (change : Change) :
    Tracks (lists.perform change).2 container (change.apply container doc)
      (fun list => items list ++ change.addedTo list) := by
  have hmember := fun list => Change.isMember_apply_list (h.isMember_list list) change
  refine ⟨fun list => ?_, fun list => ?_, fun s =>
    Change.isMember_apply_setting (h.isMember_setting s) change⟩
  · rcases change.place_list container list with ⟨-, he⟩ | ⟨value, rfl⟩
    · rw [get_perform_of_addedTo_eq_nil he, h.path_eq]
    · simp [PodLists.perform, GrowingList.push, h.path_eq]
  · rcases change.place_list container list with ⟨hp, he⟩ | ⟨value, rfl⟩
    · rw [get_perform_of_addedTo_eq_nil he, he, List.append_nil]
      apply (h.fits list).congr
      · rw [h.path_eq]
        exact hmember list
      · rw [h.path_eq]
        exact Change.follow?_apply_of_apart hp
    · have hpush := (h.fits list).push value
      rw [h.path_eq] at hpush
      simpa [PodLists.perform, Change.addedTo, Change.apply] using hpush

/-- The operations of changes do in order what the changes say. -/
theorem run?_performAll (h : Tracks lists container doc items) (changes : List Change) :
    Patch.run? (lists.performAll changes).1 doc = some (Change.applyAll container doc changes) := by
  induction changes generalizing lists doc items with
  | nil => rfl
  | cons change changes ih =>
    rw [PodLists.performAll_cons, Patch.run?_cons, h.run?_perform, Option.bind_some,
      ih (h.perform change), Change.applyAll_cons]

/-- Changes leave the document tracked by the lists after them. -/
theorem performAll (h : Tracks lists container doc items) (changes : List Change) :
    Tracks (lists.performAll changes).2 container (Change.applyAll container doc changes)
      (fun list => items list ++ changes.flatMap (Change.addedTo list)) := by
  induction changes generalizing lists doc items with
  | nil => simpa using h
  | cons change changes ih =>
    rw [PodLists.performAll_cons]
    simpa using ih (h.perform change)

end Tracks

end SparkAdmission
