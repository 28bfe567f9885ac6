import SparkAdmission.Proofs.PatchedPod

/-!
# The patch of a pod that is patched already

A pod that is admitted a second time, with the patch in it, gets every item once more, in the same
order and in the same container. Its lists are there by then, so nothing is created, and it has
every setting that its application declares, so none is made. `derivePatch_again` says what becomes
of each operation.
-/

namespace SparkAdmission

open Json

/-- The operation as it is made when everything is there that it makes: a setting is not made again,
and the item of a list that it creates is appended. -/
def Add.again? (op : Add) : Option Add :=
  if op.path.tokens = PodSetting.affinity.place ∨
      op.path.tokens = PodSetting.securityContext.place then none
  else if op.path.tokens.getLast? = some "-" then some op
  else
    match op.value with
    | .array [item] => some (.append op.path.tokens item)
    | _ => some op

namespace Change

/-- The operation of a change to a pod that has all lists and settings. -/
def appended? (container : Nat) : Change → Option Add
  | .item list value => some (.append (PodLists.place container list) value)
  | .setting _ _ => none

theorem again?_operation (container : Nat) (items : PodList → List Json) (change : Change) :
    (change.operation container items).again? = change.appended? container := by
  cases change with
  | item list value =>
    have hcreate : (Add.create (PodLists.place container list) value).again? =
        some (.append (PodLists.place container list) value) := by
      cases list <;>
        simp [Add.again?, Add.create, PodLists.place, PodSetting.place, PodSetting.name]
    have happend : (Add.append (PodLists.place container list) value).again? =
        some (.append (PodLists.place container list) value) := by
      cases list <;>
        simp [Add.again?, Add.append, PodLists.place, PodSetting.place, PodSetting.name]
    rw [operation, Add.toList, appended?]
    split
    · exact hcreate
    · exact happend
  | setting s value => cases s <;> simp [operation, appended?, Add.again?]

end Change

namespace Counts

variable {lists : PodLists} {container : Nat} {items : PodList → List Json}

/-- What is made again of the operations of changes does not depend on the lists. -/
theorem filterMap_again?_performAll (h : Counts lists container items) (changes : List Change) :
    (lists.performAll changes).1.filterMap Add.again? =
      changes.filterMap (Change.appended? container) := by
  induction changes generalizing lists items with
  | nil => rfl
  | cons change changes ih =>
    rw [PodLists.performAll_cons, List.filterMap_cons, List.filterMap_cons, h.perform_fst,
      Change.again?_operation, ih (h.perform change)]

/-- Items for lists that are not empty are appended. -/
theorem performAll_of_ne_nil (h : Counts lists container items) {changes : List Change}
    (hitem : ∀ change ∈ changes, ∃ list value, change = .item list value ∧ items list ≠ []) :
    (lists.performAll changes).1 = changes.filterMap (Change.appended? container) := by
  induction changes generalizing lists items with
  | nil => rfl
  | cons change changes ih =>
    rw [List.forall_mem_cons] at hitem
    obtain ⟨⟨list, value, rfl, hne⟩, hrest⟩ := hitem
    have happend : (Change.item list value).operation container items =
        .append (PodLists.place container list) value := by
      rw [Change.operation, Add.toList, if_neg (by simpa using hne)]
    -- an item more leaves every list that is not empty as filled as it was, or more
    have hstill : ∀ change ∈ changes, ∃ other v, change = .item other v ∧
        items other ++ (Change.item list value).addedTo other ≠ [] := by
      intro change hc
      obtain ⟨other, v, rfl, hother⟩ := hrest change hc
      exact ⟨other, v, rfl, List.append_ne_nil_of_left_ne_nil hother _⟩
    rw [PodLists.performAll_cons, h.perform_fst, happend, ih (h.perform _) hstill]
    rfl

end Counts

namespace Patched

variable {pod patched : Pod} {app : Application} {role : Role} {settings : Settings}
  {container : Nat}

/-- The changes to a patched pod are the items once more. -/
theorem all_eq_items (h : Patched pod app role settings container patched) :
    Changes.all patched app role settings = Changes.items app role settings := by
  rw [Changes.all_eq_items_append, h.given_eq_none, h.given_eq_none]
  simp

/-- A list that items are added to once more is not empty. -/
theorem ne_nil_of_mem_items (h : Patched pod app role settings container patched)
    {list : PodList} {value : Json} (hc : .item list value ∈ Changes.items app role settings) :
    PodLists.itemsIn patched container list ≠ [] := by
  rw [h.itemsIn_eq]
  rw [← h.all_eq_items] at hc
  exact List.append_ne_nil_of_right_ne_nil _
    (List.ne_nil_of_mem (Changes.mem_additions_of_mem_all hc))

/-- The operations for a patched pod are appends, one for each item. -/
theorem performAll_patched (h : Patched pod app role settings container patched) :
    ((PodLists.ofPod patched container).performAll (Changes.all patched app role settings)).1 =
      (Changes.items app role settings).filterMap (Change.appended? container) := by
  rw [h.all_eq_items]
  refine (Counts.ofPod patched container).performAll_of_ne_nil fun change hc => ?_
  obtain ⟨list, value, rfl⟩ := Changes.isItem_of_mem_items hc
  exact ⟨list, value, rfl, h.ne_nil_of_mem_items hc⟩

end Patched

theorem Changes.filterMap_appended?_all (pod : Pod) (app : Application) (role : Role)
    (settings : Settings) (container : Nat) :
    (all pod app role settings).filterMap (Change.appended? container) =
      (items app role settings).filterMap (Change.appended? container) := by
  rw [all_eq_items_append, List.filterMap_append, List.filterMap_append]
  cases given pod app role .affinity <;> cases given pod app role .securityContext <;>
    simp [Change.appended?]

/-- A second derivation, on the pod that is read from the patched document, finds the same Spark
container and makes the operations of the first one again, in their order: without those that make
a setting, and with an append in place of each that creates a list. Nothing but appends is made,
and every list gets the items of the application once more. -/
theorem derivePatch_again {pod : Pod} {app : Application} {role : Role} {settings : Settings}
    {ops : Patch} (h : derivePatch pod app role settings = .ok ops) :
    ∃ doc, Patch.run? ops pod.json = some doc ∧
      ∃ patched : Pod, Reader.value Document.read doc = some patched ∧
        ∃ container, pod.sparkContainer settings = .ok container ∧
          patched.sparkContainer settings = .ok container ∧
          derivePatch patched app role settings = .ok (ops.filterMap Add.again?) ∧
          (∀ op ∈ ops.filterMap Add.again?, ∃ list item,
            op = .append (PodLists.place container list) item) ∧
          ∀ list, (ops.filterMap Add.again?).filter (·.isIn (PodLists.place container list)) =
            (Changes.additions app role settings list).map
              (.append (PodLists.place container list)) := by
  obtain ⟨container, patched, hpatched, hrun, hread⟩ := exists_patched h
  have hops : ops = ((PodLists.ofPod pod container).performAll
      (Changes.all pod app role settings)).1 := by
    obtain ⟨other, hother, rfl⟩ := derivePatch_eq_ok_iff.1 h
    rw [Except.ok.inj (hother.symm.trans hpatched.sparkContainer_eq)]
  have hagain : ops.filterMap Add.again? =
      ((PodLists.ofPod patched container).performAll
        (Changes.all patched app role settings)).1 := by
    rw [hops, (Counts.ofPod pod container).filterMap_again?_performAll,
      Changes.filterMap_appended?_all, hpatched.performAll_patched]
  refine ⟨_, hrun, patched, hread, container, hpatched.sparkContainer_eq,
    hpatched.sparkContainer_patched,
    derivePatch_eq_ok_iff.2 ⟨container, hpatched.sparkContainer_patched, hagain⟩, ?_,
    fun list => ?_⟩
  · intro op hop
    rw [hagain, hpatched.performAll_patched] at hop
    obtain ⟨change, hc, happended⟩ := List.mem_filterMap.1 hop
    obtain ⟨list, value, rfl⟩ := Changes.isItem_of_mem_items hc
    exact ⟨list, value, (Option.some.inj happended).symm⟩
  · rw [hagain, (Counts.ofPod patched container).filter_performAll, Changes.addedTo_all]
    by_cases hnil : Changes.additions app role settings list = []
    · rw [hnil]
      rfl
    · apply Patch.growth_of_ne_nil
      rw [hpatched.itemsIn_eq]
      exact List.append_ne_nil_of_right_ne_nil _ hnil

/-- The sample driver gets its owner reference, which its list is created for, once more. -/
theorem derivePatch_again_sample :
    ∃ ops doc, derivePatch samplePod sampleApplication .driver {} = .ok ops ∧
      Patch.run? ops samplePod.json = some doc ∧
      ∃ patched : Pod, Reader.value Document.read doc = some patched ∧
        ops.head? = some (.create ["metadata", "ownerReferences"]
          sampleApplication.ownerReference) ∧
        ∃ again, derivePatch patched sampleApplication .driver {} = .ok again ∧
          again.head? = some (.append ["metadata", "ownerReferences"]
            sampleApplication.ownerReference) ∧
          ops.length = 10 ∧ again.length = 9 := by
  obtain ⟨doc, hrun, patched, hread, -, -, -, hagain, -⟩ := derivePatch_again
    (rfl : derivePatch samplePod sampleApplication .driver {} = .ok _)
  exact ⟨_, doc, rfl, hrun, patched, hread, rfl, _, hagain, rfl, rfl, rfl⟩

end SparkAdmission
