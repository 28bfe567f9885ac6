import SparkAdmission.Proofs.Derivation

/-!
# Steps in any order

A patch is made in steps that share the lists of the pod. `run?_runAll` says that the steps may be
made in any order and as often as one likes, each for its own application, role and settings, and
with items of any kind in between: after every step the operations so far apply, every list is
counted as it stands in the patched document, and holds its own items and then those that the
steps added to it, in their order.
-/

namespace SparkAdmission

open Json

/-- A step in the making of a patch. -/
inductive Step where
  | ownerReference (app : Application) (role : Role)
  | volumes (app : Application) (role : Role)
  | configMounts (app : Application) (role : Role) (settings : Settings)
  | sparkConf (app : Application) (settings : Settings)
  | hadoopConf (app : Application) (settings : Settings)
  | tolerations (app : Application) (role : Role)
  | affinity (app : Application) (role : Role)
  | security (app : Application) (role : Role)
  /-- An item of any kind, added to a list as it is. -/
  | add (list : PodList) (item : Json)

namespace Step

/-- The changes of a step. -/
def changes (pod : Pod) : Step → List Change
  | .ownerReference app role => Changes.ownerReference app role
  | .volumes app role => Changes.volumes app role
  | .configMounts app role settings => Changes.configMounts app role settings
  | .sparkConf app settings => Changes.sparkConf app settings
  | .hadoopConf app settings => Changes.hadoopConf app settings
  | .tolerations app role => Changes.tolerations app role
  | .affinity app role => Changes.affinity pod app role
  | .security app role => Changes.security pod app role
  | .add list item => [.item list item]

/-- The operations of a step, and the lists after it. -/
def run (pod : Pod) (lists : PodLists) (step : Step) : Patch × PodLists :=
  lists.performAll (step.changes pod)

/-- The operations of steps made one after the other, and the lists after them. -/
def runAll (pod : Pod) (lists : PodLists) : List Step → Patch × PodLists
  | [] => ([], lists)
  | step :: steps =>
    let (ops, next) := step.run pod lists
    let (more, last) := runAll pod next steps
    (ops ++ more, last)

/-- The items that steps add to a list, in their order. -/
def added (pod : Pod) (list : PodList) (steps : List Step) : List Json :=
  steps.flatMap fun step => (step.changes pod).flatMap (Change.addedTo list)

@[simp] theorem runAll_nil (pod : Pod) (lists : PodLists) : runAll pod lists [] = ([], lists) := rfl

theorem runAll_cons (pod : Pod) (lists : PodLists) (step : Step) (steps : List Step) :
    runAll pod lists (step :: steps) =
      ((step.run pod lists).1 ++ (runAll pod (step.run pod lists).2 steps).1,
        (runAll pod (step.run pod lists).2 steps).2) := rfl

variable (pod : Pod) {lists : PodLists} {container : Nat} {doc : Json}
  {items : PodList → List Json}

/-- A step applies and leaves the document tracked. -/
theorem run?_run (h : Tracks lists container doc items) (step : Step) :
    ∃ doc', Patch.run? (step.run pod lists).1 doc = some doc' ∧
      Tracks (step.run pod lists).2 container doc'
        (fun list => items list ++ added pod list [step]) ∧
      ∀ list, doc'.follow? (PodLists.place container list) =
        extended (added pod list [step]) (doc.follow? (PodLists.place container list)) := by
  have hadded : ∀ list, added pod list [step] =
      (step.changes pod).flatMap (Change.addedTo list) := fun list => List.append_nil _
  simp only [hadded]
  exact ⟨_, h.run?_performAll _, h.performAll _,
    fun list => Change.follow?_applyAll_list (h.isMember_list list) _⟩

/-- Steps apply one after the other and leave the document tracked. -/
theorem run?_runAll_of_tracks (h : Tracks lists container doc items) (steps : List Step) :
    ∃ doc', Patch.run? (runAll pod lists steps).1 doc = some doc' ∧
      Tracks (runAll pod lists steps).2 container doc'
        (fun list => items list ++ added pod list steps) ∧
      ∀ list, doc'.follow? (PodLists.place container list) =
        extended (added pod list steps) (doc.follow? (PodLists.place container list)) := by
  induction steps generalizing lists doc items with
  | nil =>
    have hnil : ∀ list, added pod list [] = [] := fun _ => rfl
    simp only [hnil, List.append_nil]
    exact ⟨doc, rfl, h, fun _ => rfl⟩
  | cons step steps ih =>
    obtain ⟨next, hrun, htracks, hfollow⟩ := run?_run pod h step
    obtain ⟨last, hrun', htracks', hfollow'⟩ := ih htracks
    have hcons : ∀ list, added pod list (step :: steps) =
        added pod list [step] ++ added pod list steps := by
      intro list
      simp [added]
    simp only [hcons, runAll_cons]
    refine ⟨last, ?_, ?_, fun list => ?_⟩
    · rw [Patch.run?_append, hrun, Option.bind_some, hrun']
    · simpa only [List.append_assoc] using htracks'
    · rw [hfollow', hfollow, Change.extended_extended]

end Step

/-- Whatever steps have been made, their operations apply to the document of the pod, every list is
counted as it stands in the patched document, and has the added items behind its own. -/
theorem run?_runAll {pod : Pod} {container : Nat} (h : container < pod.containers.length)
    (steps : List Step) :
    ∃ doc, Patch.run? (Step.runAll pod (PodLists.ofPod pod container) steps).1 pod.json =
        some doc ∧
      ∀ list,
        ((Step.runAll pod (PodLists.ofPod pod container) steps).2.get list).length =
          ((doc.follow? (PodLists.place container list)).elim [] items).length ∧
        IsList (doc.follow? (PodLists.place container list))
          (PodLists.itemsIn pod container list ++ Step.added pod list steps) ∧
        doc.follow? (PodLists.place container list) = extended (Step.added pod list steps)
          (pod.json.follow? (PodLists.place container list)) := by
  obtain ⟨doc, hrun, htracks, hfollow⟩ :=
    Step.run?_runAll_of_tracks pod (hasPlaces_json h).tracks steps
  refine ⟨doc, hrun, fun list => ?_⟩
  have hfits := htracks.fits list
  have hlist := hfits.isList
  rw [htracks.path_eq list] at hlist
  rw [hfits.length_eq, hlist.elim_items, PodLists.itemsIn_eq h]
  exact ⟨rfl, hlist, hfollow list⟩

theorem run?_runAll_sample :
    1 < samplePod.containers.length ∧
      ∃ doc, Patch.run? (Step.runAll samplePod (PodLists.ofPod samplePod 1) [
            .add .volumes .null, .tolerations sampleApplication .driver,
            .configMounts sampleApplication .driver {}, .affinity sampleApplication .executor,
            .add .tolerations (.array []), .configMounts sampleApplication .driver {}]).1
          samplePod.json = some doc ∧
        doc.follow? ["spec", "tolerations"] =
          some (.array [.object [("key", .string "spot")], .array []]) ∧
        doc.follow? ["spec", "volumes"] = some (.array [
          .null, configVolume "rules" "rules-vol", configVolume "rules" "rules-vol"]) := by
  have hlt : 1 < samplePod.containers.length := by decide
  obtain ⟨doc, hrun, hlist⟩ := run?_runAll hlt _
  exact ⟨hlt, doc, hrun, (hlist .tolerations).2.2, (hlist .volumes).2.2⟩

end SparkAdmission
