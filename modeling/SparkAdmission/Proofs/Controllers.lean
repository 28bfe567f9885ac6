import SparkAdmission.Proofs.PatchedPod

/-!
# The controllers of a driver

An object may have several owners, of which Kubernetes allows one to be its controller. The patch of
a driver puts the application behind the owners that are there, as a controller, and looks at none
of them. So a driver without a controller gets the application as its only one, and a driver that
has a controller gets a second one (`controllers_patched`). `not_forall_controllers_patched` is a
driver that the same application controls already, as a driver does that is admitted again.
-/

namespace SparkAdmission

/-- Whether an owner is the controller of what it owns. -/
def isController (owner : Json) : Bool :=
  match owner.get? "controller" with
  | some (.bool b) => b
  | _ => false

theorem isController_ownerReference (app : Application) :
    isController app.ownerReference = true := rfl

namespace Pod

/-- The owners. -/
def owners (pod : Pod) : List Json := pod.listAt ["metadata", "ownerReferences"]

/-- The owners that are controllers. -/
def controllers (pod : Pod) : List Json := pod.owners.filter isController

/-- A controller that is added stands behind those that are there. -/
theorem controllers_eq_append {pod changed : Pod} {owner : Json}
    (h : changed.owners = pod.owners ++ [owner]) (hc : isController owner = true) :
    changed.controllers = pod.controllers ++ [owner] := by
  have hadded : [owner].filter isController = [owner] := List.filter_eq_self.2 (by simpa using hc)
  rw [controllers, h, List.filter_append, hadded]
  rfl

end Pod

/-- The owners of a driver are followed by the application. -/
theorem Patched.owners_eq {pod patched : Pod} {app : Application} {settings : Settings}
    {container : Nat} (h : Patched pod app .driver settings container patched) :
    patched.owners = pod.owners ++ [app.ownerReference] :=
  h.itemsIn_eq .ownerReferences

/-- The patch of a driver applies, and puts the application behind the owners of the pod, as a
controller. It is the only controller exactly when the pod had none; a controller that the pod had
stays one beside it, whichever object it is. -/
theorem controllers_patched {pod : Pod} {app : Application} {settings : Settings} {ops : Patch}
    (h : derivePatch pod app .driver settings = .ok ops) :
    ∃ patched : Pod, Patch.run? ops pod.json = some patched.json ∧
      Reader.value Document.read patched.json = some patched ∧
      patched.owners = pod.owners ++ [app.ownerReference] ∧
      isController app.ownerReference = true ∧
      (patched.controllers = [app.ownerReference] ↔ pod.controllers = []) ∧
      ∀ controller, pod.controllers = [controller] →
        patched.controllers = [controller, app.ownerReference] := by
  obtain ⟨container, patched, hpatched, hrun, hread⟩ := exists_patched h
  have hcontroller := isController_ownerReference app
  have happend := Pod.controllers_eq_append hpatched.owners_eq hcontroller
  refine ⟨patched, hrun, hread, hpatched.owners_eq, hcontroller, ?_, fun controller hone => ?_⟩
  · rw [happend, List.append_eq_singleton_iff]
    simp
  · rw [happend, hone]
    rfl

/-- A driver whose only owner is a controller: the sample application. -/
def controlledDriver : Pod :=
  .ofSource (.ofJson (.object [
    ("metadata", .object [
      ("labels", .object [(roleLabel, .string "driver")]),
      ("ownerReferences", .array [sampleApplication.ownerReference])]),
    ("spec", .object [
      ("containers", .array [.object [("name", .string "spark-kubernetes-driver")]])])]))

theorem controllers_patched_sample :
    ∃ ops, derivePatch controlledDriver sampleApplication .driver {} = .ok ops ∧
      ∃ patched : Pod, Patch.run? ops controlledDriver.json = some patched.json ∧
        patched.controllers =
          [sampleApplication.ownerReference, sampleApplication.ownerReference] := by
  obtain ⟨patched, hrun, -, -, -, -, hone⟩ := controllers_patched
    (rfl : derivePatch controlledDriver sampleApplication .driver {} = .ok _)
  exact ⟨_, rfl, patched, hrun, hone _ rfl⟩

/-- A driver that the application controls already gets it as a second controller, so not every
driver with at most one controller has exactly the application after its patch. -/
theorem not_forall_controllers_patched :
    ¬ ∀ (pod : Pod) (app : Application) (settings : Settings) (ops : Patch) (patched : Pod),
      derivePatch pod app .driver settings = .ok ops → pod.controllers.length ≤ 1 →
        Patch.run? ops pod.json = some patched.json →
        Reader.value Document.read patched.json = some patched →
        patched.controllers = [app.ownerReference] := by
  intro h
  obtain ⟨container, patched, hpatched, hrun, hread⟩ := exists_patched
    (rfl : derivePatch controlledDriver sampleApplication .driver {} = .ok _)
  have hcontrollers := h controlledDriver sampleApplication {} _ patched rfl (by decide) hrun hread
  rw [Pod.controllers_eq_append hpatched.owners_eq (isController_ownerReference _)] at hcontrollers
  exact absurd (congrArg List.length hcontrollers) (by decide)

end SparkAdmission
