/-!
# Roles

A pod of an application is its driver or one of its executors.
-/

namespace SparkAdmission

/-- The role of a pod within its application. -/
inductive Role where
  /-- The coordinating pod. -/
  | driver
  /-- A pod that does the work. -/
  | executor
deriving DecidableEq, Repr

namespace Role

/-- The name of the role, as labels hold it. -/
def name : Role → String
  | .driver => "driver"
  | .executor => "executor"

/-- The role of that name. -/
def ofName? (s : String) : Option Role :=
  if s = "driver" then some .driver else if s = "executor" then some .executor else none

/-- Whether this is the driver. -/
def isDriver : Role → Bool
  | .driver => true
  | .executor => false

@[simp] theorem ofName?_name (r : Role) : ofName? r.name = some r := by
  cases r <;> rfl

theorem ofName?_eq_some_iff {s : String} {r : Role} : ofName? s = some r ↔ s = r.name := by
  constructor
  · intro h
    unfold ofName? at h
    split at h
    · cases h
      assumption
    · split at h
      · cases h
        assumption
      · cases h
  · rintro rfl
    exact ofName?_name r

end Role

end SparkAdmission
