import ModSkeleton.MainClass
import ModSkeleton.ModId
import ModSkeleton.ProjectError

namespace ModSkeleton

/-!
# Validating single fields

The rules for mod ids and main classes as checks of their own, which report a
refused text as an error about its field.
-/

/-- Check a mod id on its own. -/
def ModId.validate
    (modId : Text) :
    Except ProjectError Unit :=
  if ModId.accepts modId then .ok ()
  else .error (.invalidField "mod_id".toList (.text modId) ModId.rule)

/-- Check a main class on its own. -/
def MainClass.validate
    (mainClass : Text) :
    Except ProjectError Unit :=
  match MainClass.fault? mainClass with
  | none => .ok ()
  | some fault => .error (.invalidField "main_class".toList (.text mainClass) fault.message)

/-- A mod id passes its check exactly when it is accepted. -/
theorem ModId.validate_eq_ok_iff
    (modId : Text) :
    ModId.validate modId = .ok () ↔ ModId.accepts modId = true := by
  by_cases accepted : ModId.accepts modId = true
  · simp [ModId.validate, accepted]
  · simp [ModId.validate, accepted]

end ModSkeleton
