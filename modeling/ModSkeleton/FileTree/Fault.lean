import ModSkeleton.Text.Quoted

namespace ModSkeleton

/-!
# Faults of file operations

The ways in which looking up, creating or reading an entry of a file tree can
fail, with the number and the wording by which the system reports them. Most of
them are determined by the tree; the others are due to the machine that holds it.
-/

/-- The numbers by which the system reports that nothing is there. -/
def absenceNumbers : List Nat :=
  [2, 9, 20, 40]

/-- Whether a text may be the wording of a fault: it does not begin with a small letter. -/
def isWording : Text → Bool
  | [] => false
  | c :: _ => !c.isLower

/--
A fault that a tree does not determine: a missing permission, a device that is
full, broken or cannot be written. It never says that nothing is there.
-/
structure DeviceFault where
  number : Nat
  message : Text
  notAbsence : number ∉ absenceNumbers
  worded : isWording message = true
  deriving Repr, DecidableEq

namespace DeviceFault

/-- The fault of an operation that is not permitted. -/
def permissionDenied : DeviceFault where
  number := 13
  message := "Permission denied".toList
  notAbsence := by decide
  worded := by decide

/-- Whether a fault says that an operation is not permitted. -/
def deniesPermission
    (fault : DeviceFault) :
    Bool :=
  fault.number == 1 || fault.number == 13

end DeviceFault

/-- A fault that the file system reports. -/
inductive FileFault where
  | notFound
  | exists
  | notDirectory
  | isDirectory
  | invalidArgument
  | nameTooLong
  | notEmpty
  | tooManyLinks
  | device (fault : DeviceFault)
  deriving Repr, DecidableEq

namespace FileFault

/-- The number of a fault. -/
def number : FileFault → Nat
  | .notFound => 2
  | .exists => 17
  | .notDirectory => 20
  | .isDirectory => 21
  | .invalidArgument => 22
  | .nameTooLong => 36
  | .notEmpty => 39
  | .tooManyLinks => 40
  | .device fault => fault.number

/-- The wording of a fault. -/
def message : FileFault → Text
  | .notFound => "No such file or directory".toList
  | .exists => "File exists".toList
  | .notDirectory => "Not a directory".toList
  | .isDirectory => "Is a directory".toList
  | .invalidArgument => "Invalid argument".toList
  | .nameTooLong => "File name too long".toList
  | .notEmpty => "Directory not empty".toList
  | .tooManyLinks => "Too many levels of symbolic links".toList
  | .device fault => fault.message

/-- Whether a fault of a lookup means no more than that nothing is there. -/
def meansAbsent
    (fault : FileFault) :
    Bool :=
  absenceNumbers.contains fault.number

/-- Whether a fault says that an operation is not permitted. -/
def deniesPermission : FileFault → Bool
  | .device fault => fault.deniesPermission
  | _ => false

/-- A fault of a device does not. -/
@[simp]
theorem meansAbsent_device
    (fault : DeviceFault) :
    (device fault).meansAbsent = false := by
  simp [meansAbsent, number, fault.notAbsence]

/-- The full report of a fault at a path. -/
def report
    (fault : FileFault)
    (path : Text) :
    Text :=
  "[Errno ".toList ++ Text.decimal fault.number ++ "] ".toList ++ fault.message ++
    ": ".toList ++ Text.quoted path

end FileFault

/-- A fault of a path operation: reported by the system, or a NUL in the path. -/
inductive AccessFault where
  | system (fault : FileFault)
  | embeddedNull
  deriving Repr, DecidableEq

namespace AccessFault

/-- The report about a path that the system never gets to see. -/
def embeddedNullMessage : Text :=
  "embedded null byte".toList

end AccessFault

end ModSkeleton
