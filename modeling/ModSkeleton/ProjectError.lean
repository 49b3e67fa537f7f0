import ModSkeleton.Json.Value
import ModSkeleton.Path

namespace ModSkeleton

/-!
# Errors that abort a run

The errors a user of the program sees: a required field that is missing, a field
with an invalid value, a target that already has content, and a fault of the
file system at a path.
-/

/-- A value that cannot be taken for a path. -/
structure NotPath where
  kind : Text
  deriving Repr, DecidableEq

namespace NotPath

/-- The wording of the fault. -/
def message
    (fault : NotPath) :
    Text :=
  "expected str, bytes or os.PathLike object, not ".toList ++ fault.kind

/-- The path that a value stands for. -/
def check : Json.Value → Except NotPath Path
  | .text value => .ok (Path.parse value)
  | value => .error ⟨value.kindName⟩

end NotPath

/-- An error that aborts a run. -/
inductive ProjectError where
  | general (text : Text)
  | missingField (field : Text)
  | invalidField (field : Text) (value : Json.Value) (reason : Text)
  | fileSystem (path : Path) (reason : Text)
  | targetExists (path : Path)
  deriving Repr

namespace ProjectError

/-- Why a directory with content is refused as a target. -/
def targetExistsReason : Text :=
  "directory exists and is not empty (use --force to overwrite)".toList

/-- The wording of an error. -/
def message : ProjectError → Text
  | .general text => text
  | .missingField field => "Missing required field: ".toList ++ field
  | .invalidField field value reason =>
      "Invalid ".toList ++ field ++ [' '] ++ value.shown ++ ": ".toList ++ reason
  | .fileSystem path reason => path.toText ++ ": ".toList ++ reason
  | .targetExists path => path.toText ++ ": ".toList ++ targetExistsReason

/-- The kinds of errors, by which they are made from arguments. -/
inductive Kind where
  | general
  | missingField
  | invalidField
  | fileSystem
  | targetExists
  deriving Repr, DecidableEq

namespace Kind

/-- The name of a kind. -/
def name : Kind → Text
  | .general => "ScaffoldError".toList
  | .missingField => "MissingRequiredFieldError".toList
  | .invalidField => "InvalidFieldError".toList
  | .fileSystem => "ScaffoldIOError".toList
  | .targetExists => "TargetExistsError".toList

/-- The kind with a name; everything else is a general error. -/
def ofName
    (text : Text) :
    Kind :=
  ([.missingField, .invalidField, .fileSystem, .targetExists].find? fun kind =>
    kind.name == text).getD .general

/-- A kind and those that it specialises, the most special first. -/
def lineage : Kind → List Kind
  | .general => [.general]
  | .missingField => [.missingField, .general]
  | .invalidField => [.invalidField, .general]
  | .fileSystem => [.fileSystem, .general]
  | .targetExists => [.targetExists, .fileSystem, .general]

/-- The arguments that a kind takes; a general error takes any. -/
def parameters : Kind → List Text
  | .general => []
  | .missingField => ["field".toList]
  | .invalidField => ["field".toList, "value".toList, "reason".toList]
  | .fileSystem => ["path".toList, "reason".toList]
  | .targetExists => ["path".toList]

end Kind

/-- The kind of an error. -/
def kind : ProjectError → Kind
  | .general _ => .general
  | .missingField _ => .missingField
  | .invalidField .. => .invalidField
  | .fileSystem .. => .fileSystem
  | .targetExists _ => .targetExists

/-- Why an error cannot be made from arguments. -/
inductive ArgumentFault where
  | tooFew (kind : Kind) (missing : List Text)
  | tooMany (kind : Kind) (given : Nat)
  | notPath (fault : NotPath)
  deriving Repr, DecidableEq

namespace ArgumentFault

/-- Names in quotes as an enumeration in prose. -/
def enumeration : List Text → Text
  | [] => []
  | [name] => Text.quoted name
  | [first, last] => Text.quoted first ++ " and ".toList ++ Text.quoted last
  | name :: names => Text.quoted name ++ ", ".toList ++ enumerationTail names
where
  /-- The rest of an enumeration of at least three names. -/
  enumerationTail : List Text → Text
    | [] => []
    | [last] => "and ".toList ++ Text.quoted last
    | name :: names => Text.quoted name ++ ", ".toList ++ enumerationTail names

/-- The wording of a fault; what is being made counts as an argument itself. -/
def message : ArgumentFault → Text
  | .tooFew kind missing =>
      kind.name ++ ".__init__() missing ".toList ++ Text.decimal missing.length ++
        " required positional argument".toList ++ (if missing.length = 1 then [] else ['s']) ++
        ": ".toList ++ enumeration missing
  | .tooMany kind given =>
      kind.name ++ ".__init__() takes ".toList ++ Text.decimal (kind.parameters.length + 1 : Nat) ++
        " positional arguments but ".toList ++ Text.decimal (given + 1 : Nat) ++
        " were given".toList
  | .notPath fault => fault.message

end ArgumentFault

/-- The text of a general error made from arguments: none, one or a list of them. -/
def generalText : List Json.Value → Text
  | [] => []
  | [argument] => argument.display
  | arguments => '(' :: (Json.Value.shownItems arguments ++ [')'])

/-- The error of a kind that arguments stand for. -/
def ofArguments
    (kind : Kind)
    (arguments : List Json.Value) :
    Except ArgumentFault ProjectError :=
  match kind, arguments with
  | .general, arguments => .ok (.general (generalText arguments))
  | .missingField, [field] => .ok (.missingField field.display)
  | .invalidField, [field, value, reason] =>
      .ok (.invalidField field.display value reason.display)
  | .fileSystem, [path, reason] =>
      match NotPath.check path with
      | .ok path => .ok (.fileSystem path reason.display)
      | .error fault => .error (.notPath fault)
  | .targetExists, [path] =>
      match NotPath.check path with
      | .ok path => .ok (.targetExists path)
      | .error fault => .error (.notPath fault)
  | kind, arguments =>
      if kind.parameters.length < arguments.length then .error (.tooMany kind arguments.length)
      else .error (.tooFew kind (kind.parameters.drop arguments.length))

end ProjectError

end ModSkeleton
