import ModSkeleton.Json.Value

namespace ModSkeleton

/-!
# Issues of given values

What can be wrong with a value given for a field of a request or a toolchain.
Every issue has a code, by which programs tell it apart, and a wording.
-/

/-- What is wrong with a value given for a field. -/
inductive Issue where
  | missing
  | notText
  | empty
  | refused (reason : Text)
  | notLanguage
  | notPath
  | notSection
  | notInteger
  | notNumeral
  | tooLarge
  | fractional
  | belowMinimum (minimum : Int)
  | frozen
  deriving Repr, DecidableEq

namespace Issue

/-- The code of an issue. -/
def code : Issue → Text
  | .missing => "missing".toList
  | .notText => "string_type".toList
  | .empty => "string_too_short".toList
  | .refused _ => "value_error".toList
  | .notLanguage => "enum".toList
  | .notPath => "path_type".toList
  | .notSection => "model_type".toList
  | .notInteger => "int_type".toList
  | .notNumeral => "int_parsing".toList
  | .tooLarge => "int_parsing_size".toList
  | .fractional => "int_from_float".toList
  | .belowMinimum _ => "greater_than_equal".toList
  | .frozen => "frozen_instance".toList

/-- The wording of an issue. -/
def message : Issue → Text
  | .missing => "Field required".toList
  | .notText => "Input should be a valid string".toList
  | .empty => "String should have at least 1 character".toList
  | .refused reason => "Value error, ".toList ++ reason
  | .notLanguage => "Input should be 'java' or 'kotlin'".toList
  | .notPath => "Input is not a valid path for <class 'pathlib.Path'>".toList
  | .notSection =>
      "Input should be a valid dictionary or instance of KotlinConfig".toList
  | .notInteger => "Input should be a valid integer".toList
  | .notNumeral =>
      "Input should be a valid integer, unable to parse string as an integer".toList
  | .tooLarge =>
      "Unable to parse input string as an integer, exceeded maximum size".toList
  | .fractional =>
      "Input should be a valid integer, got a number with a fractional part".toList
  | .belowMinimum minimum =>
      "Input should be greater than or equal to ".toList ++ Text.decimal minimum
  | .frozen => "Instance is frozen".toList

/-- The bare reason of an issue: a refusal is given without its introduction. -/
def reason : Issue → Text
  | .refused reason => reason
  | issue => issue.message

end Issue

/-- An issue with the names that lead to its field. -/
structure LocatedIssue where
  field : List Text
  issue : Issue
  deriving Repr, DecidableEq

namespace Issue

/-- A given value as a text. -/
def checkText : Json.Value → Except Issue Text
  | .text value => .ok value
  | _ => .error .notText

/-- A given value as a text that is not empty. -/
def checkNonempty
    (value : Json.Value) :
    Except Issue Text :=
  match checkText value with
  | .ok [] => .error .empty
  | outcome => outcome

/-- The check of a field that may be left out. -/
def checkOr
    {α : Type}
    (default : α)
    (check : Json.Value → Except Issue α) :
    Option Json.Value → Except Issue α
  | none => .ok default
  | some value => check value

/-- The check of a field that has to be given. -/
def checkRequired
    {α : Type}
    (check : Json.Value → Except Issue α) :
    Option Json.Value → Except Issue α
  | none => .error .missing
  | some value => check value

/-- The issue of a failed check, located at its field. -/
def locate
    {α : Type}
    (field : List Text) :
    Except Issue α → List LocatedIssue
  | .ok _ => []
  | .error issue => [⟨field, issue⟩]

end Issue

end ModSkeleton
