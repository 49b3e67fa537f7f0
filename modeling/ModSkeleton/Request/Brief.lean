import ModSkeleton.Request.Basic

namespace ModSkeleton

/-!
# Briefs

A brief is what generation sees of a request: every field as a value. The fields
of a brief may be overridden one by one without being checked, so an overridden
field can be any value at all; only a language has to exist. What is derived from
a main class exists only where the main class is a text.
-/

/-- Where a project is to be generated: a path, or a value in its place. -/
inductive Target where
  | path (place : Path)
  | other (value : Json.Value)
  deriving Repr

namespace Target

/-- A target as it is printed. -/
def display : Target → Text
  | .path place => place.toText
  | .other value => value.display

end Target

/-- A description of the project to generate whose values need not be checked. -/
structure Brief where
  target : Target
  modId : Json.Value
  modName : Json.Value
  language : Language
  mainClass : Json.Value
  deriving Repr

/-- The names that are derived from a main class. -/
structure DerivedNames where
  package : Text
  className : Text
  packagePath : Text
  mavenGroup : Text
  archivesBaseName : Json.Value
  deriving Repr

/-- The brief of a request. -/
def Request.brief
    (request : Request) :
    Brief where
  target := .path request.targetPath
  modId := .text request.modId
  modName := .text request.modName
  language := request.language
  mainClass := .text request.mainClass

namespace Brief

/-- The names that are derived from the main class of a brief. -/
def names
    (brief : Brief) :
    Except Json.WrongKind DerivedNames :=
  match brief.mainClass with
  | .text mainClass =>
      .ok
        { package := MainClass.package mainClass
          className := MainClass.className mainClass
          packagePath := MainClass.packagePath mainClass
          mavenGroup := MainClass.mavenGroup mainClass
          archivesBaseName :=
            ((MainClass.lastPackageSegment? mainClass).map Json.Value.text).getD brief.modId }
  | value => .error (.of value "rpartition")

/-- The language that a value names, or the complaint about it. -/
def languageOf
    (value : Json.Value) :
    Except Text Language :=
  match value with
  | .text name =>
      match Language.ofName? name with
      | some language => .ok language
      | none => .error (Language.unknownMessage value.shown)
  | _ => .error (Language.unknownMessage value.shown)

/-- The brief with one field replaced; unknown names change nothing. -/
def override
    (brief : Brief)
    (field : Text)
    (value : Json.Value) :
    Except Text Brief :=
  if field = "target_path".toList then .ok { brief with target := .other value }
  else if field = "mod_id".toList then .ok { brief with modId := value }
  else if field = "mod_name".toList then .ok { brief with modName := value }
  else if field = "main_class".toList then .ok { brief with mainClass := value }
  else if field = "language".toList then
    match languageOf value with
    | .ok language => .ok { brief with language }
    | .error complaint => .error complaint
  else .ok brief

/-- The brief with some fields replaced, or the complaint about an unknown language. -/
def overrideAll
    (brief : Brief) :
    List (Text × Json.Value) → Except Text Brief
  | [] => .ok brief
  | (field, value) :: rest =>
      match brief.override field value with
      | .ok changed => changed.overrideAll rest
      | .error complaint => .error complaint

/-- Whether an attribute may be assigned: those that start with an underscore are private. -/
def isAssignable
    (name : Text) :
    Bool :=
  name.head? = some '_'

/-- The issue of assigning an attribute of a request, which is read-only. -/
def assignmentIssue?
    (name : Text) :
    Option LocatedIssue :=
  if isAssignable name then none else some ⟨[name], .frozen⟩

/-- The names that are derived from a request agree with those of its brief. -/
@[simp]
theorem names_brief
    (request : Request) :
    request.brief.names =
      .ok
        { package := request.package
          className := request.className
          packagePath := request.packagePath
          mavenGroup := request.mavenGroup
          archivesBaseName := .text request.archivesBaseName } := by
  simp only [names, Request.brief, Request.archivesBaseName, MainClass.archivesBaseName]
  cases MainClass.lastPackageSegment? request.mainClass <;> rfl

end Brief

end ModSkeleton
