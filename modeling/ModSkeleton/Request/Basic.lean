import ModSkeleton.Issue
import ModSkeleton.Language
import ModSkeleton.MainClass
import ModSkeleton.Path

namespace ModSkeleton

/-!
# Requests

A request says which project to generate and where. `Request.ofFields` checks
given values field by field and reports every issue in the order of the fields;
`Request.Valid` is the condition that an accepted request meets.
-/

/-- A complete description of the project to generate. -/
structure Request where
  targetPath : Path
  modId : Text
  modName : Text
  language : Language
  mainClass : Text
  deriving Repr, DecidableEq

namespace Request

/-- The package of the main class. -/
def package
    (request : Request) :
    Text :=
  MainClass.package request.mainClass

/-- The class name of the main class. -/
def className
    (request : Request) :
    Text :=
  MainClass.className request.mainClass

/-- The package as a relative directory. -/
def packagePath
    (request : Request) :
    Text :=
  MainClass.packagePath request.mainClass

/-- The Maven group of the project. -/
def mavenGroup
    (request : Request) :
    Text :=
  MainClass.mavenGroup request.mainClass

/-- The base name of the project's archive. -/
def archivesBaseName
    (request : Request) :
    Text :=
  MainClass.archivesBaseName request.modId request.mainClass

/-- What holds of a request that passed the checks. -/
structure Valid (request : Request) : Prop where
  modId : ModId.accepts request.modId = true
  modName : request.modName ≠ []
  mainClass : MainClass.fault? request.mainClass = none

/-- The values given for the fields of a request. -/
structure Fields where
  targetPath : Option Json.Value
  modId : Option Json.Value
  modName : Option Json.Value
  language : Option Json.Value
  mainClass : Option Json.Value
  deriving Repr

/-- A given value as a path. -/
def checkPath : Json.Value → Except Issue Path
  | .text value => .ok (Path.parse value)
  | _ => .error .notPath

/-- A given value as a mod id. -/
def checkModId
    (value : Json.Value) :
    Except Issue Text :=
  match Issue.checkNonempty value with
  | .ok modId => if ModId.accepts modId then .ok modId else .error (.refused ModId.rule)
  | .error issue => .error issue

/-- A given value as a language. -/
def checkLanguage : Json.Value → Except Issue Language
  | .text value =>
      match Language.ofName? value with
      | some language => .ok language
      | none => .error .notLanguage
  | _ => .error .notLanguage

/-- A given value as a main class. -/
def checkMainClass
    (value : Json.Value) :
    Except Issue Text :=
  match Issue.checkText value with
  | .ok mainClass =>
      match MainClass.fault? mainClass with
      | none => .ok mainClass
      | some fault => .error (.refused fault.message)
  | .error issue => .error issue

/-- The request with the given values, or everything that is wrong with them. -/
def ofFields
    (fields : Fields) :
    Except (List LocatedIssue) Request :=
  let targetPath := Issue.checkRequired checkPath fields.targetPath
  let modId := Issue.checkRequired checkModId fields.modId
  let modName := Issue.checkRequired Issue.checkNonempty fields.modName
  let language := Issue.checkOr .java checkLanguage fields.language
  let mainClass := Issue.checkOr MainClass.default checkMainClass fields.mainClass
  match targetPath, modId, modName, language, mainClass with
  | .ok targetPath, .ok modId, .ok modName, .ok language, .ok mainClass =>
      .ok { targetPath, modId, modName, language, mainClass }
  | _, _, _, _, _ =>
      .error
        (Issue.locate ["target_path".toList] targetPath ++
          Issue.locate ["mod_id".toList] modId ++
          Issue.locate ["mod_name".toList] modName ++
          Issue.locate ["language".toList] language ++
          Issue.locate ["main_class".toList] mainClass)

/-- The value given for a field, by the name of the field. -/
def Fields.value?
    (fields : Fields)
    (field : Text) :
    Option Json.Value :=
  if field = "target_path".toList then fields.targetPath
  else if field = "mod_id".toList then fields.modId
  else if field = "mod_name".toList then fields.modName
  else if field = "language".toList then fields.language
  else if field = "main_class".toList then fields.mainClass
  else none

end Request

end ModSkeleton
