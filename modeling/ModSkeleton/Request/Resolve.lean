import ModSkeleton.ProjectError
import ModSkeleton.Request.Basic
import ModSkeleton.Text.Blank
import ModSkeleton.Workspace.Real

namespace ModSkeleton.Request

/-!
# Resolving a request

A request is resolved from options: a target path and a name have to be given,
the mod id falls back to the name of the target directory and the main class to
the default one. The name is checked first, then the mod id, then the main
class, and only the first fault is reported.
-/

/-- The options from which a request is resolved; null stands for absence. -/
structure Options where
  targetPath : Json.Value
  modName : Json.Value
  modId : Json.Value
  useKotlin : Json.Value
  mainClass : Json.Value
  deriving Repr

/-- Why a request cannot be resolved. -/
inductive ResolveError where
  | project (error : ProjectError)
  | nameNotText (fault : Json.WrongKind)
  | targetNotPath (fault : NotPath)
  | noRealPath (fault : RealPathFault)
  deriving Repr

/-- The wording of an error. -/
def ResolveError.message : ResolveError → Text
  | .project error => error.message
  | .nameNotText fault => fault.message
  | .targetNotPath fault => fault.message
  | .noRealPath fault => fault.message

/-- Whether a last component says nothing about the directory it names. -/
def isNameless
    (name : Text) :
    Bool :=
  name.isEmpty || name == ['.'] || name == Path.parentName

/-- The mod id that a target path stands for: the name of its directory. -/
def derivedModId
    (host : Host)
    (workspace : Workspace)
    (path : Path) :
    Except ResolveError Text :=
  if isNameless path.name then
    match host.realPath workspace path with
    | .ok real => .ok real.name
    | .error fault => .error (.noRealPath fault)
  else
    .ok path.name

/-- A value where it counts as present, another one elsewhere. -/
def orElse
    (value : Json.Value)
    (fallback : Json.Value) :
    Json.Value :=
  if value.truthy then value else fallback

/-- Whether a name is given and has a character that is not blank. -/
def checkName : Json.Value → Except ResolveError Unit
  | .text name =>
      if Text.allBlank name then .error (.project (.missingField "mod_name".toList))
      else .ok ()
  | value =>
      if value.truthy then .error (.nameNotText (.of value "strip"))
      else .error (.project (.missingField "mod_name".toList))

/-- The first issue of given values as an error about its field. -/
def invalidField
    (fields : Fields) :
    List LocatedIssue → ProjectError
  | [] => .general []
  | located :: _ =>
      let field := located.field.headD []
      let value := (fields.value? field).getD .null
      .invalidField field (.text value.display) located.issue.reason

/-- The values that options stand for, once the mod id is known. -/
def Options.fields
    (options : Options)
    (modId : Json.Value) :
    Fields where
  targetPath :=
    some options.targetPath
  modId :=
    some modId
  modName :=
    some options.modName
  language :=
    some (.text (if options.useKotlin.truthy then Language.kotlin.name else Language.java.name))
  mainClass :=
    some (orElse options.mainClass (.text MainClass.default))

/-- The mod id of options: the given one, or the one that the target stands for. -/
def Options.modIdOr
    (options : Options)
    (host : Host)
    (workspace : Workspace)
    (path : Path) :
    Except ResolveError Json.Value :=
  if options.modId.truthy then .ok options.modId
  else (derivedModId host workspace path).map Json.Value.text

/-- Resolve a request from options. -/
def resolve
    (host : Host)
    (workspace : Workspace)
    (options : Options) :
    Except ResolveError Request :=
  match checkName options.modName, NotPath.check options.targetPath with
  | .error error, _ => .error error
  | .ok (), .error fault => .error (.targetNotPath fault)
  | .ok (), .ok path =>
      match options.modIdOr host workspace path with
      | .error error => .error error
      | .ok modId =>
          let fields := options.fields modId
          match ofFields fields with
          | .ok request => .ok request
          | .error issues => .error (.project (invalidField fields issues))

end ModSkeleton.Request
