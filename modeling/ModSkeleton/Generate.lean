import ModSkeleton.Git
import ModSkeleton.Project.Render
import ModSkeleton.ProjectError

namespace ModSkeleton

/-!
# Generating a project

Generation renders all files first, then checks the target, then writes the
files one after another, and last puts the project under version control if
asked to. A failure while writing leaves the files before it in place, so every
outcome comes with the workspace that it leaves. All of this is given on every host.
-/

/-- Why a generation fails. -/
inductive GenerateError where
  | render (error : Project.Error)
  | project (error : ProjectError)
  | targetKind (fault : Json.WrongKind)
  | embeddedNull
  | stackExhausted
  | command (error : Command.Error)
  deriving Repr

/-- Why a target that is no directory is refused. -/
def notDirectoryReason : Text :=
  "exists and is not a directory".toList

/-- A fault at a path as the error of a generation. -/
def GenerateError.ofFault
    (path : Path) :
    AccessFault → GenerateError
  | .system fault => .project (.fileSystem path fault.message)
  | .embeddedNull => .embeddedNull

/-- A command that cannot be run in a directory as the error of a generation. -/
def GenerateError.ofCommand
    (root : Path) :
    Command.Error → GenerateError
  | .fault .notFound _ => .project (.fileSystem root Git.notInstalledReason)
  | error => .command error

/-- What a generation leaves behind and reports. -/
structure Generation where
  workspace : Workspace
  outcome : Except GenerateError (List Path)
  gitCalls : List GitCall
  deriving Repr

/-- How the report about version control ends a generation. -/
def Git.outcome
    (git : Git)
    (root : Path)
    (written : List Path) :
    Except GenerateError (List Path) :=
  match git.report with
  | .error error => .error (.ofCommand root error)
  | .ok report =>
      if report.code = 0 then .ok written
      else .error (.project (.fileSystem root ("git init failed: ".toList ++ report.errors)))

namespace Host

variable
    (host : Host)

/-- Whether a project may be written to a target. -/
def checkTarget
    (workspace : Workspace)
    (root : Path)
    (force : Bool) :
    Except ProjectError Unit :=
  match host.find? workspace root with
  | .error fault => .error (.fileSystem root fault.message)
  | .ok none => .ok ()
  | .ok (some (location, .directory)) =>
      if force then .ok ()
      else
        match host.namesIn workspace.tree location with
        | .error fault => .error (.fileSystem root fault.message)
        | .ok names => if names.isEmpty then .ok () else .error (.targetExists root)
  | .ok (some _) => .error (.fileSystem root notDirectoryReason)

/-- Write one file below a root, creating the directories that lead to it. -/
def writeProjectFile
    (root : Path)
    (file : Project.File)
    (workspace : Workspace) :
    Workspace × Except GenerateError Path :=
  let path := root.append file.names
  if host.exhaustedBy workspace path.parent then (workspace, .error .stackExhausted)
  else
    match host.ensureDirectories workspace path.parent with
    | (grown, .error fault) => (grown, .error (.ofFault path fault))
    | (grown, .ok ()) =>
        match host.write grown path file.content with
        | (written, .ok ()) => (written, .ok path)
        | (left, .error fault) => (left, .error (.ofFault path fault))

/-- Write files below a root in order, up to the first failure. -/
def writeProjectFiles
    (root : Path) :
    List Project.File → Workspace → Workspace × Except GenerateError (List Path)
  | [], workspace => (workspace, .ok [])
  | file :: files, workspace =>
      match host.writeProjectFile root file workspace with
      | (left, .error error) => (left, .error error)
      | (written, .ok path) =>
          match writeProjectFiles root files written with
          | (left, .error error) => (left, .error error)
          | (left, .ok paths) => (left, .ok (path :: paths))

/-- The directory that a path leads to as one to start a program in. -/
def startDirectory
    (workspace : Workspace)
    (path : Path) :
    Except AccessFault Location :=
  match host.locate workspace true path with
  | .error fault => .error fault
  | .ok (.missing _ _) => .error (.system .notFound)
  | .ok (.present location .directory) =>
      match host.device.search workspace.tree location with
      | some fault => .error (.system (.device fault))
      | none => .ok location
  | .ok (.present _ _) => .error (.system .notDirectory)

/-- Put the project at a root under version control. -/
def initRepository
    (git : Git)
    (root : Path)
    (written : List Path)
    (workspace : Workspace) :
    Generation :=
  match host.startDirectory workspace root with
  | .ok location =>
      { workspace := git.leave location workspace
        outcome := git.outcome root written
        gitCalls := git.calls location }
  | .error fault =>
      { workspace
        outcome := .error (.ofCommand root (.ofAccess root.toText fault))
        gitCalls := [] }

/-- Write rendered files below a root and put them under version control if asked to. -/
def emit
    (workspace : Workspace)
    (root : Path)
    (files : List Project.File)
    (force : Bool)
    (git? : Option Git) :
    Generation :=
  match host.checkTarget workspace root force with
  | .error error => ⟨workspace, .error (.project error), []⟩
  | .ok () =>
      match host.writeProjectFiles root files workspace, git? with
      | (written, .ok paths), some git => host.initRepository git root paths written
      | (left, outcome), _ => ⟨left, outcome, []⟩

/-- Generate the project that a brief asks for. -/
def generate
    (workspace : Workspace)
    (brief : Brief)
    (settings : Settings)
    (force : Bool)
    (git? : Option Git) :
    Generation :=
  match Project.render brief settings, brief.target with
  | .error error, _ => ⟨workspace, .error (.render error), []⟩
  | .ok _, .other value => ⟨workspace, .error (.targetKind (.of value "exists")), []⟩
  | .ok files, .path root => host.emit workspace root files force git?

end Host

/-- Generate the project that a brief asks for on a host without faults. -/
def generate
    (workspace : Workspace)
    (brief : Brief)
    (settings : Settings)
    (force : Bool)
    (git? : Option Git) :
    Generation :=
  Host.faultless.generate workspace brief settings force git?

end ModSkeleton
