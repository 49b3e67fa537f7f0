import ModSkeleton.Command.Report
import ModSkeleton.Workspace

namespace ModSkeleton

/-!
# Version control

A new project may be put under version control by one run of an external program. What
becomes of that run, and what it does to the file tree, is given from outside; this module
says what is asked of the program, and how a failed run is worded.
-/

/-- The version control program: what becomes of its run, and what that does to a tree. -/
structure Git where
  launch : Command.Launch
  effect : Location → FileTree → FileTree

/-- A run of the program: where it was started, and with which arguments. -/
structure GitCall where
  directory : Location
  arguments : List Text
  deriving Repr, DecidableEq

namespace Git

/-- The name of the program. -/
def programName : Text :=
  "git".toList

/-- The arguments that ask for an empty repository. -/
def initArguments : List Text :=
  ["init".toList, "--quiet".toList]

/-- The limit on the time of a run, in seconds. -/
def limit : Text :=
  "60".toList

/-- The name of the directory that holds a repository. -/
def repositoryName : Text :=
  ".git".toList

/-- The reason that stands for a program that is missing. -/
def notInstalledReason : Text :=
  "git is not installed".toList

/-- What is reported of the run. -/
def report
    (git : Git) :
    Except Command.Error Command.Report :=
  Command.report (programName :: initArguments) limit git.launch

/-- The runs that take place when the program is asked for once in a directory. -/
def calls
    (git : Git)
    (directory : Location) :
    List GitCall :=
  if git.launch.isStarted then [⟨directory, initArguments⟩] else []

/-- The workspace after the program was asked for in a directory. -/
def leave
    (git : Git)
    (directory : Location)
    (workspace : Workspace) :
    Workspace :=
  if git.launch.isStarted then
    { workspace with tree := git.effect directory workspace.tree }
  else
    workspace

end Git

end ModSkeleton
