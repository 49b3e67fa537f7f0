import ModSkeleton.Command.Report
import ModSkeleton.Shell.Execute

namespace ModSkeleton.Command

/-!
# Running commands

Commands are run here by a stand-in for the system: a shell and a few standard programs
that work on a workspace. They take the place of the programs that are installed on a
machine, so that it can be seen what is reported of them (`Command.report`).
-/

/-- A command with the directory it is run in and the limit on its time. -/
structure Request where
  words : List Json.Value
  directory : Option Text
  limit : Text
  deriving Repr

/-- A finished run of a process: where it leaves the workspace, and what it did. -/
structure Finished where
  workspace : Workspace
  output : Text.Bytes
  errors : Text.Bytes
  ending : Ending
  duration : Duration
  deriving Repr, DecidableEq

/-- How deep the commands of a script may nest. -/
def maxDepth : Nat :=
  20000

/-- The shell before anything has been run: its input is empty. -/
def initialShell
    (workspace : Workspace) :
    Shell.Interpreter where
  name := "sh".toList
  arguments := []
  bindings := []
  exported := []
  locked := []
  locals := none
  functions := []
  options := []
  traps := []
  status := 0
  line := 0
  context := []
  isMain := true
  doomed := none
  tested := false
  loops := 0
  calls := 0
  descriptors := [(0, .channel 0), (1, .channel 1), (2, .channel 2)]
  documents := []
  workspace := workspace
  channels := [[], [], []]
  clock := .zero
  jobsEnd := .zero
  jobs := []

/-- What a shell leaves behind when it has ended in some way. -/
def Finished.ofShell
    (shell : Shell.Interpreter)
    (directory : Location)
    (ending : Ending) :
    Finished where
  workspace := { shell.workspace with directory }
  output := shell.channels.getD 1 []
  errors := shell.channels.getD 2 []
  ending := ending
  duration := shell.clock.longer shell.jobsEnd

/-- Run a shell; there is no result if it never ends. -/
def runShell
    (workspace : Workspace)
    (invoked : Text)
    (arguments : List Text) :
    Option Finished :=
  let initial := initialShell workspace
  match Shell.Start.ofArguments workspace invoked [] arguments with
  | .error complaint =>
      some
        { workspace
          output := []
          errors := Shell.startComplaint invoked complaint
          ending := .exits 2
          duration := .zero }
  | .ok start =>
      let script := Shell.runToEnd (Shell.execute maxDepth) start.script
      let (interruption, shell) := (Shell.Run.attempt script).run (start.shell initial)
      let finish (ending : Ending) : Option Finished :=
        some (Finished.ofShell shell workspace.directory ending)
      match interruption with
      | .ok (some (.killed signal)) => finish (.killed signal)
      | .ok (some .stuck) => none
      | _ => finish (.exits shell.status)

/-- Run a program; there is no result if it never ends. -/
def runProgram
    (workspace : Workspace)
    (program : ProgramName)
    (invoked : Text)
    (arguments : List Text) :
    Option Finished :=
  if program = .sh then runShell workspace invoked arguments
  else
    let execution := Program.run workspace [] program arguments
    some
      { workspace
        output := execution.written .output
        errors := execution.written .errors
        ending := execution.ending
        duration := execution.duration }

/-- Whether a duration is not within a limit. -/
def exceeds
    (duration : Duration)
    (limit : Text) :
    Bool :=
  match Duration.ofNumeral? limit with
  | none => false
  | some allowed => Duration.zero.atLeast allowed || duration.atLeast allowed

/-- The workspace seen from the directory of a command. -/
def enter
    (workspace : Workspace) :
    Option Text → Except Error Workspace
  | none => .ok workspace
  | some directory =>
      if directory.isEmpty then .ok workspace
      else
        match workspace.enter directory with
        | .ok inside => .ok inside
        | .error fault => .error (.ofAccess directory fault)

/-- The texts among words, all of which have to be some. -/
def textsOf : List Json.Value → Except Error (List Text)
  | [] => .ok []
  | .text word :: rest =>
      match textsOf rest with
      | .ok words => .ok (word :: words)
      | .error error => .error error
  | value :: _ => .error (.notText ⟨value.kindName⟩)

/-- What becomes of the words of a command, and where that leaves the workspace. -/
def launch
    (workspace : Workspace)
    (request : Request) :
    List Text → Workspace × Launch
  | [] => (workspace, .refused .noWords)
  | word :: arguments =>
      if (word :: arguments).any (·.contains '\x00') then (workspace, .refused .embeddedNull)
      else
        match enter workspace request.directory with
        | .error error => (workspace, .refused error)
        | .ok inside =>
            match ProgramName.ofWord? word with
            | none => (workspace, .refused (.ofAccess word (programFault inside word)))
            | some program =>
                match runProgram inside program word arguments with
                | none => (workspace, .timedOut)
                | some finished =>
                    let left := { finished.workspace with directory := workspace.directory }
                    if exceeds finished.duration request.limit then (left, .timedOut)
                    else (left, .ended finished.ending.code finished.output finished.errors)

/-- Run a command: where it leaves the workspace, and what it reports. -/
def run
    (workspace : Workspace)
    (request : Request) :
    Workspace × Except Error Report :=
  match textsOf request.words with
  | .error error => (workspace, .error error)
  | .ok words =>
      let (left, launch) := launch workspace request words
      (left, report words request.limit launch)

end ModSkeleton.Command
