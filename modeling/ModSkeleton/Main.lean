import ModSkeleton.Cli

namespace ModSkeleton.Cli

/-!
# Entry point

The program looks at the part of the file system that its target lies in, runs
on what it saw, and then brings the file system to the state that the run left.
Links are followed when it looks, so that what they lead to is taken to stand in their
place. The run itself is without faults; those of the machine show when the program
looks, or when it brings the file system to its new state. No other program is started,
so version control counts as missing.
-/

/-- How deep directories are looked into. -/
def maxDepth : Nat :=
  64

/-- The absolute path of a location. -/
def pathText
    (location : Location) :
    String :=
  String.ofList ('/' :: Text.joinWith ['/'] location)

/-- The entry at a location and, up to a depth, everything below it. -/
def look : Nat → Location → IO (List (Location × Entry))
  | 0, _ => return []
  | depth + 1, location => do
      let path := (← IO.currentDir) / pathText location
      if ← path.isDir then
        let children ← path.readDir
        let found ← children.toList.mapM fun child =>
          look depth (location ++ [child.fileName.toList])
        return (location, .directory) :: found.flatten
      else if ← path.pathExists then
        let content ← IO.FS.readBinFile path
        return [(location, .file content.toList)]
      else
        return []

/-- The directories that lead to a location, as far as they exist. -/
def lookAbove
    (location : Location) :
    IO (List (Location × Entry)) := do
  let found ← (List.range location.length).mapM fun count => look 1 (location.take count)
  return found.flatten

/-- The words of a command line as a path, if they name one. -/
def targetOf?
    (words : List Text) :
    Option Path :=
  match CommandLine.Arguments.parse words with
  | .ok arguments => some (Path.parse arguments.path)
  | .error _ => none

/-- The part of the file system that a run may look at. -/
def lookAround
    (words : List Text) :
    IO Workspace := do
  let directory := Path.components (← IO.currentDir).toString.toList
  let target := match targetOf? words with
    | some path => Workspace.canonical ⟨FileTree.empty, directory⟩ path
    | none => directory
  let entries := (← lookAbove directory) ++ (← lookAbove target) ++ (← look maxDepth target)
  let known := (directory, Entry.directory) :: entries
  return ⟨⟨known.filter fun pair => !pair.1.isEmpty⟩, directory⟩

/-- Version control on a machine without the program for it. -/
def withoutGit : Git where
  launch := .refused (.fault .notFound Git.programName)
  effect _ tree := tree

/-- Bring one location to the state that a run left. -/
def settle
    (before : FileTree)
    (pair : Location × Entry) :
    IO Unit :=
  if before.get? pair.1 = some pair.2 then
    return
  else
    match pair.2 with
    | .directory => IO.FS.createDirAll (pathText pair.1)
    | .file content => IO.FS.writeBinFile (pathText pair.1) ⟨content.toArray⟩
    | .link _ => return

/-- The exit code of a run. -/
def Ending.exitCode : Ending → UInt32
  | .stopped code => code.toUInt32
  | .finished code => code.toUInt32
  | .crashed _ => 1

/-- What is printed to standard error: what the run printed, and a crash. -/
def Run.complaint
    (run : Run) :
    Text :=
  match run.ending with
  | .crashed crash => run.errors ++ crash.message ++ ['\n']
  | _ => run.errors

end ModSkeleton.Cli

open ModSkeleton in
/-- Run the program on the arguments of the process. -/
def main
    (words : List String) :
    IO UInt32 := do
  let arguments := words.map String.toList
  let workspace ← Cli.lookAround arguments
  let run := Cli.run Host.faultless workspace Toolchain.default.settings Cli.withoutGit arguments
  run.workspace.tree.entries.reverse.forM (Cli.settle workspace.tree)
  IO.print (String.ofList run.output)
  IO.eprint (String.ofList run.complaint)
  return run.ending.exitCode
