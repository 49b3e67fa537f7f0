import ModSkeleton.FileTree.Walk
import ModSkeleton.Host
import ModSkeleton.Text.Quoted

namespace ModSkeleton

/-!
# Workspaces

A workspace is a file tree with a working directory. Its operations follow links
as the system does, and report its faults. They are given on every host; without
one, they are meant on the host that is without faults. An operation that can leave
something behind when it fails returns the workspace it leaves together with its
outcome.
-/

/-- A file tree seen from a working directory. -/
structure Workspace where
  tree : FileTree
  directory : Location
  deriving Repr, DecidableEq

namespace Workspace

/-- The place that a path leads to. -/
def locate
    (workspace : Workspace)
    (followLast : Bool)
    (path : Path) :
    Except AccessFault FileTree.Place :=
  workspace.tree.locate workspace.directory followLast path

/-- The workspace after putting an entry at a location. -/
def put
    (workspace : Workspace)
    (location : Location)
    (entry : Entry) :
    Workspace :=
  { workspace with tree := workspace.tree.insert location entry }

end Workspace

namespace Host

variable
    (host : Host)

/-- The place that a path leads to, unless a directory on the way cannot be searched. -/
def locate
    (workspace : Workspace)
    (followLast : Bool)
    (path : Path) :
    Except AccessFault FileTree.Place :=
  let directories := workspace.tree.searchedFor workspace.directory followLast path
  match directories.findSome? (host.device.search workspace.tree) with
  | some fault => .error (.system (.device fault))
  | none => workspace.locate followLast path

/-- The entry a path leads to; `none` when a fault only means absence. -/
def find?
    (workspace : Workspace)
    (path : Path) :
    Except FileFault (Option (Location × Entry)) :=
  match host.locate workspace true path with
  | .ok (.present location entry) => .ok (some (location, entry))
  | .ok (.missing _ _) => .ok none
  | .error (.system fault) => if fault.meansAbsent then .ok none else .error fault
  | .error _ => .ok none

/-- Whether a path leads to an entry. -/
def exists?
    (workspace : Workspace)
    (path : Path) :
    Except FileFault Bool := do
  return (← host.find? workspace path).isSome

/-- Whether a path leads to a directory. -/
def isDirectory?
    (workspace : Workspace)
    (path : Path) :
    Except FileFault Bool := do
  match ← host.find? workspace path with
  | some (_, .directory) => return true
  | _ => return false

/-- The names in a directory. -/
def namesIn
    (tree : FileTree)
    (location : Location) :
    Except FileFault (List Text) :=
  match host.device.list tree location with
  | some fault => .error (.device fault)
  | none => .ok (tree.childNames location)

/-- Whether a path leads to a directory without entries. -/
def isEmptyDirectory?
    (workspace : Workspace)
    (path : Path) :
    Except FileFault Bool := do
  match ← host.find? workspace path with
  | some (location, .directory) => return (← host.namesIn workspace.tree location).isEmpty
  | _ => return false

/-- Create one directory in an existing one. -/
def makeDirectory
    (workspace : Workspace)
    (path : Path) :
    Except AccessFault Workspace :=
  match host.locate workspace false path with
  | .error fault => .error fault
  | .ok (.present _ _) => .error (.system .exists)
  | .ok (.missing parent name) =>
      match host.device.make workspace.tree (parent ++ [name]) with
      | some fault => .error (.system (.device fault))
      | none => .ok (workspace.put (parent ++ [name]) .directory)

/--
Create one directory, content with one that is there already. Whether it is there is
asked whatever the reason why it was not created, but for one that is missing above.
-/
def ensureDirectory
    (workspace : Workspace)
    (path : Path) :
    Workspace × Except AccessFault Unit :=
  match host.makeDirectory workspace path with
  | .ok created => (created, .ok ())
  | .error (.system .notFound) => (workspace, .error (.system .notFound))
  | .error (.system fault) =>
      match host.isDirectory? workspace path with
      | .ok true => (workspace, .ok ())
      | .ok false => (workspace, .error (.system fault))
      | .error later => (workspace, .error (.system later))
  | .error fault => (workspace, .error fault)

/--
Create a directory and the missing ones above it. The names of the path are
given from the last to the first.
-/
def ensureDirectoriesUpward
    (root : PathRoot) :
    List Text → Workspace → Workspace × Except AccessFault Unit
  | [], workspace => host.ensureDirectory workspace ⟨root, []⟩
  | name :: above, workspace =>
      let path : Path := ⟨root, (name :: above).reverse⟩
      match host.ensureDirectory workspace path with
      | (_, .error (.system .notFound)) =>
          match ensureDirectoriesUpward root above workspace with
          | (grown, .ok ()) => host.ensureDirectory grown path
          | failed => failed
      | outcome => outcome

/-- Create a directory and the missing ones above it. -/
def ensureDirectories
    (workspace : Workspace)
    (path : Path) :
    Workspace × Except AccessFault Unit :=
  host.ensureDirectoriesUpward path.root path.parts.reverse workspace

/--
How many calls are nested when directories are made upward: one for each that is missing,
as the one above it is made within the attempt to make it. Nothing has been made by then.
-/
def missingUpward
    (root : PathRoot) :
    List Text → Workspace → Nat
  | [], _ => 0
  | name :: above, workspace =>
      match host.ensureDirectory workspace ⟨root, (name :: above).reverse⟩ with
      | (_, .error (.system .notFound)) => missingUpward root above workspace + 1
      | _ => 0

/-- Whether more calls are nested when the directories of a path are made than may be. -/
def exhaustedBy
    (workspace : Workspace)
    (path : Path) :
    Bool :=
  match host.stack.making with
  | none => false
  | some room => room < host.missingUpward path.root path.parts.reverse workspace

/--
Write a text to a file that may be there already. It is emptied when it is opened, so that
a beginning of the text is left if the rest of it cannot be written.
-/
def fillFile
    (workspace : Workspace)
    (location : Location)
    (content : Text) :
    Workspace × Except AccessFault Unit :=
  match host.device.openFile workspace.tree location with
  | some fault => (workspace, .error (.system (.device fault)))
  | none =>
      let bytes := Text.encode content
      match host.device.writeFile workspace.tree location bytes with
      | some (count, fault) =>
          (workspace.put location (.file (bytes.take count)), .error (.system (.device fault)))
      | none => (workspace.put location (.file bytes), .ok ())

/-- Write a text to a file, creating it or replacing its content. -/
def write
    (workspace : Workspace)
    (path : Path)
    (content : Text) :
    Workspace × Except AccessFault Unit :=
  match host.locate workspace true path with
  | .error fault => (workspace, .error fault)
  | .ok (.present location (.file _)) => host.fillFile workspace location content
  | .ok (.present _ _) => (workspace, .error (.system .isDirectory))
  | .ok (.missing parent name) => host.fillFile workspace (parent ++ [name]) content

end Host

namespace Workspace

/-- The entry a path leads to; `none` when a fault only means absence. -/
def find?
    (workspace : Workspace)
    (path : Path) :
    Except FileFault (Option (Location × Entry)) :=
  Host.faultless.find? workspace path

/-- The location that a path names when nothing but its names is looked at. -/
def canonical
    (workspace : Workspace)
    (path : Path) :
    Location :=
  path.parts.foldl FileTree.stepAlong (FileTree.startOf workspace.directory path)

/-- One line of a listing: directories end in a slash, links in an at sign. -/
def listingLine
    (item : Location × Entry) :
    Text :=
  Text.joinWith ['/'] item.1 ++
    match item.2 with
    | .directory => ['/']
    | .file _ => []
    | .link _ => ['@']

/-- Everything below a location, one line each, in code point order. -/
def listing
    (workspace : Workspace)
    (location : Location) :
    List Text :=
  ((workspace.tree.below location).map listingLine).mergeSort Text.precedes

/-- A location as a path relative to another one. -/
def relativeText
    (base : Location)
    (location : Location) :
    Text :=
  let shared := ((base.zip location).takeWhile fun pair => pair.1 == pair.2).length
  Path.toText
    ⟨.relative,
      List.replicate (base.length - shared) Path.parentName ++ location.drop shared⟩

end Workspace

end ModSkeleton
