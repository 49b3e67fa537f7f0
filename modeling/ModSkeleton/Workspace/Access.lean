import ModSkeleton.Workspace

namespace ModSkeleton.Workspace

/-!
# Access by path texts

Operations on a workspace that take a path as it is written. Here a single dot is
a step that needs a directory to stay in, a slash at the end asks for a directory,
and the empty text leads nowhere.
-/

/-- Where the steps of a path text start. -/
def textStart
    (workspace : Workspace)
    (text : Text) :
    Location :=
  if text.head? = some '/' then [] else workspace.directory

/-- Go along steps, unless the text they come from cannot be a path. -/
def walkSteps
    (workspace : Workspace)
    (followLast : Bool)
    (text : Text)
    (steps : List Text) :
    Except AccessFault FileTree.Place :=
  if text.contains '\x00' then .error .embeddedNull
  else if text.isEmpty then .error (.system .notFound)
  else if FileTree.maxPathSize < Text.utf8Size text then .error (.system .nameTooLong)
  else
    match workspace.tree.walk followLast FileTree.maxLinks (workspace.textStart text) steps with
    | .ok place => .ok place
    | .error fault => .error (.system fault)

/-- The place that a path text leads to. -/
def place
    (workspace : Workspace)
    (followLast : Bool)
    (text : Text) :
    Except AccessFault FileTree.Place :=
  workspace.walkSteps followLast text (Path.fullSteps text)

/-- The entry that a path text leads to. -/
def entryAt
    (workspace : Workspace)
    (followLast : Bool)
    (text : Text) :
    Except AccessFault (Location × Entry) :=
  match workspace.place followLast text with
  | .ok (.present location entry) => .ok (location, entry)
  | .ok (.missing _ _) => .error (.system .notFound)
  | .error fault => .error fault

/-- The entry that a path text leads to, if there is one. -/
def entryAt?
    (workspace : Workspace)
    (followLast : Bool)
    (text : Text) :
    Option Entry :=
  match workspace.entryAt followLast text with
  | .ok (_, entry) => some entry
  | .error _ => none

/--
The place where a path text wants to create an entry. The last step has to be the
name of something that is not there yet.
-/
def freePlace
    (workspace : Workspace)
    (text : Text) :
    Except AccessFault (Location × Text) :=
  let steps := Path.steps text
  match workspace.walkSteps true text (steps.dropLast ++ [Path.currentName]) with
  | .error fault => .error fault
  | .ok _ =>
      let last := steps.getLastD Path.currentName
      if last = Path.currentName || last = Path.parentName then .error (.system .exists)
      else
        match workspace.walkSteps false text steps with
        | .ok (.missing parent name) => .ok (parent, name)
        | .ok (.present _ _) => .error (.system .exists)
        | .error fault => .error fault

/-- Create one directory. -/
def createDirectory
    (workspace : Workspace)
    (text : Text) :
    Except AccessFault Workspace :=
  match workspace.freePlace text with
  | .ok (parent, name) => .ok (workspace.put (parent ++ [name]) .directory)
  | .error fault => .error fault

/-- A fault at a path text. -/
structure PathFault where
  path : Text
  fault : AccessFault
  deriving Repr, DecidableEq

/-- Whether a fault says that there is something at the path already. -/
def PathFault.meansPresent
    (fault : PathFault) :
    Bool :=
  fault.fault = .system .exists

/--
Create a new directory and the missing ones above it, with an upper bound on how
many those are. A directory above may turn out to be there on the way, as it does
for a double dot behind a new name.
-/
def createDirectoriesWithin : Nat → Workspace → Text → Workspace × Option PathFault
  | 0, workspace, _ => (workspace, none)
  | levels + 1, workspace, text =>
      let (front, last) :=
        let (front, last) := Path.splitLast text
        if last.isEmpty then Path.splitLast front else (front, last)
      let finish (workspace : Workspace) : Workspace × Option PathFault :=
        match workspace.createDirectory text with
        | .ok created => (created, none)
        | .error fault => (workspace, some ⟨text, fault⟩)
      if front.isEmpty || last.isEmpty || (workspace.entryAt? true front).isSome then
        finish workspace
      else
        match createDirectoriesWithin levels workspace front with
        | (grown, some fault) =>
            if !fault.meansPresent then (grown, some fault)
            else if last = Path.currentName then (grown, none)
            else finish grown
        | (grown, none) => if last = Path.currentName then (grown, none) else finish grown

/-- Create a new directory and the missing ones above it. -/
def createDirectories
    (workspace : Workspace)
    (text : Text) :
    Workspace × Option PathFault :=
  createDirectoriesWithin (text.length + 1) workspace text

/-- Whether a path text names a link whose target asks for a directory. -/
def leadsToSlash
    (workspace : Workspace)
    (text : Text) :
    Bool :=
  match workspace.walkSteps false text (Path.steps text) with
  | .ok (.present _ (.link target)) => Path.endsInSlash target
  | _ => false

/-- The place of the file that a path text opens for writing, with its content if it exists. -/
def writablePlace
    (workspace : Workspace)
    (text : Text) :
    Except AccessFault (Location × Option Text.Bytes) :=
  let steps := Path.steps text
  match workspace.walkSteps true text (steps.dropLast ++ [Path.currentName]) with
  | .error fault => .error fault
  | .ok _ =>
      if Path.endsInSlash text || workspace.leadsToSlash text then
        .error (.system .isDirectory)
      else
        match workspace.walkSteps true text steps with
        | .ok (.present location (.file content)) => .ok (location, some content)
        | .ok (.present _ _) => .error (.system .isDirectory)
        | .ok (.missing parent name) => .ok (parent ++ [name], none)
        | .error fault => .error fault

/-- Write a text to a file, creating it or replacing its content. -/
def store
    (workspace : Workspace)
    (text : Text)
    (content : Text) :
    Except AccessFault Workspace :=
  match workspace.writablePlace text with
  | .ok (location, _) => .ok (workspace.put location (.file (Text.encode content)))
  | .error fault => .error fault

/-- The bytes of a file. -/
def fetchBytes
    (workspace : Workspace)
    (text : Text) :
    Except AccessFault Text.Bytes :=
  match workspace.entryAt true text with
  | .ok (_, .file content) => .ok content
  | .ok _ => .error (.system .isDirectory)
  | .error fault => .error fault

/-- The content of a file as text; what is no text is taken byte by byte. -/
def fetch
    (workspace : Workspace)
    (text : Text) :
    Except AccessFault Text :=
  (workspace.fetchBytes text).map Text.ofBytes

/-- Create a link to a target that need not exist. -/
def createLink
    (workspace : Workspace)
    (text : Text)
    (target : Text) :
    Except AccessFault Workspace :=
  if text.contains '\x00' || target.contains '\x00' then .error .embeddedNull
  else if target.isEmpty then .error (.system .notFound)
  else if FileTree.maxPathSize < Text.utf8Size target then .error (.system .nameTooLong)
  else
    match workspace.freePlace text with
    | .ok (parent, name) =>
        if Path.endsInSlash text then .error (.system .notFound)
        else .ok (workspace.put (parent ++ [name]) (.link target))
    | .error fault => .error fault

/-- Take away everything below a location. -/
def clear
    (workspace : Workspace)
    (location : Location) :
    Workspace :=
  { workspace with
    tree :=
      ⟨workspace.tree.entries.filter fun pair =>
        !(location.isPrefixOf pair.1 && location.length < pair.1.length)⟩ }

/--
Remove a file, a link or a whole directory. A directory is emptied before it is
removed under the last step of the path, which has to be its own name.
-/
def removeAll
    (workspace : Workspace)
    (text : Text) :
    Workspace × Option AccessFault :=
  let steps := Path.steps text
  match workspace.entryAt false text with
  | .error fault =>
      match workspace.walkSteps false text steps with
      | .ok (.present _ _) => (workspace, some (.system .notDirectory))
      | _ => (workspace, some fault)
  | .ok (location, .directory) =>
      let cleared := workspace.clear location
      match cleared.walkSteps false text steps with
      | .error fault => (cleared, some fault)
      | .ok (.missing _ _) => (cleared, some (.system .notFound))
      | .ok (.present _ (.link _)) => (cleared, some (.system .notDirectory))
      | .ok (.present _ _) =>
          let last := steps.getLastD Path.currentName
          if last = Path.currentName then (cleared, some (.system .invalidArgument))
          else if last = Path.parentName then (cleared, some (.system .notEmpty))
          else ({ workspace with tree := workspace.tree.eraseBelow location }, none)
  | .ok (location, _) =>
      ({ workspace with tree := workspace.tree.eraseBelow location }, none)

/-- Make the directory that a path text leads to the working directory. -/
def enter
    (workspace : Workspace)
    (text : Text) :
    Except AccessFault Workspace :=
  match workspace.entryAt true text with
  | .ok (location, .directory) => .ok { workspace with directory := location }
  | .ok _ => .error (.system .notDirectory)
  | .error fault => .error fault

end ModSkeleton.Workspace
