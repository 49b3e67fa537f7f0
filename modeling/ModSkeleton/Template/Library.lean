import ModSkeleton.Template.Render
import ModSkeleton.Workspace

namespace ModSkeleton.Template

/-!
# Template libraries

A library keeps template sources in a file tree and finds them by name. A name
is a path below the root of the library; it never leads out of it, so a name
with a double-dot component finds nothing. Only a listing may start at a
directory beside or above the root.

What is no directory has an empty listing. A listing goes through all directories below
the one where it starts. It passes over a directory that may not be listed, and fails if
a directory cannot be listed for another reason, for instance because its path is too
long, or if directories are nested more deeply than there is room for.
-/

/-- Template sources in a file tree, below the root of the library. -/
structure Library where
  tree : FileTree
  root : Location
  deriving Repr, DecidableEq

namespace Library

/-- A tree with a file below a location and the directories that lead to it. -/
def insertFile
    (content : Text) :
    Location → List Text → FileTree → FileTree
  | _, [], tree => tree
  | above, [name], tree => tree.insert (above ++ [name]) (.file (Text.encode content))
  | above, name :: next :: names, tree =>
      insertFile content (above ++ [name]) (next :: names)
        (tree.insert (above ++ [name]) .directory)

/-- The library at a root that holds given sources under their names. -/
def ofFilesAt
    (root : Location)
    (files : List (Text × Text)) :
    Library where
  tree :=
    files.foldl
      (fun tree file => insertFile file.2 [] (root ++ Path.components file.1) tree)
      FileTree.empty
  root := root

/-- The source with a name. -/
def source?
    (library : Library)
    (name : Text) :
    Option Text :=
  let names := Path.components name
  if names.contains Path.parentName then none
  else
    match library.tree.walk true FileTree.maxLinks library.root names with
    | .ok (.present _ (.file source)) => Text.decode? source
    | _ => none

/-- The text of the template with a name in a context. -/
def render
    (library : Library)
    (context : Context)
    (name : Text) :
    Except TemplateError Text :=
  match library.source? name with
  | some source => renderAs (some name) context source
  | none => .error (.notFound name)

/-- The ending of the names under which templates are listed. -/
def ending : Text :=
  ".j2".toList

/-- The path of a directory that is given from the root of the library. -/
def pathOf
    (library : Library)
    (directory : Path) :
    Path :=
  if directory.root = .relative then ⟨.absolute, library.root ++ directory.parts⟩
  else directory

/-- The library as a workspace; all paths to it are absolute. -/
def workspace
    (library : Library) :
    Workspace :=
  ⟨library.tree, []⟩

/-- Why a listing fails. -/
inductive ListFault where
  | access (fault : AccessFault) (path : Path)
  | outside (path root : Path)
  | stackExhausted
  deriving Repr, DecidableEq

/-- The wording of a fault. -/
def ListFault.message : ListFault → Text
  | .access (.system fault) path => fault.report path.toText
  | .access .embeddedNull _ => AccessFault.embeddedNullMessage
  | .outside path root =>
      Text.quoted path.toText ++ " is not in the subpath of ".toList ++
        Text.quoted root.toText ++
        " OR one path is relative and the other is absolute.".toList
  | .stackExhausted => Stack.exhaustedMessage

/-- Where a path leads to a directory, and the names in it. -/
def openDirectory
    (library : Library)
    (host : Host)
    (path : Path) :
    Except AccessFault (Location × List Text) :=
  match host.locate library.workspace true path with
  | .error fault => .error fault
  | .ok (.missing _ _) => .error (.system .notFound)
  | .ok (.present location .directory) =>
      match host.namesIn library.tree location with
      | .error fault => .error (.system fault)
      | .ok names => .ok (location, names)
  | .ok (.present _ _) => .error (.system .notDirectory)

/-- Whether a fault says that a directory may not be listed. -/
def isPassedOver : AccessFault → Bool
  | .system fault => fault.deniesPermission
  | .embeddedNull => false

/--
The paths of all entries below a directory with the ending of templates, with directories
nested up to a depth. Links are not followed.
-/
def pathsBelow
    (library : Library)
    (host : Host) :
    Nat → Path → Except ListFault (List Path)
  | depth, path =>
      match library.openDirectory host path with
      | .error fault => if isPassedOver fault then .ok [] else .error (.access fault path)
      | .ok (location, names) =>
          let found := (names.filter fun name => ending.isSuffixOf name).map
            fun name => path.append [name]
          let folders := names.filter fun name =>
            library.tree.get? (location ++ [name]) = some .directory
          match depth with
          | 0 => if folders.isEmpty then .ok found else .error .stackExhausted
          | depth + 1 =>
              match folders.mapM fun name =>
                  pathsBelow library host depth (path.append [name]) with
              | .error fault => .error fault
              | .ok further => .ok (found ++ further.flatten)

/-- How deep directories are nested at most; no more of them than there are entries. -/
def maxDepth
    (library : Library)
    (host : Host) :
    Nat :=
  host.stack.listing.getD library.tree.entries.length

/-- The name of the template at a path, as seen from the root of the library. -/
def nameAt
    (library : Library)
    (path : Path) :
    Except ListFault Text :=
  if path.root = .absolute ∧ library.root <+: path.parts then
    .ok (Text.joinWith ['/'] (path.parts.drop library.root.length))
  else
    .error (.outside path ⟨.absolute, library.root⟩)

/-- The names of all templates below a directory of the library, in code point order. -/
def list
    (library : Library)
    (host : Host)
    (directory : Path) :
    Except ListFault (List Text) :=
  let start := library.pathOf directory
  match host.find? library.workspace start with
  | .error fault => .error (.access (.system fault) start)
  | .ok (some (_, .directory)) =>
      match library.pathsBelow host (library.maxDepth host) start with
      | .error fault => .error fault
      | .ok paths =>
          match paths.mapM library.nameAt with
          | .error fault => .error fault
          | .ok names => .ok (names.mergeSort Text.precedes)
  | .ok _ => .ok []

end Library

end ModSkeleton.Template
