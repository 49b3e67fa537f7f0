import ModSkeleton.Workspace

namespace ModSkeleton

/-!
# Real paths

The real path of a path is absolute and leads to the same place without links, steps up
or single dots. It is found by going along the names of the path. Each of them is looked
at, and a link is replaced by the real path of its target; what cannot be looked at counts
as no link. So a part of the path that does not exist is kept as it is. A link that is met
again before its target is known leads in a circle: the rest of the path is then left as it
is, and looking up the outcome shows the circle.
-/

/-- Why a path has no real path. -/
inductive RealPathFault where
  | linkLoop (path : Path)
  | noDirectory
  | embeddedNull
  | stackExhausted
  deriving Repr, DecidableEq

namespace RealPathFault

/-- The wording of a fault. -/
def message : RealPathFault → Text
  | .linkLoop path => "Symlink loop from ".toList ++ Text.quoted path.toText
  | .noDirectory =>
      "[Errno ".toList ++ Text.decimal FileFault.notFound.number ++ "] ".toList ++
        FileFault.notFound.message
  | .embeddedNull => AccessFault.embeddedNullMessage
  | .stackExhausted => Stack.exhaustedMessage

end RealPathFault

namespace RealPath

/-- The links that were met, each with its real path once that is known. -/
abbrev Known := List (Path × Option Path)

/-- Where going along a path text ends: at a path, or with a rest behind a circle of links. -/
inductive Reached where
  | path (path : Path)
  | unfinished (text : Text)
  deriving Repr, DecidableEq

/-- One step up from a path of which only leading components may be steps up. -/
def up
    (path : Path) :
    Path :=
  match path.root, path.parts.getLast? with
  | .relative, none => path.append [Path.parentName]
  | _, none => path
  | _, some last =>
      if last = Path.parentName then path.append [Path.parentName] else path.parent

/-- A path text with a rest behind it, which takes its place if it begins with a slash. -/
def behind
    (front rest : Text) :
    Text :=
  if rest.head? = some '/' then rest
  else if front.isEmpty || Path.endsInSlash front then front ++ rest
  else front ++ '/' :: rest

/-- The target of the link that a path leads to, if it leads to one. -/
def linkAt?
    (host : Host)
    (workspace : Workspace)
    (path : Path) :
    Except RealPathFault (Option Text) :=
  match host.locate workspace false path with
  | .ok (.present _ (.link target)) => .ok (some target)
  | .error .embeddedNull => .error .embeddedNull
  | _ => .ok none

/-- Go along pieces of a path text from a path, given how the target of a link is gone along. -/
def follow
    (host : Host)
    (workspace : Workspace)
    (enter : Path → Text → Known → Except RealPathFault (Reached × Known)) :
    Path → List Text → Known → Except RealPathFault (Reached × Known)
  | path, [], known => .ok (.path path, known)
  | path, piece :: rest, known =>
      if piece = [] ∨ piece = Path.currentName then
        follow host workspace enter path rest known
      else if piece = Path.parentName then
        follow host workspace enter (up path) rest known
      else
        let next := path.append [piece]
        let unfinished (front : Text) : Reached :=
          .unfinished (behind front (Text.joinWith ['/'] rest))
        match linkAt? host workspace next with
        | .error fault => .error fault
        | .ok none => follow host workspace enter next rest known
        | .ok (some target) =>
            match known.lookup next with
            | some (some real) => follow host workspace enter real rest known
            | some none => .ok (unfinished next.toText, known)
            | none =>
                match enter path target ((next, none) :: known) with
                | .error fault => .error fault
                | .ok (.unfinished front, later) => .ok (unfinished front, later)
                | .ok (.path real, later) =>
                    follow host workspace enter real rest ((next, some real) :: later)

/-- Go along a path text from a path, with links nested up to a depth. -/
def goAlong
    (host : Host)
    (workspace : Workspace) :
    Nat → Path → Text → Known → Except RealPathFault (Reached × Known)
  | depth, path, text, known =>
      let start := if text.head? = some '/' then ⟨.absolute, []⟩ else path
      let enter :=
        match depth with
        | 0 => fun _ _ _ => .error .stackExhausted
        | depth + 1 => goAlong host workspace depth
      follow host workspace enter start (Text.splitOn '/' text) known

/--
How deep links are nested at most. Nested links have different texts: a link is found
by its names behind a number of steps up, and no path has more of these than its size.
-/
def maxDepth
    (host : Host)
    (workspace : Workspace) :
    Nat :=
  host.stack.resolving.getD (workspace.tree.entries.length * FileTree.maxPathSize + 1)

/-- A path text made absolute, by the working directory if need be, without dots. -/
def absolute
    (workspace : Workspace)
    (text : Text) :
    Except RealPathFault Path :=
  let pieces := Text.splitOn '/' text
  match Path.rootOf text with
  | .relative =>
      if workspace.tree.get? workspace.directory = some .directory then
        .ok ⟨.absolute, pieces.foldl Path.stepTo workspace.directory⟩
      else
        .error .noDirectory
  | root => .ok ⟨root, pieces.foldl Path.stepTo []⟩

/-- The text of what was reached; the empty relative path has the empty text. -/
def Reached.text : Reached → Text
  | .path reached => if reached = ⟨.relative, []⟩ then [] else reached.toText
  | .unfinished text => text

end RealPath

/-- The real path of a path. -/
def Host.realPath
    (host : Host)
    (workspace : Workspace)
    (path : Path) :
    Except RealPathFault Path :=
  let depth := RealPath.maxDepth host workspace
  match RealPath.goAlong host workspace depth ⟨.relative, []⟩ path.toText [] with
  | .error fault => .error fault
  | .ok (reached, _) =>
      match RealPath.absolute workspace reached.text with
      | .error fault => .error fault
      | .ok real =>
          match host.locate workspace true real with
          | .error (.system .tooManyLinks) => .error (.linkLoop real)
          | .error .embeddedNull => .error .embeddedNull
          | _ => .ok real

end ModSkeleton
