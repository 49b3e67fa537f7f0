import ModSkeleton.FileTree.Basic
import ModSkeleton.Path

namespace ModSkeleton.FileTree

/-!
# Walking a path through a file tree

A walk goes from a directory along the names of a path. Every name but the last
has to lead to a directory; a single dot stays there. A link is replaced by its
target; a walk that meets more than forty links fails. Whether a link at the very
end is followed is up to the caller.

`scan` goes up to the first link that has to be followed, and `walk` puts its
target in place and scans again, so both recurse on their data. The directories in
which they look names up are `scanned` and `searched`: these are what a machine may
refuse to search.
-/

/-- Longest name of an entry, in bytes. -/
def maxNameSize : Nat :=
  255

/-- Longest path that the system takes, in bytes. -/
def maxPathSize : Nat :=
  4095

/-- How many links a walk may follow. -/
def maxLinks : Nat :=
  40

/-- Where a walk ends. -/
inductive Place where
  | present (location : Location) (entry : Entry)
  | missing (parent : Location) (name : Text)
  deriving Repr, DecidableEq

/-- The location that a place names, whether something stands there or not. -/
def Place.location : Place → Location
  | .present location _ => location
  | .missing parent name => parent ++ [name]

/-- Where a scan stops: at the end of the walk, or at a link to be followed. -/
inductive Stop where
  | arrived (place : Place)
  | link (directory : Location) (target : Text) (rest : List Text)
  deriving Repr, DecidableEq

/-- Go along names from a location until the end or a link to be followed. -/
def scan
    (tree : FileTree)
    (followLast : Bool) :
    Location → List Text → Except FileFault Stop
  | location, [] =>
      match tree.get? location with
      | some entry => .ok (.arrived (.present location entry))
      | none => .error .notFound
  | location, name :: rest =>
      match tree.get? location with
      | some .directory =>
          if name = Path.parentName then
            scan tree followLast location.dropLast rest
          else if name = Path.currentName then
            scan tree followLast location rest
          else if maxNameSize < Text.utf8Size name then
            .error .nameTooLong
          else
            match tree.get? (location ++ [name]) with
            | none =>
                if rest.isEmpty then .ok (.arrived (.missing location name))
                else .error .notFound
            | some (.link target) =>
                if rest.isEmpty && !followLast then
                  .ok (.arrived (.present (location ++ [name]) (.link target)))
                else
                  .ok (.link location target rest)
            | some _ => scan tree followLast (location ++ [name]) rest
      | some _ => .error .notDirectory
      | none => .error .notFound

/-- Go along names from a location, following at most a number of links. -/
def walk
    (tree : FileTree)
    (followLast : Bool) :
    Nat → Location → List Text → Except FileFault Place
  | budget, location, names =>
      match scan tree followLast location names with
      | .error fault => .error fault
      | .ok (.arrived place) => .ok place
      | .ok (.link directory target rest) =>
          match budget with
          | 0 => .error .tooManyLinks
          | budget + 1 =>
              let start := if target.head? = some '/' then [] else directory
              walk tree followLast budget start (Path.fullSteps target ++ rest)

/-- Where one name leads from a location, whatever stands there. -/
def stepAlong
    (location : Location)
    (name : Text) :
    Location :=
  if name = Path.parentName then location.dropLast else location ++ [name]

/-- The directories in which a scan looks names up, in order. -/
def scanned
    (tree : FileTree) :
    Location → List Text → List Location
  | _, [] => []
  | location, name :: rest =>
      match tree.get? location with
      | some .directory =>
          location ::
            (if name = Path.parentName then
              scanned tree location.dropLast rest
            else if name = Path.currentName then
              scanned tree location rest
            else if maxNameSize < Text.utf8Size name then
              []
            else
              match tree.get? (location ++ [name]) with
              | none => []
              | some (.link _) => []
              | some _ => scanned tree (location ++ [name]) rest)
      | _ => []

/-- The directories in which a walk looks names up, in order. -/
def searched
    (tree : FileTree)
    (followLast : Bool) :
    Nat → Location → List Text → List Location
  | budget, location, names =>
      scanned tree location names ++
        match scan tree followLast location names, budget with
        | .ok (.link directory target rest), budget + 1 =>
            let start := if target.head? = some '/' then [] else directory
            searched tree followLast budget start (Path.fullSteps target ++ rest)
        | _, _ => []

/-- Where the names of a path start, seen from a working directory. -/
def startOf
    (workingDirectory : Location)
    (path : Path) :
    Location :=
  if path.root = .relative then workingDirectory else []

/-- The place that a path leads to from a working directory. -/
def locate
    (tree : FileTree)
    (workingDirectory : Location)
    (followLast : Bool)
    (path : Path) :
    Except AccessFault Place :=
  if path.toText.contains '\x00' then .error .embeddedNull
  else if maxPathSize < Text.utf8Size path.toText then .error (.system .nameTooLong)
  else
    match walk tree followLast maxLinks (startOf workingDirectory path) path.parts with
    | .ok place => .ok place
    | .error fault => .error (.system fault)

/-- The directories in which the names of a path are looked up, in order. -/
def searchedFor
    (tree : FileTree)
    (workingDirectory : Location)
    (followLast : Bool)
    (path : Path) :
    List Location :=
  if path.toText.contains '\x00' || decide (maxPathSize < Text.utf8Size path.toText) then []
  else
    searched tree followLast maxLinks (startOf workingDirectory path)
      (Path.fullSteps path.toText)

end ModSkeleton.FileTree
