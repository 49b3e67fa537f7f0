import ModSkeleton.Text.Basic

namespace ModSkeleton

/-!
# Paths

A path is a sequence of names below a starting point. Reading a path drops empty
and single-dot components and keeps double-dot components, whose meaning depends
on the file tree. Exactly two leading slashes are kept apart from one; three or
more count as one.
-/

/-- Where the names of a path start. -/
inductive PathRoot where
  | relative
  | absolute
  | doubleSlash
  deriving Repr, DecidableEq

/-- A path without empty and single-dot components. -/
structure Path where
  root : PathRoot
  parts : List Text
  deriving Repr, DecidableEq

namespace Path

/-- The component that leads to the enclosing directory. -/
def parentName : Text :=
  ['.', '.']

/-- The component that stays in the same directory. -/
def currentName : Text :=
  ['.']

/-- The names in a path text: its components but the empty and single-dot ones. -/
def components
    (text : Text) :
    List Text :=
  (Text.splitOn '/' text).filter fun part => !(part.isEmpty || part == ['.'])

/-- The components of a path text that a walk goes along, single dots included. -/
def steps
    (text : Text) :
    List Text :=
  (Text.splitOn '/' text).filter fun part => !part.isEmpty

/-- Whether a path text asks for a directory by a slash at its end. -/
def endsInSlash
    (text : Text) :
    Bool :=
  text.getLast? = some '/'

/-- The steps of a path text; a slash at its end is a step that stays in place. -/
def fullSteps
    (text : Text) :
    List Text :=
  if endsInSlash text then steps text ++ [currentName] else steps text

/-- A path text split before its last component, without the slashes between. -/
def splitLast
    (text : Text) :
    Text × Text :=
  let last := Text.afterLast '/' text
  let front := text.take (text.length - last.length)
  (if front.all (· == '/') then front else Text.trimEnd (· == '/') front, last)

/-- The starting point that the leading slashes of a path text denote. -/
def rootOf
    (text : Text) :
    PathRoot :=
  match (text.takeWhile (· == '/')).length with
  | 0 => .relative
  | 2 => .doubleSlash
  | _ => .absolute

/-- Read a path text. -/
def parse
    (text : Text) :
    Path where
  root :=
    rootOf text
  parts :=
    components text

/-- The text of a path; the empty relative path is a single dot. -/
def toText
    (path : Path) :
    Text :=
  let names := Text.joinWith ['/'] path.parts
  match path.root with
  | .relative => if path.parts.isEmpty then ['.'] else names
  | .absolute => '/' :: names
  | .doubleSlash => '/' :: '/' :: names

/-- The last component, empty when there is none. -/
def name
    (path : Path) :
    Text :=
  path.parts.getLastD []

/-- The path without its last component. -/
def parent
    (path : Path) :
    Path :=
  { path with parts := path.parts.dropLast }

/-- The path extended by further components. -/
def append
    (path : Path)
    (parts : List Text) :
    Path :=
  { path with parts := path.parts ++ parts }

/-- Go along one piece of a path text, whatever stands there. -/
def stepTo
    (names : List Text)
    (piece : Text) :
    List Text :=
  if piece = [] ∨ piece = currentName then names
  else if piece = parentName then names.dropLast
  else names ++ [piece]

@[simp]
theorem parts_append
    (path : Path)
    (parts : List Text) :
    (path.append parts).parts = path.parts ++ parts :=
  rfl

/-- No component of a path text is empty or a single dot. -/
theorem ne_of_mem_components
    {text part : Text}
    (member : part ∈ components text) :
    part ≠ [] ∧ part ≠ ['.'] := by
  have kept := (List.mem_filter.1 member).2
  constructor
  · rintro rfl
    simp at kept
  · rintro rfl
    simp at kept

end Path

end ModSkeleton
