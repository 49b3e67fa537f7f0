import ModSkeleton.Template.Segment

namespace ModSkeleton.Template

/-!
# Pieces of a template

Pieces are what remains of the segments once white space around tags is settled
and comments are gone.

A minus sign inside a delimiter drops all blanks on its side, a plus sign keeps
them. Without a sign, a block or a comment drops the blanks between the start of
its line and itself, if there is nothing else, and the line feed right behind
itself. An output without signs leaves its surroundings alone.
-/

/-- How a tag treats the blanks on one of its sides. -/
inductive Trimming where
  | usual
  | drop
  | keep
  deriving Repr, DecidableEq

/-- A tag with its signs told apart from its content. -/
structure Tag where
  kind : TagKind
  before : Trimming
  content : Text
  after : Trimming
  deriving Repr, DecidableEq

namespace Tag

/-- Tell the sign at the front of a tag from the rest. -/
def splitFront : Text → Trimming × Text
  | '-' :: rest => (.drop, rest)
  | '+' :: rest => (.keep, rest)
  | body => (.usual, body)

/-- Tell the sign at the end of a tag from the rest; outputs know no plus there. -/
def splitBack
    (kind : TagKind)
    (body : Text) :
    Text × Trimming :=
  if body.getLast? = some '-' then (body.dropLast, .drop)
  else if body.getLast? = some '+' ∧ kind ≠ .output then (body.dropLast, .keep)
  else (body, .usual)

/-- The tag with a kind and a body. -/
def ofBody
    (kind : TagKind)
    (body : Text) :
    Tag :=
  let (before, rest) := splitFront body
  let (content, after) := splitBack kind rest
  { kind, before, content, after }

end Tag

/-- Plain text, an output or a block. -/
inductive Piece where
  | text (content : Text)
  | output (content : Text)
  | block (content : Text)
  deriving Repr, DecidableEq

/-- What stands before a text: the start of the source, or a tag. -/
inductive Edge where
  | sourceStart
  | tagEnd (tag : Tag)
  deriving Repr, DecidableEq

namespace Edge

/-- The text behind an edge, and whether it starts at the start of a line. -/
def settle
    (edge : Edge)
    (text : Text) :
    Text × Bool :=
  match edge with
  | .sourceStart => (text, true)
  | .tagEnd tag =>
      match tag.after with
      | .drop => (text.dropWhile Text.isBlank, false)
      | .keep => (text, false)
      | .usual =>
          if tag.kind = .output then (text, false)
          else
            match text with
            | '\n' :: rest => (rest, true)
            | _ => (text, false)

end Edge

namespace Piece

/-- Drop the blanks between the start of a line and the end of a text. -/
def dropIndentation
    (atLineStart : Bool)
    (text : Text) :
    Text :=
  let indentation := Text.afterLast '\n' text
  if (atLineStart || text.contains '\n') && Text.allBlank indentation then
    text.take (text.length - indentation.length)
  else
    text

/-- The text before what follows it: a tag, or the end of the source. -/
def settleBefore
    (atLineStart : Bool)
    (text : Text) :
    Option Tag → Text
  | none => text
  | some tag =>
      match tag.before with
      | .drop => Text.trimEnd Text.isBlank text
      | .keep => text
      | .usual => if tag.kind = .output then text else dropIndentation atLineStart text

/-- The tag that comes next, if one does. -/
def nextTag? : List Segment → Option Tag
  | .tag kind body :: _ => some (Tag.ofBody kind body)
  | _ => none

/-- The piece that a tag leaves, if any. -/
def ofTag
    (tag : Tag) :
    List Piece :=
  match tag.kind with
  | .output => [.output tag.content]
  | .block => [.block tag.content]
  | .comment => []

/-- The pieces of segments that stand behind an edge. -/
def ofSegments : Edge → List Segment → List Piece
  | _, [] => []
  | edge, .text content :: rest =>
      let (settled, atLineStart) := edge.settle content
      .text (settleBefore atLineStart settled (nextTag? rest)) :: ofSegments edge rest
  | _, .tag kind body :: rest =>
      let tag := Tag.ofBody kind body
      ofTag tag ++ ofSegments (.tagEnd tag) rest

/-- The pieces of a template source, unless a tag is not closed. -/
def ofSource?
    (source : Text) :
    Option (List Piece) :=
  (Segment.ofSource? source).map (ofSegments .sourceStart)

end Piece

end ModSkeleton.Template
