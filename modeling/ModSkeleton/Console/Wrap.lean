import ModSkeleton.Text.Blank
import ModSkeleton.Text.Grapheme

namespace ModSkeleton.Console

/-!
# Wrapping

Text is broken into lines that fit a number of columns. A line is filled word by
word, where a word takes the blanks behind it along; a word that does not fit
starts a new line. A word that is wider than a whole line is folded over several
lines or cut off with an ellipsis. Blanks at the end of a line do not make it too
long, they are dropped as far as they exceed the width.
-/

/-- What happens to a word that is wider than a line. -/
inductive Overflow where
  | fold
  | ellipsis
  deriving Repr, DecidableEq

/-- Distance of the stops of the tabulator. -/
def tabWidth : Nat :=
  8

/-- Parts between tabulators, from a column on, with spaces up to the next stop. -/
def expandParts : Nat → List Text → Text
  | _, [] => []
  | _, [part] => part
  | column, part :: next :: parts =>
      let reached := column + Text.width (part ++ [' '])
      let missing := (tabWidth - reached % tabWidth) % tabWidth
      part ++ List.replicate (missing + 1) ' ' ++ expandParts (reached + missing) (next :: parts)

/-- Replace tabulators by spaces up to the next stop. -/
def expandTabs
    (line : Text) :
    Text :=
  expandParts 0 (Text.splitOn '\t' line)

/-- Text cut behind every run of blanks that something else follows. -/
def cutBehindBlanks : Text → List Text
  | [] => []
  | c :: rest =>
      match rest, cutBehindBlanks rest with
      | next :: _, piece :: pieces =>
          if Text.isBlank c && !Text.isBlank next then [c] :: piece :: pieces
          else (c :: piece) :: pieces
      | _, pieces => [c] :: pieces

/-- The words of a line with the blanks around them. -/
def wordsOfLine
    (line : Text) :
    List Text :=
  let (indentation, body) := line.span Text.isBlank
  match cutBehindBlanks body with
  | [] => if indentation.isEmpty then [] else [indentation]
  | word :: words => (indentation ++ word) :: words

/-- Graphemes cut into lines of at most some columns, the first partly filled. -/
def chopFrom
    (columns : Nat) :
    Text → Nat → List Text.Grapheme → List Text
  | current, _, [] => [current]
  | current, used, grapheme :: later =>
      if used + grapheme.columns ≤ columns then
        chopFrom columns (current ++ grapheme.characters) (used + grapheme.columns) later
      else
        current :: chopFrom columns grapheme.characters grapheme.columns later

/-- Text cut into lines of at most some columns. -/
def chop
    (columns : Nat)
    (text : Text) :
    List Text :=
  chopFrom columns [] 0 (Text.graphemes text)

/-- Lines that are complete, and the line that is being filled. -/
structure Filling where
  complete : List Text
  current : Text
  column : Nat
  deriving Repr, DecidableEq

namespace Filling

/-- Nothing filled yet. -/
def start : Filling :=
  ⟨[], [], 0⟩

/-- Begin a new line, unless nothing was filled yet. -/
def newLine
    (filling : Filling) :
    Filling :=
  if filling.complete.isEmpty && filling.current.isEmpty then filling
  else ⟨filling.complete ++ [filling.current], [], 0⟩

/-- Put text on the current line. -/
def put
    (filling : Filling)
    (text : Text) :
    Filling :=
  { filling with
    current := filling.current ++ text
    column := filling.column + Text.width text }

/-- Fill in one word. -/
def add
    (columns : Nat)
    (overflow : Overflow)
    (filling : Filling)
    (word : Text) :
    Filling :=
  let needed := Text.width (Text.trimEnd Text.isBlank word)
  if filling.column + needed ≤ columns then filling.put word
  else if columns < needed && overflow = .fold then
    (chop columns word).foldl (fun current piece => current.newLine.put piece) filling
  else filling.newLine.put word

/-- All lines. -/
def lines
    (filling : Filling) :
    List Text :=
  filling.complete ++ [filling.current]

end Filling

/-- Break one line at its words. -/
def fillLine
    (columns : Nat)
    (overflow : Overflow)
    (line : Text) :
    List Text :=
  ((wordsOfLine line).foldl (Filling.add columns overflow) .start).lines

/-- Drop blanks at the end as far as a line has too many characters. -/
def cropEnd
    (columns : Nat)
    (line : Text) :
    Text :=
  let blanks := (line.reverse.takeWhile Text.isBlank).length
  line.take (line.length - min blanks (line.length - columns))

/-- Fill a text up to some columns. -/
def fillUp
    (columns : Nat)
    (text : Text) :
    Text :=
  text ++ List.replicate (columns - Text.width text) ' '

/-- Cut or fill a text to some columns. -/
def fit
    (columns : Nat)
    (text : Text) :
    Text :=
  if Text.width text ≤ columns then fillUp columns text
  else Text.takeColumns columns (Text.graphemes text)

/-- Cut a line that is wider than some columns. -/
def truncate
    (columns : Nat)
    (overflow : Overflow)
    (line : Text) :
    Text :=
  if Text.width line ≤ columns then line
  else
    match overflow with
    | .fold => fit columns line
    | .ellipsis => fit (columns - 1) line ++ [Char.ofNat 0x2026]

/-- The lines of a text in some columns; lines are not broken on request. -/
def wrap
    (columns : Nat)
    (overflow : Overflow)
    (keepsLines : Bool)
    (text : Text) :
    List Text :=
  (Text.splitOn '\n' text).flatMap fun line =>
    let expanded := expandTabs line
    let parts :=
      if keepsLines then [expanded]
      else (fillLine columns overflow expanded).map (cropEnd columns)
    parts.map (truncate columns overflow)

/-- A line in the middle of some columns, with the odd space on the right. -/
def centre
    (columns : Nat)
    (overflow : Overflow)
    (line : Text) :
    Text :=
  let shown := truncate columns overflow (Text.trimEnd Text.isBlank line)
  fillUp columns (List.replicate ((columns - Text.width shown) / 2) ' ' ++ shown)

end ModSkeleton.Console
