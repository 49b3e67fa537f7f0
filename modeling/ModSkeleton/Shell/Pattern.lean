import ModSkeleton.Text.Basic

namespace ModSkeleton.Shell

/-!
# Patterns

A pattern is compared with a whole text. A star stands for any text, a question mark
for any character and a bracketed set for one of its characters; what is quoted
stands for itself.
-/

/-- A character of an expanded word, which has no special meaning when quoted. -/
structure Glyph where
  char : Char
  quoted : Bool
  deriving Repr, DecidableEq

/-- The characters of glyphs. -/
def glyphText
    (glyphs : List Glyph) :
    Text :=
  glyphs.map (·.char)

/-- A member of a bracketed set. -/
inductive SetMember where
  | range (first last : Char)
  | named (name : Text)
  deriving Repr, DecidableEq

namespace SetMember

/-- Whether a character belongs to a member of a set. -/
def accepts
    (c : Char) :
    SetMember → Bool
  | .range first last => first ≤ c && c ≤ last
  | .named name =>
      match String.ofList name with
      | "alpha" => c.isAlpha
      | "digit" => c.isDigit
      | "alnum" => c.isAlphanum
      | "upper" => c.isUpper
      | "lower" => c.isLower
      | "space" => c = ' ' || ('\t' ≤ c && c ≤ '\r')
      | "blank" => c = ' ' || c = '\t'
      | "punct" => '!' ≤ c && c ≤ '~' && !c.isAlphanum
      | "xdigit" => c.isDigit || ('a' ≤ c && c ≤ 'f') || ('A' ≤ c && c ≤ 'F')
      | _ => false

end SetMember

/-- An element of a pattern. -/
inductive PatternItem where
  | char (c : Char)
  | one
  | many
  | set (negated : Bool) (members : List SetMember)
  deriving Repr, DecidableEq

namespace PatternItem

/-- Whether an element that stands for one character accepts it. -/
def accepts
    (c : Char) :
    PatternItem → Bool
  | .char expected => c = expected
  | .one => true
  | .many => false
  | .set negated members => members.any (·.accepts c) != negated

end PatternItem

/-- A pattern is the list of its elements. -/
abbrev Pattern := List PatternItem

namespace Pattern

/-- Everything that a text ends in, itself first. -/
def endings : Text → List Text
  | [] => [[]]
  | c :: rest => (c :: rest) :: endings rest

/-- Whether a pattern fits a whole text. -/
def fits : Pattern → Text → Bool
  | [], text => text.isEmpty
  | .many :: rest, text => (endings text).any fun ending => fits rest ending
  | item :: rest, c :: text => item.accepts c && fits rest text
  | _ :: _, [] => false

/-- The range that glyphs start with, unless its end closes the set. -/
def rangeOf? : List Glyph → Option (Char × Char)
  | first :: ⟨'-', false⟩ :: last :: _ =>
      if last.char = ']' && !last.quoted then none else some (first.char, last.char)
  | _ => none

/-- The members of a set and how many glyphs it takes, behind some that are read already. -/
def members? : Nat → Bool → List Glyph → Option (List SetMember × Nat)
  | _, _, [] => none
  | done + 1, atStart, _ :: rest =>
      (members? done atStart rest).map fun (members, size) => (members, size + 1)
  | 0, atStart, glyph :: rest =>
      if glyph.char = ']' && !glyph.quoted && !atStart then some ([], 1)
      else
        match rangeOf? (glyph :: rest) with
        | some (first, last) =>
            (members? 2 false rest).map fun (members, size) =>
              (.range first last :: members, size + 1)
        | none =>
            (members? 0 false rest).map fun (members, size) =>
              (.range glyph.char glyph.char :: members, size + 1)

/-- The class that a set names at its start, and how many glyphs the name takes. -/
def classOf? : List Glyph → Option (SetMember × Nat)
  | ⟨'[', false⟩ :: ⟨':', _⟩ :: rest =>
      let name := rest.takeWhile fun glyph => glyph.char != ':'
      match rest.drop name.length with
      | ⟨':', _⟩ :: ⟨']', _⟩ :: _ => some (.named (glyphText name), name.length + 4)
      | _ => none
  | _ => none

/-- The members of a set that may start with a named class. -/
def setMembers?
    (glyphs : List Glyph) :
    Option (List SetMember × Nat) :=
  match classOf? glyphs with
  | some (named, used) =>
      (members? 0 false (glyphs.drop used)).map fun (members, size) =>
        (named :: members, size + used)
  | none => members? 0 true glyphs

/-- The pattern of glyphs, behind some that are read already. -/
def ofGlyphsFrom : Nat → List Glyph → Pattern
  | _, [] => []
  | done + 1, _ :: rest => ofGlyphsFrom done rest
  | 0, ⟨c, quoted⟩ :: rest =>
      if quoted then .char c :: ofGlyphsFrom 0 rest
      else if c = '*' then .many :: ofGlyphsFrom 0 rest
      else if c = '?' then .one :: ofGlyphsFrom 0 rest
      else if c = '[' then
        let negated := (rest.head?.map (·.char)) = some '!'
        match setMembers? (if negated then rest.drop 1 else rest) with
        | some (members, size) =>
            .set negated members :: ofGlyphsFrom (if negated then size + 1 else size) rest
        | none => .char c :: ofGlyphsFrom 0 rest
      else
        .char c :: ofGlyphsFrom 0 rest

/-- The pattern that glyphs denote. -/
def ofGlyphs
    (glyphs : List Glyph) :
    Pattern :=
  ofGlyphsFrom 0 glyphs

/-- Whether a pattern stands for more than itself. -/
def isOpen
    (pattern : Pattern) :
    Bool :=
  pattern.any fun item => match item with
    | .char _ => false
    | _ => true

/-- A text without the shortest or longest start that fits a pattern. -/
def cutStart
    (pattern : Pattern)
    (longest : Bool)
    (text : Text) :
    Text :=
  let sizes := List.range (text.length + 1)
  let ordered := if longest then sizes.reverse else sizes
  match ordered.find? fun size => pattern.fits (text.take size) with
  | some size => text.drop size
  | none => text

/-- A text without the shortest or longest end that fits a pattern. -/
def cutEnd
    (pattern : Pattern)
    (longest : Bool)
    (text : Text) :
    Text :=
  let sizes := List.range (text.length + 1)
  let ordered := if longest then sizes else sizes.reverse
  match ordered.find? fun size => pattern.fits (text.drop size) with
  | some size => text.take size
  | none => text

end Pattern

end ModSkeleton.Shell
