import ModSkeleton.Text.Width

namespace ModSkeleton

/-!
# Display width of texts

Characters that are shown as one sign form a grapheme: a character with the
marks behind it, or several emoji that are joined. The width of a text is the
number of columns of its graphemes. A joiner takes the character behind it into
the grapheme without a column of its own, and a selector widens a narrow
character that has a presentation as emoji.
-/

namespace Text

/-- The character that joins its neighbours into one sign. -/
def joiner : Char :=
  Char.ofNat 0x200D

/-- The character that selects the presentation as emoji. -/
def emojiSelector : Char :=
  Char.ofNat 0xFE0F

/--
Columns taken by a text behind the last character that took some; what stands
right behind a joiner takes none.
-/
def widthAfter : Option Char → Bool → Text → Nat
  | _, _, [] => 0
  | last, true, _ :: rest => widthAfter last false rest
  | last, false, c :: rest =>
      if c = joiner then widthAfter last true rest
      else if c = emojiSelector then
        (if last.any isWidenable then 1 else 0) + widthAfter none false rest
      else if charWidth c = 0 then widthAfter last false rest
      else charWidth c + widthAfter (some c) false rest

/-- Columns taken by a text. -/
def width
    (text : Text) :
    Nat :=
  widthAfter none false text

/-- A sign: its characters and the columns it takes. -/
structure Grapheme where
  characters : Text
  columns : Nat
  deriving Repr, DecidableEq

namespace Grapheme

/-- A grapheme that goes on with more characters. -/
def extend
    (grapheme : Grapheme)
    (characters : Text) :
    Grapheme :=
  { grapheme with characters := grapheme.characters ++ characters }

end Grapheme

/-- Graphemes, the last first, whose last one goes on with characters. -/
def extendLast
    (characters : Text)
    (graphemes : List Grapheme) :
    List Grapheme :=
  match graphemes with
  | [] => [⟨characters, 0⟩]
  | grapheme :: before => grapheme.extend characters :: before

/--
The graphemes of a text behind those that are already found, the last first,
behind the last character that took columns, and possibly right behind a joiner.
-/
def graphemesFrom : List Grapheme → Option Char → Bool → Text → List Grapheme
  | found, _, _, [] => found.reverse
  | found, last, true, c :: rest => graphemesFrom (extendLast [c] found) last false rest
  | found, last, false, c :: rest =>
      if c = joiner then graphemesFrom (extendLast [c] found) last (!found.isEmpty) rest
      else if c = emojiSelector then
        match found, last.any isWidenable with
        | grapheme :: before, true =>
            graphemesFrom (⟨grapheme.characters ++ [c], grapheme.columns + 1⟩ :: before) none
              false rest
        | _, _ => graphemesFrom (extendLast [c] found) last false rest
      else if charWidth c = 0 then graphemesFrom (extendLast [c] found) last false rest
      else graphemesFrom (⟨[c], charWidth c⟩ :: found) (some c) false rest

/-- The graphemes of a text. -/
def graphemes
    (text : Text) :
    List Grapheme :=
  graphemesFrom [] none false text

/--
The beginning of some graphemes that takes a number of columns; of a wide one
that is cut in half, a space remains.
-/
def takeColumns : Nat → List Grapheme → Text
  | _, [] => []
  | columns, grapheme :: later =>
      if columns = 0 then []
      else if grapheme.columns ≤ columns then
        grapheme.characters ++ takeColumns (columns - grapheme.columns) later
      else [' ']

/-- Joined emoji are one sign, and a selector widens a heart. -/
example :
    width [Char.ofNat 0x1F468, joiner, Char.ofNat 0x1F469] = 2 ∧
      width [Char.ofNat 0x2764, emojiSelector] = 2 := by
  decide +kernel

end Text

end ModSkeleton
