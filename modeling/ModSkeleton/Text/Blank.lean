import ModSkeleton.Text.Basic

namespace ModSkeleton

/-!
# Blank characters

Two classes of blanks. `Char.isSpace` is the Unicode property White_Space.
`Char.isBlank` adds the four information separators U+001C to U+001F, and is
the class by which names count as blank, lines are wrapped and output is
trimmed.
-/

namespace Text

/-- The Unicode property White_Space. -/
def isSpace
    (c : Char) :
    Bool :=
  let code := c.toNat
  (0x9 ≤ code && code ≤ 0xD) || code == 0x20 || code == 0x85 || code == 0xA0 ||
    code == 0x1680 || (0x2000 ≤ code && code ≤ 0x200A) || code == 0x2028 ||
    code == 0x2029 || code == 0x202F || code == 0x205F || code == 0x3000

/-- White space or one of the information separators U+001C to U+001F. -/
def isBlank
    (c : Char) :
    Bool :=
  isSpace c || (0x1C ≤ c.toNat && c.toNat ≤ 0x1F)

/-- Drop blanks from both ends. -/
def stripBlank
    (text : Text) :
    Text :=
  trim isBlank text

/-- A text is blank when it has no character outside the class of blanks. -/
def allBlank
    (text : Text) :
    Bool :=
  text.all isBlank

end Text

end ModSkeleton
