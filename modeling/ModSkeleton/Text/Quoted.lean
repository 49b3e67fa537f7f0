import ModSkeleton.Text.Printable

namespace ModSkeleton

/-!
# Quoted text

The form in which messages show a value: between quotes, with the quote, the
backslash and everything unprintable escaped. The double quote is used when the
text has a single quote and no double quote, the single quote otherwise, so a
text seldom needs an escaped quote.
-/

namespace Text

/-- The quote that surrounds a text. -/
def quoteMark
    (text : Text) :
    Char :=
  if text.contains '\'' && !text.contains '"' then '"' else '\''

/-- One character as it stands between two quote marks. -/
def quoteChar
    (mark : Char)
    (c : Char) :
    Text :=
  if c = mark || c = '\\' then ['\\', c]
  else if c = '\n' then ['\\', 'n']
  else if c = '\r' then ['\\', 'r']
  else if c = '\t' then ['\\', 't']
  else if isPrintable c then [c]
  else if c.toNat < 0x100 then '\\' :: 'x' :: hexadecimal 2 c.toNat
  else if c.toNat < 0x10000 then '\\' :: 'u' :: hexadecimal 4 c.toNat
  else '\\' :: 'U' :: hexadecimal 8 c.toNat

/-- A text between quotes with its special characters escaped. -/
def quoted
    (text : Text) :
    Text :=
  let mark := quoteMark text
  mark :: (text.flatMap (quoteChar mark) ++ [mark])

/-- The surrounding quote is one of the two quote characters. -/
theorem quoteMark_eq
    (text : Text) :
    quoteMark text = '"' ∨ quoteMark text = '\'' := by
  unfold quoteMark
  split <;> simp

end Text

end ModSkeleton
