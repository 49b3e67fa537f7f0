import ModSkeleton.Text.Basic

namespace ModSkeleton.Groovy

/-!
# Single-quoted Groovy literals

Quoting escapes the backslash, the single quote and the line feed. The backslash
comes first, so that the backslashes of the other two escapes are not escaped
again. `decodeBody?` reads the body of a literal back.
-/

/-- The body of the literal of a text. -/
def body
    (text : Text) :
    Text :=
  Text.replaceChar '\n' ['\\', 'n']
    (Text.replaceChar '\'' ['\\', '\'']
      (Text.replaceChar '\\' ['\\', '\\'] text))

/-- A text as a single-quoted literal. -/
def quote
    (text : Text) :
    Text :=
  '\'' :: (body text ++ ['\''])

/-- One character as it stands in the body of a literal. -/
def escapeChar
    (c : Char) :
    Text :=
  if c = '\\' then ['\\', '\\']
  else if c = '\'' then ['\\', '\'']
  else if c = '\n' then ['\\', 'n']
  else [c]

/-- The text that the body of a literal denotes, unless an escape is unknown. -/
def decodeBody? : Text → Option Text
  | [] => some []
  | '\\' :: escaped :: rest =>
      if escaped = '\\' || escaped = '\'' then
        (decodeBody? rest).map (escaped :: ·)
      else if escaped = 'n' then
        (decodeBody? rest).map ('\n' :: ·)
      else
        none
  | c :: rest =>
      if c = '\\' then none else (decodeBody? rest).map (c :: ·)

end ModSkeleton.Groovy
