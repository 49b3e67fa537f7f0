import ModSkeleton.Json.Value

namespace ModSkeleton.Json

/-!
# Writing JSON

A value on one line. A comma or a colon is followed by one space; a string
escapes the quote, the backslash and the characters below U+0020, by their short
escapes where there are any, and keeps everything else as it is.
-/

/-- One character between the quotes of a JSON string. -/
def escapeChar
    (c : Char) :
    Text :=
  if c = '"' then ['\\', '"']
  else if c = '\\' then ['\\', '\\']
  else if c = '\n' then ['\\', 'n']
  else if c = '\r' then ['\\', 'r']
  else if c = '\t' then ['\\', 't']
  else if c = '\x08' then ['\\', 'b']
  else if c = '\x0c' then ['\\', 'f']
  else if c.toNat < 0x20 then '\\' :: 'u' :: Text.hexadecimal 4 c.toNat
  else [c]

/-- A text as a JSON string. -/
def writeText
    (text : Text) :
    Text :=
  '"' :: (text.flatMap escapeChar ++ ['"'])

namespace Value

mutual

/-- A value as a JSON document. -/
def write : Value → Text
  | .null => "null".toList
  | .bool true => "true".toList
  | .bool false => "false".toList
  | .int value => Text.decimal value
  | .number written => written
  | .text value => writeText value
  | .list items => '[' :: (writeItems items ++ [']'])
  | .object members => '\x7b' :: (writeMembers members ++ ['\x7d'])

/-- The items of an array with their separators. -/
def writeItems : List Value → Text
  | [] => []
  | [item] => write item
  | item :: next :: items => write item ++ ", ".toList ++ writeItems (next :: items)

/-- The members of an object with their separators. -/
def writeMembers : List (Text × Value) → Text
  | [] => []
  | [(key, value)] => writeText key ++ ": ".toList ++ write value
  | (key, value) :: next :: members =>
      writeText key ++ ": ".toList ++ write value ++ ", ".toList ++
        writeMembers (next :: members)

end

end Value

end ModSkeleton.Json
