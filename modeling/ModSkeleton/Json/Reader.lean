import ModSkeleton.Json.Writer

namespace ModSkeleton.Json

/-!
# Reading JSON

A strict reader: exactly one value, surrounded by JSON white space only. Strings
refuse raw characters below U+0020 and lone surrogates. Members are kept in the
order in which they stand, repeated keys included.

The recursion is bounded by the length of the text, since every step that
descends into a value has consumed a character.
-/

/-- White space between JSON tokens. -/
def isSeparator
    (c : Char) :
    Bool :=
  c = ' ' || c = '\n' || c = '\r' || c = '\t'

/-- The text without its leading white space. -/
def skipSeparators
    (text : Text) :
    Text :=
  text.dropWhile isSeparator

/-- The value of a hexadecimal digit of either case. -/
def hexDigit?
    (c : Char) :
    Option Nat :=
  if c.isDigit then some (c.toNat - '0'.toNat)
  else if 'a' ≤ c && c ≤ 'f' then some (c.toNat - 'a'.toNat + 10)
  else if 'A' ≤ c && c ≤ 'F' then some (c.toNat - 'A'.toNat + 10)
  else none

/-- The character named by a letter after a backslash. -/
def escapeLetter?
    (c : Char) :
    Option Char :=
  if c = '"' || c = '\\' || c = '/' then some c
  else if c = 'n' then some '\n'
  else if c = 'r' then some '\r'
  else if c = 't' then some '\t'
  else if c = 'b' then some '\x08'
  else if c = 'f' then some '\x0c'
  else none

/--
The code units of a string after its opening quote, with the text after the
closing one. Escapes by number may name the halves of a surrogate pair.
-/
def readUnits : Text → Option (List Nat × Text)
  | [] => none
  | '"' :: rest => some ([], rest)
  | '\\' :: 'u' :: a :: b :: c :: d :: rest => do
      let unit := (← hexDigit? a) * 0x1000 + (← hexDigit? b) * 0x100 +
        (← hexDigit? c) * 0x10 + (← hexDigit? d)
      let (units, after) ← readUnits rest
      some (unit :: units, after)
  | '\\' :: letter :: rest => do
      let c ← escapeLetter? letter
      let (units, after) ← readUnits rest
      some (c.toNat :: units, after)
  | c :: rest => do
      if c = '\\' || c.toNat < 0x20 then none
      else
        let (units, after) ← readUnits rest
        some (c.toNat :: units, after)

/-- Code units as characters, a surrogate pair as the one it stands for. -/
def joinUnits : List Nat → Option Text
  | [] => some []
  | unit :: units =>
      if 0xDC00 ≤ unit && unit < 0xE000 then none
      else if 0xD800 ≤ unit && unit < 0xDC00 then
        match units with
        | low :: later =>
            if 0xDC00 ≤ low && low < 0xE000 then do
              let text ← joinUnits later
              some (Char.ofNat (0x10000 + (unit - 0xD800) * 0x400 + (low - 0xDC00)) :: text)
            else none
        | [] => none
      else do
        let text ← joinUnits units
        some (Char.ofNat unit :: text)

/-- A string after its opening quote. -/
def readText
    (text : Text) :
    Option (Text × Text) := do
  let (units, after) ← readUnits text
  let value ← joinUnits units
  some (value, after)

/-- The number that decimal digits denote. -/
def digitsValue
    (digits : Text) :
    Nat :=
  digits.foldl (fun value c => value * 10 + (c.toNat - '0'.toNat)) 0

/-- The digits at the front of a text, at least one of them. -/
def readDigits?
    (text : Text) :
    Option (Text × Text) :=
  match text.takeWhile Char.isDigit with
  | [] => none
  | digits => some (digits, text.dropWhile Char.isDigit)

/-- A fraction, if one stands at the front of a text. -/
def readFraction
    (text : Text) :
    Option (Text × Text) :=
  match text with
  | '.' :: rest => (readDigits? rest).map fun (digits, after) => ('.' :: digits, after)
  | _ => some ([], text)

/-- An exponent, if one stands at the front of a text. -/
def readExponent
    (text : Text) :
    Option (Text × Text) :=
  match text with
  | c :: rest =>
      if c = 'e' || c = 'E' then
        match rest with
        | sign :: digits =>
            if sign = '+' || sign = '-' then
              (readDigits? digits).map fun (digits, after) => (c :: sign :: digits, after)
            else
              (readDigits? rest).map fun (digits, after) => (c :: digits, after)
        | [] => none
      else some ([], text)
  | [] => some ([], [])

/-- An unsigned number, with the sign that was read before it. -/
def readNumber
    (negative : Bool)
    (text : Text) :
    Option (Value × Text) := do
  let (whole, afterWhole) ← readDigits? text
  if whole.length > 1 && whole.head? = some '0' then none
  else
    let (fraction, afterFraction) ← readFraction afterWhole
    let (exponent, after) ← readExponent afterFraction
    if fraction.isEmpty && exponent.isEmpty then
      let magnitude : Int := digitsValue whole
      some (.int (if negative then -magnitude else magnitude), after)
    else
      some (.number ((if negative then ['-'] else []) ++ whole ++ fraction ++ exponent), after)

/-- What remains of a text behind an expected beginning. -/
def readWord
    (word : Text)
    (text : Text) :
    Option Text :=
  if word.isPrefixOf text then some (text.drop word.length) else none

mutual

/-- The value at the front of a text, with the text behind it. -/
def readValue : Nat → Text → Option (Value × Text)
  | 0, _ => none
  | fuel + 1, text =>
      match skipSeparators text with
      | [] => none
      | c :: rest =>
          if c = '"' then
            (readText rest).map fun (value, after) => (.text value, after)
          else if c = '[' then
            match skipSeparators rest with
            | ']' :: after => some (.list [], after)
            | inner => (readItems fuel inner).map fun (items, after) => (.list items, after)
          else if c = '\x7b' then
            match skipSeparators rest with
            | '\x7d' :: after => some (.object [], after)
            | inner =>
                (readMembers fuel inner).map fun (members, after) => (.object members, after)
          else if c = '-' then readNumber true rest
          else if c.isDigit then readNumber false (c :: rest)
          else if c = 't' then (readWord "rue".toList rest).map fun after => (.bool true, after)
          else if c = 'f' then (readWord "alse".toList rest).map fun after => (.bool false, after)
          else if c = 'n' then (readWord "ull".toList rest).map fun after => (.null, after)
          else none

/-- The items of an array up to its closing bracket. -/
def readItems : Nat → Text → Option (List Value × Text)
  | 0, _ => none
  | fuel + 1, text => do
      let (item, afterItem) ← readValue fuel text
      match skipSeparators afterItem with
      | ',' :: rest =>
          let (items, after) ← readItems fuel rest
          some (item :: items, after)
      | ']' :: after => some ([item], after)
      | _ => none

/-- The members of an object up to its closing brace. -/
def readMembers : Nat → Text → Option (List (Text × Value) × Text)
  | 0, _ => none
  | fuel + 1, text =>
      match skipSeparators text with
      | '"' :: keyRest => do
          let (key, afterKey) ← readText keyRest
          match skipSeparators afterKey with
          | ':' :: valueRest =>
              let (value, afterValue) ← readValue fuel valueRest
              match skipSeparators afterValue with
              | ',' :: rest =>
                  let (members, after) ← readMembers fuel rest
                  some ((key, value) :: members, after)
              | '\x7d' :: after => some ([(key, value)], after)
              | _ => none
          | _ => none
      | _ => none

end

/-- The value that a whole text denotes, if it is a JSON document. -/
def read?
    (text : Text) :
    Option Value := do
  let (value, after) ← readValue (2 * text.length + 2) text
  if (skipSeparators after).isEmpty then some value else none

/-- The digits of a number denote it. -/
example : digitsValue "1204".toList = 1204 := by decide

end ModSkeleton.Json
