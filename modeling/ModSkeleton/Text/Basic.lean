namespace ModSkeleton

/-!
# Text

All text of the project is a list of characters, so that every scanner is a
recursion on the text itself. This module holds the few operations that every
other module shares: splitting and joining, newline unification, trimming by a
character class, lines, and the numeral formats.
-/

/-- Text is a list of Unicode scalar values. -/
abbrev Text := List Char

namespace Text

/-- The maximal pieces of a text between occurrences of a separator. -/
def splitOn
    (separator : Char) :
    Text → List Text
  | [] => [[]]
  | c :: rest =>
      if c = separator then
        [] :: splitOn separator rest
      else
        match splitOn separator rest with
        | [] => [[c]]
        | piece :: pieces => (c :: piece) :: pieces

/-- The pieces written one after another with a separator between neighbours. -/
def joinWith
    (separator : Text) :
    List Text → Text
  | [] => []
  | [piece] => piece
  | piece :: next :: pieces =>
      piece ++ separator ++ joinWith separator (next :: pieces)

/-- What stands before the last occurrence of a separator; empty without one. -/
def beforeLast
    (separator : Char)
    (text : Text) :
    Text :=
  ((text.reverse.dropWhile (· != separator)).drop 1).reverse

/-- What stands after the last occurrence of a separator; all of it without one. -/
def afterLast
    (separator : Char)
    (text : Text) :
    Text :=
  (text.reverse.takeWhile (· != separator)).reverse

/-- A carriage return, alone or before a line feed, becomes one line feed. -/
def unifyNewlines : Text → Text
  | [] => []
  | '\r' :: '\n' :: rest => '\n' :: unifyNewlines rest
  | c :: rest => (if c = '\r' then '\n' else c) :: unifyNewlines rest

/-- Every occurrence of one character replaced by a text. -/
def replaceChar
    (target : Char)
    (replacement : Text)
    (text : Text) :
    Text :=
  text.flatMap fun c => if c = target then replacement else [c]

/-- Drop a class of characters from the end. -/
def trimEnd
    (dropped : Char → Bool)
    (text : Text) :
    Text :=
  (text.reverse.dropWhile dropped).reverse

/-- Drop a class of characters from both ends. -/
def trim
    (dropped : Char → Bool)
    (text : Text) :
    Text :=
  trimEnd dropped (text.dropWhile dropped)

/-- Decimal digits without leading zeros, behind a minus sign when negative. -/
def decimal : Int → Text
  | .ofNat n => Nat.toDigits 10 n
  | .negSucc n => '-' :: Nat.toDigits 10 (n + 1)

/-- Lowercase hexadecimal digits, filled with zeros up to a least width. -/
def hexadecimal
    (width : Nat)
    (n : Nat) :
    Text :=
  let digits := Nat.toDigits 16 n
  List.replicate (width - digits.length) '0' ++ digits

/-- Octal digits. -/
def isOctal
    (c : Char) :
    Bool :=
  '0' ≤ c && c ≤ '7'

/-- The number that octal digits denote. -/
def octalValue
    (digits : Text) :
    Nat :=
  digits.foldl (fun value c => value * 8 + (c.toNat - '0'.toNat)) 0

/-- Lines as a text in which every line ends with a line feed. -/
def ofLines
    (lines : List Text) :
    Text :=
  lines.flatMap fun line => line ++ ['\n']

/-- Number of bytes of the UTF-8 encoding. -/
def utf8Size : Text → Nat
  | [] => 0
  | c :: rest => c.utf8Size + utf8Size rest

/-- The order of texts by code point, as a comparison for sorting. -/
def precedes
    (first second : Text) :
    Bool :=
  !decide (second < first)

/-- Splitting yields at least one piece. -/
theorem splitOn_ne_nil
    (separator : Char)
    (text : Text) :
    splitOn separator text ≠ [] := by
  cases text with
  | nil => simp [splitOn]
  | cons c rest =>
      by_cases isSeparator : c = separator
      · simp [splitOn, isSeparator]
      · simp only [splitOn, isSeparator, if_false]
        split <;> simp

/-- Joining the pieces with the separator gives back the text that was split. -/
theorem joinWith_splitOn
    (separator : Char)
    (text : Text) :
    joinWith [separator] (splitOn separator text) = text := by
  induction text with
  | nil => rfl
  | cons c rest inductionHypothesis =>
      by_cases isSeparator : c = separator
      · cases shape : splitOn separator rest with
        | nil => exact absurd shape (splitOn_ne_nil separator rest)
        | cons piece pieces =>
            rw [shape] at inductionHypothesis
            simp [splitOn, isSeparator, shape, joinWith, inductionHypothesis]
      · cases shape : splitOn separator rest with
        | nil => exact absurd shape (splitOn_ne_nil separator rest)
        | cons piece pieces =>
            rw [shape] at inductionHypothesis
            cases pieces with
            | nil =>
                simp only [joinWith] at inductionHypothesis
                simp [splitOn, isSeparator, shape, joinWith, inductionHypothesis]
            | cons next later =>
                simp only [joinWith] at inductionHypothesis
                simp only [splitOn, isSeparator, if_false, shape, joinWith]
                rw [← inductionHypothesis]
                simp

end Text

end ModSkeleton
