import ModSkeleton.Json.Reader
import ModSkeleton.Text.CharName

namespace ModSkeleton.Template

/-!
# String literals

Between its quotes a literal may name characters by escapes: a letter, an octal
or hexadecimal code, or the name of a character in braces. A backslash at the end
of a line joins the next line. A backslash before anything else stands for
itself, and what follows it is then kept only if it is ASCII: any other character
is spelt by its code.
-/

namespace Literal

/-- The character named by a letter after a backslash. -/
def escapeLetter? : Char → Option Char
  | 'n' => some '\n'
  | 't' => some '\t'
  | 'r' => some '\r'
  | 'a' => some '\x07'
  | 'b' => some '\x08'
  | 'f' => some '\x0c'
  | 'v' => some '\x0b'
  | '\\' => some '\\'
  | '\'' => some '\''
  | '"' => some '"'
  | _ => none

/-- The number that hexadecimal digits denote. -/
def hexValue?
    (digits : Text) :
    Option Nat :=
  digits.foldlM (fun value c => (Json.hexDigit? c).map (value * 16 + ·)) 0

/-- The character with a code, unless there is none. -/
def charOf?
    (code : Nat) :
    Option Char :=
  if code.isValidChar then some (Char.ofNat code) else none

/-- An escape: what it stands for, and how many characters it has behind the backslash. -/
structure Escape where
  value : Text
  length : Nat
  deriving Repr, DecidableEq

/-- The escape by a letter and a number of hexadecimal digits. -/
def byCode?
    (digits : Nat)
    (after : Text) :
    Option Escape :=
  if after.length < digits then none
  else
    ((hexValue? (after.take digits)).bind charOf?).map fun c => ⟨[c], digits + 1⟩

/-- The escape by a name in braces. -/
def byName?
    (after : Text) :
    Option Escape :=
  match after with
  | '\x7b' :: rest =>
      match rest.span (· != '\x7d') with
      | (name, _ :: _) => (Text.charNamed? name).map fun c => ⟨[c], name.length + 3⟩
      | (_, []) => none
  | _ => none

/-- The escape by at most three octal digits. -/
def byOctal
    (text : Text) :
    Escape :=
  let digits := (text.takeWhile Text.isOctal).take 3
  ⟨[Char.ofNat (Text.octalValue digits)], digits.length⟩

/-- A character that no escape names, as it stands behind its backslash. -/
def spelt
    (c : Char) :
    Text :=
  if c.toNat < 0x80 then [c]
  else if c.toNat < 0x100 then 'x' :: Text.hexadecimal 2 c.toNat
  else if c.toNat < 0x10000 then 'u' :: Text.hexadecimal 4 c.toNat
  else 'U' :: Text.hexadecimal 8 c.toNat

/-- The escape whose backslash stands before a text. -/
def escape? : Text → Option Escape
  | [] => none
  | c :: rest =>
      if c = '\n' then some ⟨[], 1⟩
      else if c = 'x' then byCode? 2 rest
      else if c = 'u' then byCode? 4 rest
      else if c = 'U' then byCode? 8 rest
      else if c = 'N' then byName? rest
      else if Text.isOctal c then some (byOctal (c :: rest))
      else
        match escapeLetter? c with
        | some named => some ⟨[named], 1⟩
        | none => some ⟨'\\' :: spelt c, 1⟩

/-- The text that a literal denotes, behind some characters already done. -/
def unescapeFrom? : Nat → Text → Option Text
  | _, [] => some []
  | done + 1, _ :: rest => unescapeFrom? done rest
  | 0, c :: rest =>
      if c = '\\' then
        match escape? rest with
        | none => none
        | some escape => (unescapeFrom? escape.length rest).map (escape.value ++ ·)
      else
        (unescapeFrom? 0 rest).map (c :: ·)

/-- The text that a literal denotes, unless an escape names nothing. -/
def unescape?
    (written : Text) :
    Option Text :=
  unescapeFrom? 0 written

/-- Letters and codes. -/
example :
    unescape? "a\\n\\x41\\101\\q".toList = some "a\nAA\\q".toList := by
  decide +kernel

end Literal

end ModSkeleton.Template
