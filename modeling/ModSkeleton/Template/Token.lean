import ModSkeleton.Template.Literal
import ModSkeleton.Text.Blank
import ModSkeleton.Text.Identifier

namespace ModSkeleton.Template

/-!
# Tokens inside a tag

A tag holds names, string literals in either quote, whole numbers and a few
signs, with blanks between them as one likes. Names are identifiers of any
script. Literals that follow each other are one literal.
-/

/-- A token of an expression or a directive. -/
inductive Token where
  | name (word : Text)
  | literal (value : Text)
  | integer (value : Nat)
  | tilde
  | pipe
  | comma
  | colon
  | openParen
  | closeParen
  deriving Repr, DecidableEq

/-- A token as it is written: what stands between quotes keeps its escapes. -/
inductive Lexeme where
  | word (text : Text)
  | quoted (text : Text)
  | sign (c : Char)
  deriving Repr, DecidableEq

namespace Lexeme

/-- Lexemes after one more character of a word, which may start a new one. -/
def pushWord
    (c : Char)
    (continues : Bool) :
    List Lexeme → List Lexeme
  | .word text :: lexemes =>
      if continues then .word (c :: text) :: lexemes else .word [c] :: .word text :: lexemes
  | lexemes => .word [c] :: lexemes

/-- Lexemes whose first one is quoted and takes more text in front. -/
def pushQuoted
    (text : Text) :
    List Lexeme → List Lexeme
  | .quoted later :: lexemes => .quoted (text ++ later) :: lexemes
  | lexemes => lexemes

/-- The lexemes of a text, read outside of quotes or inside given ones. -/
def scan : Option Char → Text → Option (List Lexeme)
  | none, [] => some []
  | none, c :: rest =>
      if Text.isBlank c then scan none rest
      else if Text.isIdentifierChar c then
        (scan none rest).map (pushWord c ((rest.head?.map Text.isIdentifierChar).getD false))
      else if c = '"' || c = '\'' then scan (some c) rest
      else (scan none rest).map (.sign c :: ·)
  | some _, [] => none
  | some quote, '\\' :: c :: rest =>
      (scan (some quote) rest).map (pushQuoted ['\\', c])
  | some quote, c :: rest =>
      if c = quote then (scan none rest).map (.quoted [] :: ·)
      else (scan (some quote) rest).map (pushQuoted [c])

end Lexeme

namespace Token

/-- The token of a sign. -/
def ofSign? : Char → Option Token
  | '~' => some .tilde
  | '|' => some .pipe
  | ',' => some .comma
  | ':' => some .colon
  | '(' => some .openParen
  | ')' => some .closeParen
  | _ => none

/-- Digits with single underscores between them, of which the first is not an underscore. -/
def ungroup? : Text → Option Text
  | [] => some []
  | ['_'] => none
  | '_' :: '_' :: _ => none
  | '_' :: rest => ungroup? rest
  | c :: rest => (ungroup? rest).map (c :: ·)

/-- The value of grouped digits of a base. -/
def digitsOf?
    (base : Nat)
    (written : Text) :
    Option Nat := do
  let digits ← ungroup? written
  if digits.isEmpty then none
  else
    digits.foldlM (fun value c => do
      let digit ← Json.hexDigit? c
      if digit < base then some (value * base + digit) else none) 0

/-- The whole number that a word denotes: decimal without leading zeros, or with a base. -/
def numeral?
    (word : Text) :
    Option Nat :=
  match word with
  | '0' :: mark :: digits =>
      if mark = 'x' || mark = 'X' then digitsOf? 16 digits
      else if mark = 'o' || mark = 'O' then digitsOf? 8 digits
      else if mark = 'b' || mark = 'B' then digitsOf? 2 digits
      else if (mark :: digits).all fun c => c = '0' || c = '_' then digitsOf? 10 word
      else none
  | _ => if word.head? = some '_' then none else digitsOf? 10 word

/-- The token that a lexeme stands for. -/
def ofLexeme? : Lexeme → Option Token
  | .word text =>
      if Text.isIdentifier text then some (.name text) else (numeral? text).map .integer
  | .quoted text => (Literal.unescape? text).map .literal
  | .sign c => ofSign? c

/-- Tokens after one more, which a literal joins with a literal behind it. -/
def push
    (token : Token)
    (tokens : List Token) :
    List Token :=
  match token, tokens with
  | .literal first, .literal second :: later => .literal (first ++ second) :: later
  | token, tokens => token :: tokens

/-- The tokens that lexemes stand for. -/
def ofLexemes? : List Lexeme → Option (List Token)
  | [] => some []
  | lexeme :: lexemes =>
      match ofLexeme? lexeme, ofLexemes? lexemes with
      | some token, some tokens => some (push token tokens)
      | _, _ => none

/-- The tokens of the content of a tag. -/
def ofContent?
    (content : Text) :
    Option (List Token) :=
  (Lexeme.scan none content).bind ofLexemes?

/-- Blanks and quotes do not matter to the tokens between them. -/
example :
    ofContent? " (mod_id ~ '.s')|quote ".toList =
      some [.openParen, .name "mod_id".toList, .tilde, .literal ".s".toList, .closeParen,
        .pipe, .name "quote".toList] := by
  decide +kernel

end Token

end ModSkeleton.Template
