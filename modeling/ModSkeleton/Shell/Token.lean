import ModSkeleton.Shell.Syntax

namespace ModSkeleton.Shell

/-!
# Tokens of shell scripts

A script is read token by token, as what counts as a token depends on what was read
before. The cursor holds the text that is still to be read, the number of the line
it starts on, and the documents that redirections have announced: their bodies
follow the next newline.
-/

/-- A token of a script. -/
inductive Token where
  | ending
  | newline
  | word (parts : Word)
  | keyword (text : Text)
  | mark (text : Text)
  | redirection (descriptor : Nat) (mark : Text)

namespace Token

/-- What complaints call a token. -/
def name : Token → Text
  | .ending => "end of file".toList
  | .newline => "newline".toList
  | .word _ => "word".toList
  | .keyword text => '"' :: (text ++ ['"'])
  | .mark text => '"' :: (text ++ ['"'])
  | .redirection _ _ => "redirection".toList

/-- Whether a token is a keyword. -/
def isKeyword
    (token : Token)
    (text : String) :
    Bool :=
  match token with
  | .keyword found => found = text.toList
  | _ => false

/-- Whether a token is a mark. -/
def isMark
    (token : Token)
    (text : String) :
    Bool :=
  match token with
  | .mark found => found = text.toList
  | _ => false

/-- Whether a token can only stand behind a list of commands. -/
def endsList : Token → Bool
  | .ending => true
  | .mark text => [")", ";;"].any fun mark => mark.toList = text
  | .keyword text =>
      ["do", "done", "elif", "else", "esac", "fi", "then", "\x7d"].any fun word =>
        word.toList = text
  | _ => false

end Token

/-- The words with a meaning of their own where a command may start. -/
def keywords : List Text :=
  ["!", "case", "do", "done", "elif", "else", "esac", "fi", "for", "if", "in", "then", "until",
   "while", "\x7b", "\x7d"].map String.toList

/-- A complaint about a script, with the line it arose on. -/
structure SyntaxError where
  line : Nat
  complaint : Text
  deriving Repr, DecidableEq

/-- A document that a redirection announced. -/
structure Announcement where
  index : Nat
  delimiter : Text
  expands : Bool
  dropsTabs : Bool
  deriving Repr, DecidableEq

/-- Where the reading of a script stands. -/
structure Cursor where
  rest : Text
  line : Nat
  pushed : Option Token
  announced : List Announcement
  documents : List Word

/-- A reader of a part of a script. -/
abbrev Reader := StateT Cursor (Except SyntaxError)

namespace Reader

/-- Stop with a complaint. -/
def fail
    {α : Type}
    (complaint : Text) :
    Reader α := do
  throw ⟨(← get).line, complaint⟩

/-- Stop with a complaint about a token, naming what was expected if that is known. -/
def unexpected
    {α : Type}
    (token : Token)
    (expected : Option Text) :
    Reader α :=
  fail <|
    token.name ++ " unexpected".toList ++
      match expected with
      | none => []
      | some wanted => " (expecting ".toList ++ wanted ++ [')']

/-- The next character, which stays unread. -/
def peek? : Reader (Option Char) := do
  return (← get).rest.head?

/-- Leave a number of characters behind. -/
def skip
    (count : Nat) :
    Reader Unit :=
  modify fun cursor =>
    { cursor with
      rest := cursor.rest.drop count
      line := cursor.line + (cursor.rest.take count).count '\n' }

/-- Read characters as long as they are in a class. -/
def takeWhile
    (isWanted : Char → Bool) :
    Reader Text := do
  let taken := (← get).rest.takeWhile isWanted
  skip taken.length
  return taken

/-- Unread a token. -/
def pushBack
    (token : Token) :
    Reader Unit :=
  modify fun cursor => { cursor with pushed := some token }

end Reader

end ModSkeleton.Shell
