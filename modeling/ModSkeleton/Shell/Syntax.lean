import ModSkeleton.Text.Basic

namespace ModSkeleton.Shell

/-!
# Syntax of shell scripts

A script is made of commands, and a command of words. A word is a list of parts:
plain text, and expansions that are replaced when the command runs. Every part
knows whether it stands in quotes, because unquoted results are split into fields.
-/

/-- What an expansion does with the value of its parameter. -/
inductive Operator where
  | orDefault
  | orAssign
  | orComplain
  | orNothing
  | cutStart (longest : Bool)
  | cutEnd (longest : Bool)
  deriving Repr, DecidableEq

/-- How a redirection opens a file. -/
inductive OpenMode where
  | read
  | write
  | append
  | readWrite
  deriving Repr, DecidableEq

mutual

/-- A part of a word. -/
inductive Part where
  | literal (quoted : Bool) (text : Text)
  | parameter (quoted : Bool) (name : Text)
  | length (quoted : Bool) (name : Text)
  | operation (quoted : Bool) (name : Text) (operator : Operator) (unlessEmpty : Bool)
      (operand : List Part)
  | malformed
  | output (quoted : Bool) (script : Option Command)
  | arithmetic (quoted : Bool) (expression : List Part)

/-- A change of the descriptors that a command sees. -/
inductive Redirection where
  | file (descriptor : Nat) (mode : OpenMode) (target : List Part)
  | duplicate (descriptor : Nat) (source : List Part)
  | document (descriptor : Nat) (index : Nat)

/-- A command. -/
inductive Command where
  | simple (line : Nat) (assignments : List (Text × List Part)) (words : List (List Part))
      (redirections : List Redirection)
  | negation (command : Command)
  | pipeline (stages : List Command)
  | conjunction (first second : Command)
  | disjunction (first second : Command)
  | sequence (first second : Command)
  | background (command : Command)
  | subshell (body : Command)
  | redirected (line : Nat) (body : Command) (redirections : List Redirection)
  | choice (condition success : Command) (failure : Option Command)
  | loop (untilSuccess : Bool) (condition body : Command)
  | each (line : Nat) (name : Text) (words : Option (List (List Part))) (body : Command)
  | selection (line : Nat) (subject : List Part)
      (branches : List (List (List Part) × Option Command))
  | definition (name : Text) (body : Command)

end

/-- A word is the list of its parts. -/
abbrev Word := List Part

namespace Word

/-- The text of a word that has neither quotes nor expansions. -/
def plainText? : Word → Option Text
  | [.literal false text] => some text
  | _ => none

/-- Put one character before a word. -/
def consChar
    (quoted : Bool)
    (c : Char) :
    Word → Word
  | .literal other text :: rest =>
      if quoted = other then .literal quoted (c :: text) :: rest
      else .literal quoted [c] :: .literal other text :: rest
  | word => .literal quoted [c] :: word

end Word

/-- Characters that a name may start with. -/
def isNameStart
    (c : Char) :
    Bool :=
  c.isAlpha || c = '_'

/-- Characters that a name may go on with. -/
def isNameChar
    (c : Char) :
    Bool :=
  c.isAlphanum || c = '_'

/-- Whether a text is the name of a variable. -/
def isName : Text → Bool
  | [] => false
  | c :: rest => isNameStart c && rest.all isNameChar

end ModSkeleton.Shell
