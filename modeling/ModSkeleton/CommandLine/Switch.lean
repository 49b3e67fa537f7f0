import ModSkeleton.Text.Basic

namespace ModSkeleton.CommandLine

/-!
# Switches

The options that the command line knows. Each has a long spelling behind two
hyphens and a short one of a single letter behind one hyphen. Three of them take
a value; the others are flags.
-/

/-- An option of the command line. -/
inductive Switch where
  | help
  | modId
  | modName
  | kotlin
  | mainClass
  | force
  | git
  | version
  deriving Repr, DecidableEq

namespace Switch

/-- All switches in the order in which they are listed. -/
def all : List Switch :=
  [.help, .modId, .modName, .kotlin, .mainClass, .force, .git, .version]

/-- The long name of a switch, without its hyphens. -/
def word : Switch → Text
  | .help => "help".toList
  | .modId => "id".toList
  | .modName => "name".toList
  | .kotlin => "kotlin".toList
  | .mainClass => "main".toList
  | .force => "force".toList
  | .git => "git".toList
  | .version => "version".toList

/-- The letter of a switch. -/
def letter : Switch → Char
  | .help => 'h'
  | .modId => 'i'
  | .modName => 'n'
  | .kotlin => 'k'
  | .mainClass => 'm'
  | .force => 'f'
  | .git => 'g'
  | .version => 'V'

/-- The long spelling of a switch. -/
def long
    (switch : Switch) :
    Text :=
  '-' :: '-' :: switch.word

/-- The short spelling of a switch. -/
def short
    (switch : Switch) :
    Text :=
  ['-', switch.letter]

/-- Whether a switch takes a value. -/
def takesValue : Switch → Bool
  | .modId => true
  | .modName => true
  | .mainClass => true
  | _ => false

/-- Both spellings of a switch as messages give them. -/
def shown : Switch → Text
  | .help => Switch.help.short ++ ['/'] ++ Switch.help.long
  | switch => switch.long ++ ['/'] ++ switch.short

/-- The switch with a letter. -/
def ofLetter?
    (c : Char) :
    Option Switch :=
  all.find? fun switch => switch.letter == c

/-- The switch with a long spelling. -/
def ofLong?
    (text : Text) :
    Option Switch :=
  all.find? fun switch => switch.long == text

/-- The switches whose long spelling begins with a text. -/
def beginningWith
    (text : Text) :
    List Switch :=
  all.filter fun switch => text.isPrefixOf switch.long

/-- Every switch is listed. -/
theorem mem_all
    (switch : Switch) :
    switch ∈ all := by
  cases switch <;> decide

/-- Every switch is found by its letter. -/
@[simp]
theorem ofLetter?_letter
    (switch : Switch) :
    ofLetter? switch.letter = some switch := by
  cases switch <;> decide

end Switch

end ModSkeleton.CommandLine
