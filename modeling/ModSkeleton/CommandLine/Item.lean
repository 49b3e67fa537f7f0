import ModSkeleton.CommandLine.Usage
import ModSkeleton.ModId
import ModSkeleton.Text.Digit

namespace ModSkeleton.CommandLine

/-!
# Items of a command line

Before anything is acted upon, every argument is classified by its shape alone.
The first bare double hyphen separates: behind it there are only words. Before
it, an argument is a switch when it spells one, with or without a value joined
to it; a long spelling may be shortened as long as one switch remains. A lone
hyphen, a negative number and anything with a space in it that is no switch
count as words.
-/

/-- Whether a switch was spelt with two hyphens or with one. -/
inductive Spelling where
  | long
  | short
  deriving Repr, DecidableEq

/-- A classified argument. -/
inductive Item where
  | word (argument : Text)
  | separator
  | option (switch : Switch) (spelling : Spelling) (joined : Option Text)
  | unknown (argument : Text)
  deriving Repr, DecidableEq

namespace Item

/-- The argument that separates switches from words. -/
def separatorText : Text :=
  ['-', '-']

/-- Split at the first equals sign, if there is one. -/
def splitEquals
    (argument : Text) :
    Text × Option Text :=
  match argument.span (· != '=') with
  | (before, []) => (before, none)
  | (before, _ :: after) => (before, some after)

/-- Whether a text is made of digits, at least one. -/
def isDigits
    (text : Text) :
    Bool :=
  !text.isEmpty && text.all Text.isDecimalDigit

/-- Whether a text is a numeral, perhaps with a point and digits behind it. -/
def isNumeral
    (text : Text) :
    Bool :=
  match text.span (· != '.') with
  | (whole, []) => isDigits whole
  | (whole, _ :: fraction) => whole.all Text.isDecimalDigit && isDigits fraction

/-- Whether an argument is a negative number; one final line feed is admitted. -/
def isNegativeNumber : Text → Bool
  | '-' :: rest => isNumeral (Text.dropFinalNewline rest)
  | _ => false

/-- An argument that spells no switch. -/
def ofOther
    (argument : Text) :
    Item :=
  if isNegativeNumber argument || argument.contains ' ' then .word argument
  else .unknown argument

/-- Classify an argument that starts with two hyphens. -/
def ofLong
    (argument : Text) :
    Except UsageFault Item :=
  match Switch.ofLong? argument with
  | some switch => .ok (.option switch .long none)
  | none =>
      let (spelled, joined) := splitEquals argument
      match Switch.ofLong? spelled, Switch.beginningWith spelled with
      | some switch, _ => .ok (.option switch .long joined)
      | none, [switch] => .ok (.option switch .long joined)
      | none, [] => .ok (ofOther argument)
      | none, matching => .error (.ambiguous argument matching)

/-- Classify an argument that starts with one hyphen, given what follows it. -/
def ofShort
    (letter : Char)
    (rest : Text) :
    Item :=
  match Switch.ofLetter? letter, rest with
  | some switch, [] => .option switch .short none
  | some switch, '=' :: value => .option switch .short (some value)
  | some switch, value => .option switch .short (some value)
  | none, rest => ofOther ('-' :: letter :: rest)

/-- Classify an argument that stands before any separator. -/
def classify : Text → Except UsageFault Item
  | '-' :: '-' :: rest =>
      if rest.isEmpty then .ok .separator else ofLong ('-' :: '-' :: rest)
  | '-' :: letter :: rest => .ok (ofShort letter rest)
  | argument => .ok (.word argument)

/-- Classify arguments, up to the first that could mean several things. -/
def classifyAll : List Text → Except UsageFault (List Item)
  | [] => .ok []
  | argument :: rest =>
      match classify argument with
      | .error fault => .error fault
      | .ok .separator => .ok (.separator :: rest.map .word)
      | .ok item =>
          match classifyAll rest with
          | .error fault => .error fault
          | .ok items => .ok (item :: items)

end Item

end ModSkeleton.CommandLine
