import ModSkeleton.Console.Colour
import ModSkeleton.Text.Blank

namespace ModSkeleton.Console

/-!
# Names of styles

A tag names a style by words: effects, colours, a background colour behind
`on`, an effect that is taken back behind `not`. Two names of one style count
as equal, so a name is brought into a normal form: effects under their full
names in a fixed order, then the colours. A name that is no style is only
stripped of blanks and put in lower case.
-/

namespace StyleName

/-- The effects of a style in the order of the normal form. -/
def effects : List Text :=
  ["bold", "dim", "italic", "underline", "blink", "blink2", "reverse", "conceal", "strike",
   "underline2", "frame", "encircle", "overline"].map String.toList

/-- Short names of effects. -/
def shortNames : List (Text × Text) :=
  [("b", "bold"), ("d", "dim"), ("i", "italic"), ("u", "underline"), ("r", "reverse"),
   ("c", "conceal"), ("s", "strike"), ("uu", "underline2"), ("o", "overline")].map
    fun pair => (pair.1.toList, pair.2.toList)

/-- The effect that a word names. -/
def effect?
    (word : Text) :
    Option Text :=
  if effects.contains word then some word else shortNames.lookup word

/-- What the words of a name say so far. -/
structure Parts where
  settings : List (Text × Bool)
  colour : Option Text
  background : Option Text
  link : Option Text
  deriving Repr, DecidableEq

/-- A name that says nothing yet. -/
def Parts.empty : Parts :=
  ⟨[], none, none, none⟩

/-- The parts with an effect or a colour more, unless a word in lower case is neither. -/
def Parts.addWord?
    (parts : Parts)
    (word : Text) :
    Except Colour.EmptyComponent (Option Parts) :=
  match effect? word with
  | some effect => .ok (some { parts with settings := (effect, true) :: parts.settings })
  | none =>
      match Colour.read? word with
      | .error error => .error error
      | .ok none => .ok none
      | .ok (some colour) => .ok (some { parts with colour := some colour })

/-- The parts with a background colour, unless a word is no colour. -/
def Parts.addBackground?
    (parts : Parts)
    (word : Text) :
    Except Colour.EmptyComponent (Option Parts) :=
  match Colour.read? word with
  | .error error => .error error
  | .ok none => .ok none
  | .ok (some colour) => .ok (some { parts with background := some colour })

/-- The words that need another word behind them. -/
inductive Leader where
  | background
  | negation
  | link
  deriving Repr, DecidableEq

/-- The leader that a word in lower case is. -/
def Leader.ofWord?
    (word : Text) :
    Option Leader :=
  if word = "on".toList then some .background
  else if word = "not".toList then some .negation
  else if word = "link".toList then some .link
  else none

/-- The parts with what a leader and the word behind it say. -/
def Parts.addLed?
    (parts : Parts)
    (leader : Leader)
    (word : Text) :
    Except Colour.EmptyComponent (Option Parts) :=
  match leader with
  | .background => parts.addBackground? word
  | .negation =>
      .ok ((effect? word).map fun effect =>
        { parts with settings := (effect, false) :: parts.settings })
  | .link => .ok (some { parts with link := some word })

/-- Read the words of a name behind a leader, or behind none. -/
def read? :
    Option Leader → List Text → Parts → Except Colour.EmptyComponent (Option Parts)
  | none, [], parts => .ok (some parts)
  | some _, [], _ => .ok none
  | leader?, word :: rest, parts =>
      let read := match leader?, Leader.ofWord? (Text.lower word) with
        | some leader, _ => (parts.addLed? leader word).map fun parts? => (none, parts?)
        | none, some leader => .ok (some leader, some parts)
        | none, none =>
            (parts.addWord? (Text.lower word)).map fun parts? => (none, parts?)
      match read with
      | .error error => .error error
      | .ok (_, none) => .ok none
      | .ok (next?, some parts) => read? next? rest parts

namespace Parts

/-- The words of the normal form. -/
def words
    (parts : Parts) :
    List Text :=
  let shown := effects.filterMap fun effect =>
    (parts.settings.lookup effect).map fun isOn =>
      if isOn then effect else "not ".toList ++ effect
  shown ++ parts.colour.toList ++
    (parts.background.toList.flatMap fun colour => ["on".toList, colour]) ++
    (parts.link.toList.flatMap fun target => ["link".toList, target])

end Parts

/-- The words of a text, with blanks of any number between them. -/
def wordsOf : Text → List Text
  | [] => []
  | c :: rest =>
      if Text.isBlank c then wordsOf rest
      else
        match rest, wordsOf rest with
        | next :: _, word :: words =>
            if Text.isBlank next then [c] :: word :: words else (c :: word) :: words
        | _, words => [c] :: words

/-- The normal form of a name. -/
def normal
    (name : Text) :
    Except Colour.EmptyComponent Text :=
  let words := wordsOf name
  if words.isEmpty || words = ["none".toList] then .ok "none".toList
  else
    match read? none words .empty with
    | .error error => .error error
    | .ok (some parts) => .ok (Text.joinWith [' '] parts.words)
    | .ok none => .ok (Text.lower (Text.stripBlank name))

/-- The order of words and the length of effect names do not matter. -/
example :
    (normal " red  b".toList).toOption = (normal "bold red".toList).toOption := by
  decide +kernel

end StyleName

end ModSkeleton.Console
