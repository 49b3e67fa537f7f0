import ModSkeleton.Console.Emoji
import ModSkeleton.Console.StyleName

namespace ModSkeleton.Console

/-!
# Markup

Printed text may carry tags in square brackets that open and close styles. A tag
starts with a lower case letter, a hash sign, a slash or an at sign and holds no
opening bracket. Backslashes before a tag stand for half as many backslashes,
and an odd one makes the tag plain text.

`Markup.escape` turns any text into markup that prints it; `Markup.render` gives
the plain text that is printed, or fails at a closing tag that closes nothing.
-/

namespace Markup

/-- Characters that a tag may start with. -/
def isTagStart
    (c : Char) :
    Bool :=
  ('a' ≤ c && c ≤ 'z') || c = '#' || c = '/' || c = '@'

/-- What stands between the brackets of a tag, read behind the opening bracket. -/
def body? : Text → Option Text
  | [] => none
  | c :: rest =>
      if isTagStart c then
        match rest.span fun c => c != '[' && c != ']' with
        | (body, ']' :: _) => some (c :: body)
        | _ => none
      else
        none

/-- A tag that a text starts with, behind a number of backslashes. -/
def tagAt?
    (text : Text) :
    Option (Nat × Text) :=
  match text.span (· == '\\') with
  | (slashes, '[' :: rest) => (body? rest).map fun body => (slashes.length, body)
  | _ => none

/-- A tag as it is written. -/
def written
    (body : Text) :
    Text :=
  '[' :: (body ++ [']'])

/-- Double the backslashes before tags and add one, behind some characters. -/
def escapeFrom : Nat → Text → Text
  | _, [] => []
  | done + 1, _ :: rest => escapeFrom done rest
  | 0, c :: rest =>
      match tagAt? (c :: rest) with
      | some (slashes, body) =>
          List.replicate (2 * slashes + 1) '\\' ++ written body ++
            escapeFrom (slashes + body.length + 1) rest
      | none => c :: escapeFrom 0 rest

/-- Whether a text ends in one backslash that stands alone. -/
def endsInLoneSlash
    (text : Text) :
    Bool :=
  List.isSuffixOf ['\\'] text && !(List.isSuffixOf ['\\', '\\'] text)

/-- The markup that prints a text. -/
def escape
    (text : Text) :
    Text :=
  let escaped := escapeFrom 0 text
  if endsInLoneSlash escaped then escaped ++ ['\\'] else escaped

/-- A stretch of markup: plain text, or a tag with its position. -/
inductive Chunk where
  | between (text : Text)
  | plain (text : Text)
  | tag (position : Nat) (body : Text)
  deriving Repr, DecidableEq

namespace Chunk

/-- Chunks after one more character between tags. -/
def push
    (c : Char) :
    List Chunk → List Chunk
  | .between content :: chunks => .between (c :: content) :: chunks
  | chunks => .between [c] :: chunks

/-- The chunks of a tag behind a number of backslashes. -/
def ofTag
    (position slashes : Nat)
    (body : Text) :
    List Chunk :=
  let kept := if slashes < 2 then [] else [.plain (List.replicate (slashes / 2) '\\')]
  let last :=
    if slashes % 2 = 1 then .plain (written body) else .tag (position + slashes) body
  kept ++ [last]

/-- The chunks of markup from a position, behind some characters already done. -/
def cut : Nat → Nat → Text → List Chunk
  | _, _, [] => []
  | position, done + 1, _ :: rest => cut (position + 1) done rest
  | position, 0, c :: rest =>
      match tagAt? (c :: rest) with
      | some (slashes, body) =>
          ofTag position slashes body ++
            cut (position + 1) (slashes + body.length + 1) rest
      | none => push c (cut (position + 1) 0 rest)

end Chunk

/--
Why markup cannot be printed: a closing tag closes nothing, or a colour lacks a
component.
-/
inductive Error where
  | unmatched (body : Text) (position : Nat)
  | nothingOpen (position : Nat)
  | emptyComponent
  deriving Repr, DecidableEq

/-- The wording of an error. -/
def Error.message : Error → Text
  | .unmatched body position =>
      "closing tag '".toList ++ written body ++ "' at position ".toList ++
        Text.decimal position ++ " doesn't match any open tag".toList
  | .nothingOpen position =>
      "closing tag '[/]' at position ".toList ++ Text.decimal position ++
        " has nothing to close".toList
  | .emptyComponent => "invalid literal for int() with base 10: ''".toList

/-- The normal form of the style that a tag names. -/
def styleOf
    (name : Text) :
    Except Error Text :=
  match StyleName.normal name with
  | .ok style => .ok style
  | .error _ => .error .emptyComponent

/-- The name in a tag: what stands before an equals sign. -/
def nameOf
    (body : Text) :
    Text :=
  body.takeWhile (· != '=')

/-- The open styles after the last opened one of a name is closed. -/
def close
    (styles : List Text)
    (position : Nat)
    (body name : Text) :
    Except Error (List Text) :=
  match styleOf name with
  | .error error => .error error
  | .ok style =>
      if styles.contains style then .ok (styles.erase style)
      else .error (.unmatched body position)

/-- The open styles after a tag, the last opened first. -/
def step
    (styles : List Text)
    (position : Nat)
    (body : Text) :
    Except Error (List Text) :=
  match nameOf body with
  | '/' :: rest =>
      if Text.allBlank rest then
        match styles with
        | [] => .error (.nothingOpen position)
        | _ :: outer => .ok outer
      else
        close styles position body (Text.stripBlank rest)
  | name =>
      match styleOf name with
      | .error error => .error error
      | .ok style => .ok (style :: styles)

/-- Control characters that are never printed. -/
def isDropped
    (c : Char) :
    Bool :=
  c = '\x07' || c = '\x08' || c = '\x0b' || c = '\x0c' || c = '\r'

/-- A backslash before an opening bracket goes away. -/
def unescapeBrackets : Text → Text
  | [] => []
  | '\\' :: '[' :: rest => '[' :: unescapeBrackets rest
  | c :: rest => c :: unescapeBrackets rest

/-- A stretch of plain markup as it is printed. -/
def printed
    (text : Text) :
    Text :=
  (Emoji.replace text).filter fun c => !isDropped c

/-- The printed text of chunks inside some open styles. -/
def renderChunks : List Text → List Chunk → Except Error Text
  | _, [] => .ok []
  | styles, .between text :: chunks =>
      (renderChunks styles chunks).map (printed (unescapeBrackets text) ++ ·)
  | styles, .plain text :: chunks =>
      (renderChunks styles chunks).map (printed (unescapeBrackets text) ++ ·)
  | styles, .tag position body :: chunks =>
      match step styles position body with
      | .error error => .error error
      | .ok inner => renderChunks inner chunks

/-- The plain text that markup prints. -/
def render
    (markup : Text) :
    Except Error Text :=
  if markup.contains '[' then renderChunks [] (Chunk.cut 0 0 markup)
  else .ok (printed markup)

/-- An escaped tag is printed as it is. -/
example :
    (render (escape "a [bold]b[/x] \\[c] [".toList)).toOption =
      some "a [bold]b[/x] \\[c] [".toList := by
  decide +kernel

end Markup

end ModSkeleton.Console
