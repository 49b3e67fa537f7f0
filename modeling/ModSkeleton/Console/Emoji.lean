import ModSkeleton.Text.Blank
import ModSkeleton.Text.Lowercase

namespace ModSkeleton.Console

/-!
# Emoji codes

A name between two colons that is known as an emoji is printed as that emoji. A
code holds no blanks. A name may ask for the text or the emoji presentation by
an ending; a code that is not known stays as it is, and its closing colon opens
no other code. Of the several thousand names that consoles know, only one is
known here.
-/

namespace Emoji

/--
The emoji that are known by name: a cut of the full table down to one entry, which
stands for all of them. Everything else here and in what follows holds for any table
of single characters.
-/
def known : List (Text × Char) :=
  [("smile".toList, Char.ofNat 0x1F604)]

/-- The endings that choose a presentation, with the selector for it. -/
def variants : List (Text × Char) :=
  [("-emoji".toList, Char.ofNat 0xFE0F), ("-text".toList, Char.ofNat 0xFE0E)]

/-- What a name is printed as, if it is known. -/
def find?
    (name : Text) :
    Option Text :=
  let lower := Text.lower name
  let plain := (known.lookup lower).map fun emoji => [emoji]
  let varied := variants.findSome? fun variant =>
    if variant.1.isSuffixOf name then
      (known.lookup (lower.take (lower.length - variant.1.length))).map fun emoji =>
        [emoji, variant.2]
    else
      none
  varied.or plain

/-- The name of the code that a text continues behind an opening colon. -/
def name?
    (text : Text) :
    Option Text :=
  match text.span fun c => c != ':' && !Text.isBlank c with
  | (name, ':' :: _) => some name
  | _ => none

/-- Print known codes as emoji, behind some characters that are already done. -/
def replaceFrom : Nat → Text → Text
  | _, [] => []
  | done + 1, _ :: rest => replaceFrom done rest
  | 0, c :: rest =>
      match if c = ':' then name? rest else none with
      | some name =>
          (find? name).getD (':' :: (name ++ [':'])) ++ replaceFrom (name.length + 1) rest
      | none => c :: replaceFrom 0 rest

/-- Print known codes as emoji. -/
def replace
    (text : Text) :
    Text :=
  replaceFrom 0 text

end Emoji

end ModSkeleton.Console
