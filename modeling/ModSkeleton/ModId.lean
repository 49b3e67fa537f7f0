import ModSkeleton.Text.Basic

namespace ModSkeleton

/-!
# Mod ids

A mod id is a lowercase letter followed by one to sixty-three lowercase letters,
digits, underscores or hyphens. One final line feed is admitted behind it.
-/

namespace Text

/-- The text without one final line feed, if it ends in one. -/
def dropFinalNewline
    (text : Text) :
    Text :=
  if text.getLast? = some '\n' then text.dropLast else text

end Text

namespace ModId

/-- Lowercase letters of ASCII. -/
def isLower
    (c : Char) :
    Bool :=
  'a' ≤ c && c ≤ 'z'

/-- Characters that may follow the first one. -/
def isFollowing
    (c : Char) :
    Bool :=
  isLower c || ('0' ≤ c && c ≤ '9') || c = '_' || c = '-'

/-- The shape of a mod id without a final line feed. -/
def hasShape : Text → Bool
  | [] => false
  | first :: following =>
      isLower first && following.all isFollowing &&
        1 ≤ following.length && following.length ≤ 63

/-- Whether a text is accepted as a mod id. -/
def accepts
    (text : Text) :
    Bool :=
  hasShape (Text.dropFinalNewline text)

/-- Why a text is refused as a mod id. -/
def rule : Text :=
  ("must be 2-64 characters of lowercase letters, digits, '-' or '_', " ++
    "starting with a letter (pass --id to override the directory name)").toList

end ModId

end ModSkeleton
