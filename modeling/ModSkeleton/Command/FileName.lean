import ModSkeleton.Text.Basic

namespace ModSkeleton.Command

/-!
# File names in complaints

A file name is written so that it could be pasted into a shell. Single quotes are
preferred; a name with a single quote of its own is put in double quotes where
nothing in it would have a meaning there.
-/

/-- Characters that never need quotes. -/
def isPlainInName
    (c : Char) :
    Bool :=
  c.isAlphanum || 0x80 ≤ c.toNat || "%+,-./:]_@".toList.contains c

/-- Characters that may stand in double quotes. -/
def isPlainInDoubleQuotes
    (c : Char) :
    Bool :=
  isPlainInName c || c = ' ' || c = '\''

/-- The escape of a character that cannot be shown. -/
def hiddenEscape?
    (c : Char) :
    Option Text :=
  match c with
  | '\n' => some "\\n".toList
  | '\t' => some "\\t".toList
  | '\r' => some "\\r".toList
  | _ =>
      if c.toNat = 7 then some "\\a".toList
      else if c.toNat = 8 then some "\\b".toList
      else if c.toNat = 11 then some "\\v".toList
      else if c.toNat = 12 then some "\\f".toList
      else if c.toNat < 32 || c.toNat = 127 then
        let digits := Nat.toDigits 8 c.toNat
        some ('\\' :: (List.replicate (3 - digits.length) '0' ++ digits))
      else
        none

/-- A name in single quotes, which are interrupted for what cannot stand in them. -/
def singleQuoted : Bool → Text → Text
  | _, [] => ['\'']
  | escaping, c :: rest =>
      match hiddenEscape? c with
      | some escape =>
          (if escaping then escape else "'$'".toList ++ escape) ++ singleQuoted true rest
      | none =>
          (if escaping then "''".toList else []) ++
            (if c = '\'' then "'\\''".toList else [c]) ++ singleQuoted false rest

/-- A name in quotes. -/
def quotedName
    (name : Text) :
    Text :=
  if name.contains '\'' && name.all isPlainInDoubleQuotes then '"' :: (name ++ ['"'])
  else '\'' :: singleQuoted false name

/-- A name in quotes if it needs them. -/
def shownName
    (name : Text) :
    Text :=
  if !name.isEmpty && name.all isPlainInName then name
  else if !name.isEmpty && name.all (fun c => isPlainInName c || c = '#' || c = '~') &&
      name.head? ≠ some '#' && name.head? ≠ some '~' then name
  else quotedName name

end ModSkeleton.Command
