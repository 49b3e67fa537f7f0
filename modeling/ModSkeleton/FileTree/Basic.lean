import ModSkeleton.FileTree.Fault
import ModSkeleton.Text.Utf8

namespace ModSkeleton

/-!
# File trees

A file tree maps locations to entries. A location is the list of names from the
root down to the entry; the root itself is always a directory. A file holds any
bytes at all; text is stored in its UTF-8 encoding. The view of a tree is `get?`,
and every operation is pinned down by what it does to it.
-/

/-- The names that lead from the root to an entry. -/
abbrev Location := List Text

/-- What stands at a location. -/
inductive Entry where
  | directory
  | file (content : Text.Bytes)
  | link (target : Text)
  deriving Repr, DecidableEq

/-- Entries by location; the root is left out, as it is always a directory. -/
structure FileTree where
  entries : List (Location × Entry)
  deriving Repr, DecidableEq

namespace FileTree

/-- The tree that holds the root only. -/
def empty : FileTree :=
  ⟨[]⟩

/-- The entry at a location. -/
def get?
    (tree : FileTree)
    (location : Location) :
    Option Entry :=
  if location = [] then some .directory else tree.entries.lookup location

/-- Put an entry at a location, replacing what stood there. -/
def insert
    (tree : FileTree)
    (location : Location)
    (entry : Entry) :
    FileTree :=
  ⟨(location, entry) :: tree.entries.filter fun pair => pair.1 != location⟩

/-- Take away a location and everything below it. -/
def eraseBelow
    (tree : FileTree)
    (location : Location) :
    FileTree :=
  ⟨tree.entries.filter fun pair => !location.isPrefixOf pair.1⟩

/-- The names of the entries directly inside a location. -/
def childNames
    (tree : FileTree)
    (location : Location) :
    List Text :=
  tree.entries.filterMap fun pair =>
    if pair.1 ≠ [] ∧ pair.1.dropLast = location then pair.1.getLast? else none

/-- The entries strictly below a location, by what remains of their locations. -/
def below
    (tree : FileTree)
    (location : Location) :
    List (Location × Entry) :=
  tree.entries.filterMap fun pair =>
    if location.isPrefixOf pair.1 && location.length < pair.1.length then
      some (pair.1.drop location.length, pair.2)
    else
      none

/-- No entry of the tree is a link. -/
def LinkFree
    (tree : FileTree) :
    Prop :=
  ∀ location target, tree.get? location ≠ some (.link target)

@[simp]
theorem get?_nil
    (tree : FileTree) :
    tree.get? [] = some .directory := by
  simp [get?]

/-- A location holds what was last put there. -/
@[simp]
theorem get?_insert_self
    (tree : FileTree)
    {location : Location}
    (notRoot : location ≠ [])
    (entry : Entry) :
    (tree.insert location entry).get? location = some entry := by
  simp [get?, insert, notRoot]

/-- Putting an entry at one location leaves every other location alone. -/
theorem get?_insert_of_ne
    (tree : FileTree)
    {location other : Location}
    (different : other ≠ location)
    (entry : Entry) :
    (tree.insert location entry).get? other = tree.get? other := by
  by_cases isRoot : other = []
  · simp [isRoot]
  · simp only [get?, isRoot, if_false, insert, List.lookup_cons]
    have headDiffers : (other == location) = false := by
      simpa using different
    rw [headDiffers]
    induction tree.entries with
    | nil => rfl
    | cons pair pairs inductionHypothesis =>
        obtain ⟨key, value⟩ := pair
        by_cases kept : key = location
        · subst kept
          simpa [List.filter_cons, List.lookup_cons, headDiffers] using inductionHypothesis
        · by_cases found : other = key
          · simp [kept, found]
          · have notFound : (other == key) = false := by simpa using found
            simpa [List.filter_cons, kept, List.lookup_cons, notFound] using
              inductionHypothesis

end FileTree

end ModSkeleton
