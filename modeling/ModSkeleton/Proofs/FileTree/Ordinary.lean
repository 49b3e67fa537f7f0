import Mathlib.Data.List.Nodup
import Mathlib.Data.List.Perm.Subperm
import ModSkeleton.Proofs.FileTree.Growth
import ModSkeleton.Proofs.Path.Components

namespace ModSkeleton.FileTree

/-!
# Ordinary trees

A tree as a disk without links holds it lists every entry once, under names that can stand in
a directory (`IsOrdinary`). The names in a directory are then those under which something
stands there, each of them once, and so are the names below it. No entry stands deeper than
there are entries.
-/

/--
A tree as a disk without links holds it: every entry is listed once, under names that can
stand in a directory, and stands in one.
-/
structure IsOrdinary (tree : FileTree) : Prop where
  unique : (tree.entries.map Prod.fst).Nodup
  components : ∀ pair ∈ tree.entries, ∀ name ∈ pair.1, Path.IsComponent name
  wellFormed : tree.WellFormed
  linkFree : tree.LinkFree

namespace IsOrdinary

variable
    {tree : FileTree}
    (ordinary : tree.IsOrdinary)

include ordinary

/-- The names that lead to an entry can stand in a directory. -/
theorem isComponent
    {location : Location}
    {entry : Entry}
    (found : tree.get? location = some entry) :
    ∀ name ∈ location, Path.IsComponent name := by
  by_cases isRoot : location = []
  · simp [isRoot]
  · exact ordinary.components _ (mem_entries_of_get? isRoot found)

/-- No NUL stands in the path to an entry. -/
theorem noNull
    {location : Location}
    {entry : Entry}
    (found : tree.get? location = some entry) :
    '\x00' ∉ Path.toText ⟨.absolute, location⟩ := by
  intro member
  rcases List.mem_cons.mp member with same | inNames
  · cases same
  · obtain ⟨name, isName, inName⟩ := (Text.mem_joinWith_iff (by decide)).mp inNames
    exact (ordinary.isComponent found name isName).noNull inName

theorem get?_of_mem
    {location : Location}
    (notRoot : location ≠ [])
    {entry : Entry}
    (member : (location, entry) ∈ tree.entries) :
    tree.get? location = some entry := by
  rw [get?, if_neg notRoot]
  exact lookup_of_nodup ordinary.unique member

/-- What stands below a location is what is found behind further names. -/
theorem mem_below_iff
    {location : Location}
    {names : List Text}
    {entry : Entry} :
    (names, entry) ∈ tree.below location ↔
      names ≠ [] ∧ tree.get? (location ++ names) = some entry := by
  unfold below
  rw [List.mem_filterMap]
  constructor
  · rintro ⟨⟨place, found⟩, member, kept⟩
    split at kept
    case isTrue isBelow =>
      simp only [Bool.and_eq_true, List.isPrefixOf_iff_prefix, decide_eq_true_eq] at isBelow
      obtain ⟨⟨rest, rfl⟩, longer⟩ := isBelow
      cases kept
      simp only [List.drop_left]
      have notEmpty : rest ≠ [] := by
        rintro rfl
        simp at longer
      exact ⟨notEmpty, ordinary.get?_of_mem (by simp [notEmpty]) member⟩
    case isFalse => cases kept
  · rintro ⟨notEmpty, found⟩
    have member := mem_entries_of_get? (by simp [notEmpty]) found
    refine ⟨_, member, ?_⟩
    have longer := List.length_pos_iff.mpr notEmpty
    simp [longer]

theorem nodup_names_below
    (location : Location) :
    ((tree.below location).map Prod.fst).Nodup := by
  have apart : tree.entries.Pairwise fun first second => first.1 ≠ second.1 :=
    List.pairwise_map.mp ordinary.unique
  refine List.pairwise_map.mpr (apart.filterMap _ ?_)
  intro first second different below isBelow other isOther same
  split at isBelow
  case isFalse => cases isBelow
  case isTrue firstBelow =>
    split at isOther
    case isFalse => cases isOther
    case isTrue secondBelow =>
      simp only [Bool.and_eq_true, List.isPrefixOf_iff_prefix] at firstBelow secondBelow
      cases isBelow
      cases isOther
      apply different
      obtain ⟨firstRest, firstShape⟩ := firstBelow.1
      obtain ⟨secondRest, secondShape⟩ := secondBelow.1
      rw [← firstShape, ← secondShape] at same ⊢
      simpa using same

/-- The names in a directory are those under which something stands there. -/
theorem mem_childNames_iff
    {location : Location}
    {name : Text} :
    name ∈ tree.childNames location ↔ ∃ entry, tree.get? (location ++ [name]) = some entry := by
  unfold childNames
  rw [List.mem_filterMap]
  constructor
  · rintro ⟨⟨place, entry⟩, member, kept⟩
    split at kept
    case isTrue inside =>
      obtain ⟨notRoot, rfl⟩ := inside
      obtain ⟨front, rfl⟩ := List.getLast?_eq_some_iff.mp kept
      rw [List.dropLast_concat]
      exact ⟨entry, ordinary.get?_of_mem notRoot member⟩
    case isFalse => cases kept
  · rintro ⟨entry, found⟩
    exact ⟨_, mem_entries_of_get? (by simp) found, by simp⟩

theorem nodup_childNames
    (location : Location) :
    (tree.childNames location).Nodup := by
  have apart : tree.entries.Pairwise fun first second => first.1 ≠ second.1 :=
    List.pairwise_map.mp ordinary.unique
  refine apart.filterMap _ ?_
  intro first second different name isName other isOther same
  split at isName
  case isFalse => cases isName
  case isTrue firstInside =>
    split at isOther
    case isFalse => cases isOther
    case isTrue secondInside =>
      apply different
      obtain ⟨firstFront, firstShape⟩ := List.getLast?_eq_some_iff.mp isName
      obtain ⟨secondFront, secondShape⟩ := List.getLast?_eq_some_iff.mp isOther
      have sameFront : firstFront = secondFront := by
        have inside := firstInside.2.trans secondInside.2.symm
        rwa [firstShape, secondShape, List.dropLast_concat, List.dropLast_concat] at inside
      rw [firstShape, secondShape, sameFront, same]

/-- No entry stands deeper than there are entries, as one stands at each step on the way. -/
theorem length_le_of_get?
    {location : Location}
    {entry : Entry}
    (found : tree.get? location = some entry) :
    location.length ≤ tree.entries.length := by
  let beginnings := (List.range location.length).map fun count => location.take (count + 1)
  have distinct : beginnings.Nodup := by
    refine List.Nodup.map_on ?_ List.nodup_range
    intro first firstMember second secondMember same
    have lengths := congrArg List.length same
    simp only [List.length_take] at lengths
    rw [List.mem_range] at firstMember secondMember
    omega
  have listed : beginnings ⊆ tree.entries.map Prod.fst := by
    intro beginning member
    obtain ⟨count, inRange, rfl⟩ := List.mem_map.mp member
    rw [List.mem_range] at inRange
    have notRoot : location.take (count + 1) ≠ [] := by
      intro isRoot
      have length := congrArg List.length isRoot
      simp only [List.length_take, List.length_nil] at length
      omega
    obtain ⟨passed, here⟩ : ∃ passed, tree.get? (location.take (count + 1)) = some passed := by
      have whole := List.take_append_drop (count + 1) location
      by_cases last : location.drop (count + 1) = []
      · rw [last, List.append_nil] at whole
        exact ⟨entry, by rw [whole, found]⟩
      · rw [← whole] at found
        exact ⟨.directory, ordinary.wellFormed.directory_above last found⟩
    exact List.mem_map_of_mem (mem_entries_of_get? notRoot here)
  have bound := (distinct.subperm listed).length_le
  simpa [beginnings] using bound

end IsOrdinary

end ModSkeleton.FileTree
