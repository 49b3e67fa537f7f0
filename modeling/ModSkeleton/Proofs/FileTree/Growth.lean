import ModSkeleton.FileTree.Basic

namespace ModSkeleton

/-!
# Growing file trees

A tree grows when nothing is taken away: every entry stays and keeps its kind,
while files may be given new content and new entries may appear. This is what
all writing operations do to a tree, and walks that arrive somewhere arrive at
the same location in every tree that has grown.

A tree is well formed when every entry stands in a directory, so that nothing
stands below a location where there is nothing.
-/

/-- A key that is listed once is looked up as what stands beside it. -/
theorem lookup_of_nodup
    {κ α : Type}
    [BEq κ]
    [LawfulBEq κ]
    {entries : List (κ × α)}
    (distinct : (entries.map Prod.fst).Nodup)
    {key : κ}
    {value : α}
    (member : (key, value) ∈ entries) :
    entries.lookup key = some value := by
  obtain ⟨before, after, rfl⟩ := List.mem_iff_append.mp member
  refine List.lookup_eq_some_iff.mpr ⟨before, after, rfl, ?_⟩
  intro pair early
  rw [List.map_append, List.map_cons] at distinct
  have apart := (List.nodup_append.mp distinct).2.2 pair.1 (List.mem_map_of_mem early)
    key List.mem_cons_self
  simpa using fun same : key = pair.1 => apart same.symm

/-- Entries of one kind: files may differ in content, links lead to one target. -/
inductive Entry.SameKind : Entry → Entry → Prop where
  | directory : SameKind .directory .directory
  | file (old new : Text.Bytes) : SameKind (.file old) (.file new)
  | link (target : Text) : SameKind (.link target) (.link target)

/-- An entry that is no link, so that a walk goes through it. -/
def Entry.IsPlain : Entry → Prop
  | .link _ => False
  | _ => True

instance :
    DecidablePred Entry.IsPlain
  | .directory => .isTrue trivial
  | .file _ => .isTrue trivial
  | .link _ => .isFalse id

namespace Entry.SameKind

theorem refl :
    ∀ entry : Entry, SameKind entry entry
  | .directory => .directory
  | .file content => .file content content
  | .link target => .link target

theorem trans
    {first second third : Entry}
    (before : SameKind first second)
    (after : SameKind second third) :
    SameKind first third := by
  cases before with
  | directory => exact after
  | file old new =>
      cases after with
      | file _ newest => exact .file old newest
  | link target => exact after

theorem isPlain
    {first second : Entry}
    (kind : SameKind first second)
    (plain : first.IsPlain) :
    second.IsPlain := by
  cases kind with
  | directory => trivial
  | file => trivial
  | link => exact plain.elim

end Entry.SameKind

namespace FileTree

/-- Every entry of a tree is kept by another tree, with its kind. -/
def GrowsTo
    (before after : FileTree) :
    Prop :=
  ∀ location entry,
    before.get? location = some entry →
    ∃ later, after.get? location = some later ∧ Entry.SameKind entry later

namespace GrowsTo

theorem refl
    (tree : FileTree) :
    GrowsTo tree tree :=
  fun _ entry found => ⟨entry, found, .refl entry⟩

theorem trans
    {first second third : FileTree}
    (before : GrowsTo first second)
    (after : GrowsTo second third) :
    GrowsTo first third := by
  intro location entry found
  obtain ⟨middle, foundMiddle, firstKind⟩ := before location entry found
  obtain ⟨last, foundLast, secondKind⟩ := after location middle foundMiddle
  exact ⟨last, foundLast, firstKind.trans secondKind⟩

theorem directory
    {before after : FileTree}
    (grows : GrowsTo before after)
    {location : Location}
    (found : before.get? location = some .directory) :
    after.get? location = some .directory := by
  obtain ⟨later, foundLater, kind⟩ := grows location .directory found
  cases kind with
  | directory => exact foundLater

theorem link
    {before after : FileTree}
    (grows : GrowsTo before after)
    {location : Location}
    {target : Text}
    (found : before.get? location = some (.link target)) :
    after.get? location = some (.link target) := by
  obtain ⟨later, foundLater, kind⟩ := grows location (.link target) found
  cases kind with
  | link => exact foundLater

theorem file
    {before after : FileTree}
    (grows : GrowsTo before after)
    {location : Location}
    {content : Text.Bytes}
    (found : before.get? location = some (.file content)) :
    ∃ new, after.get? location = some (.file new) := by
  obtain ⟨later, foundLater, kind⟩ := grows location (.file content) found
  cases kind with
  | file _ new => exact ⟨new, foundLater⟩

theorem none_of_none
    {before after : FileTree}
    (grows : GrowsTo before after)
    {location : Location}
    (missing : after.get? location = none) :
    before.get? location = none := by
  cases found : before.get? location with
  | none => rfl
  | some entry =>
      obtain ⟨later, foundLater, _⟩ := grows location entry found
      rw [missing] at foundLater
      cases foundLater

theorem insert_of_none
    {tree : FileTree}
    {location : Location}
    (missing : tree.get? location = none)
    (entry : Entry) :
    GrowsTo tree (tree.insert location entry) := by
  intro other found present
  have different : other ≠ location := by
    rintro rfl
    rw [missing] at present
    cases present
  exact ⟨found, by rw [get?_insert_of_ne tree different, present], .refl found⟩

theorem insert_of_file
    {tree : FileTree}
    {location : Location}
    {old : Text.Bytes}
    (stood : tree.get? location = some (.file old))
    (new : Text.Bytes) :
    GrowsTo tree (tree.insert location (.file new)) := by
  intro other entry present
  by_cases same : other = location
  · subst same
    have notRoot : other ≠ [] := by
      rintro rfl
      simp at stood
    rw [stood] at present
    cases present
    exact ⟨.file new, get?_insert_self tree notRoot _, .file old new⟩
  · exact ⟨entry, by rw [get?_insert_of_ne tree same, present], .refl entry⟩

end GrowsTo

/--
Nothing changes from one tree to another, except that directories appear at
allowed locations where nothing stood.
-/
def AddsDirectories
    (allowed : Location → Prop)
    (before after : FileTree) :
    Prop :=
  ∀ location,
    after.get? location = before.get? location ∨
      before.get? location = none ∧ after.get? location = some .directory ∧ allowed location

namespace AddsDirectories

theorem refl
    (allowed : Location → Prop)
    (tree : FileTree) :
    AddsDirectories allowed tree tree :=
  fun _ => .inl rfl

theorem trans
    {allowed : Location → Prop}
    {first second third : FileTree}
    (before : AddsDirectories allowed first second)
    (after : AddsDirectories allowed second third) :
    AddsDirectories allowed first third := by
  intro location
  rcases after location with same | ⟨missing, added, isAllowed⟩
  · rw [same]
    exact before location
  · rcases before location with same | ⟨_, present, _⟩
    · exact .inr ⟨same ▸ missing, added, isAllowed⟩
    · rw [missing] at present
      cases present

theorem mono
    {allowed larger : Location → Prop}
    {before after : FileTree}
    (adds : AddsDirectories allowed before after)
    (subset : ∀ location, allowed location → larger location) :
    AddsDirectories larger before after := by
  intro location
  rcases adds location with same | ⟨missing, added, isAllowed⟩
  · exact .inl same
  · exact .inr ⟨missing, added, subset location isAllowed⟩

theorem growsTo
    {allowed : Location → Prop}
    {before after : FileTree}
    (adds : AddsDirectories allowed before after) :
    GrowsTo before after := by
  intro location entry found
  rcases adds location with same | ⟨missing, _, _⟩
  · exact ⟨entry, same.trans found, .refl entry⟩
  · rw [missing] at found
    cases found

theorem get?_of_some
    {allowed : Location → Prop}
    {before after : FileTree}
    (adds : AddsDirectories allowed before after)
    {location : Location}
    {entry : Entry}
    (found : before.get? location = some entry) :
    after.get? location = some entry := by
  rcases adds location with same | ⟨missing, _, _⟩
  · exact same.trans found
  · rw [missing] at found
    cases found

/-- A new directory where nothing stood is an addition. -/
theorem insert
    {allowed : Location → Prop}
    {tree : FileTree}
    {location : Location}
    (missing : tree.get? location = none)
    (isAllowed : allowed location) :
    AddsDirectories allowed tree (tree.insert location .directory) := by
  intro other
  by_cases same : other = location
  · subst same
    have notRoot : other ≠ [] := by
      rintro rfl
      simp at missing
    exact .inr ⟨missing, get?_insert_self tree notRoot _, isAllowed⟩
  · exact .inl (get?_insert_of_ne tree same _)

end AddsDirectories

/-- No link stands at a location or below it. -/
def LinkFreeFrom
    (tree : FileTree)
    (location : Location) :
    Prop :=
  ∀ below target, tree.get? (location ++ below) ≠ some (.link target)

namespace LinkFreeFrom

theorem of_linkFree
    {tree : FileTree}
    (linkFree : tree.LinkFree)
    (location : Location) :
    tree.LinkFreeFrom location :=
  fun below => linkFree (location ++ below)

theorem append
    {tree : FileTree}
    {location : Location}
    (linkFree : tree.LinkFreeFrom location)
    (further : List Text) :
    tree.LinkFreeFrom (location ++ further) := by
  intro below target
  rw [List.append_assoc]
  exact linkFree (further ++ below) target

theorem addsDirectories
    {allowed : Location → Prop}
    {before after : FileTree}
    {location : Location}
    (linkFree : before.LinkFreeFrom location)
    (adds : AddsDirectories allowed before after) :
    after.LinkFreeFrom location := by
  intro below target found
  rcases adds (location ++ below) with same | ⟨_, added, _⟩
  · rw [same] at found
    exact linkFree below target found
  · rw [added] at found
    cases found

/-- A new file is no link. -/
theorem insert
    {tree : FileTree}
    {location : Location}
    (linkFree : tree.LinkFreeFrom location)
    (place : Location)
    (content : Text.Bytes) :
    (tree.insert place (.file content)).LinkFreeFrom location := by
  intro below target found
  by_cases same : location ++ below = place
  · by_cases isRoot : place = []
    · rw [same, isRoot] at found
      simp at found
    · rw [same, get?_insert_self tree isRoot] at found
      cases found
  · rw [get?_insert_of_ne tree same] at found
    exact linkFree below target found

end LinkFreeFrom

/-- Every entry stands in a directory. -/
def WellFormed
    (tree : FileTree) :
    Prop :=
  ∀ location name entry,
    tree.get? (location ++ [name]) = some entry → tree.get? location = some .directory

theorem mem_entries_of_get?
    {tree : FileTree}
    {location : Location}
    (notRoot : location ≠ [])
    {entry : Entry}
    (found : tree.get? location = some entry) :
    (location, entry) ∈ tree.entries := by
  simp only [get?, notRoot, if_false] at found
  obtain ⟨before, after, shape, _⟩ := List.lookup_eq_some_iff.mp found
  rw [shape]
  simp

/-- A tree is well formed when each of its listed entries stands in a directory. -/
theorem wellFormed_of_entries
    {tree : FileTree}
    (inside : ∀ pair ∈ tree.entries, tree.get? pair.1.dropLast = some .directory) :
    WellFormed tree := by
  intro location name entry found
  have directory := inside _ (mem_entries_of_get? (by simp) found)
  rwa [List.dropLast_concat] at directory

theorem linkFree_of_entries
    {tree : FileTree}
    (plain : ∀ pair ∈ tree.entries, pair.2.IsPlain) :
    LinkFree tree := by
  intro location target found
  by_cases isRoot : location = []
  · rw [isRoot] at found
    simp at found
  · exact plain _ (mem_entries_of_get? isRoot found)

namespace WellFormed

/-- Below a location where there is nothing there is nothing. -/
theorem none_below
    {tree : FileTree}
    (wellFormed : WellFormed tree)
    {location : Location}
    (missing : tree.get? location = none)
    (below : List Text) :
    tree.get? (location ++ below) = none := by
  induction below generalizing location with
  | nil => simpa using missing
  | cons name names inductionHypothesis =>
      have nextMissing : tree.get? (location ++ [name]) = none := by
        cases found : tree.get? (location ++ [name]) with
        | none => rfl
        | some entry =>
            have parent := wellFormed location name entry found
            rw [missing] at parent
            cases parent
      have shape : location ++ name :: names = (location ++ [name]) ++ names := by simp
      rw [shape]
      exact inductionHypothesis nextMissing

/-- Above an entry there are directories only. -/
theorem directory_above
    {tree : FileTree}
    (wellFormed : WellFormed tree)
    {location : Location}
    {below : List Text}
    (further : below ≠ [])
    {entry : Entry}
    (found : tree.get? (location ++ below) = some entry) :
    tree.get? location = some .directory := by
  induction below generalizing location with
  | nil => exact absurd rfl further
  | cons name names inductionHypothesis =>
      have next : ∃ inside, tree.get? (location ++ [name]) = some inside := by
        have shape : location ++ name :: names = (location ++ [name]) ++ names := by simp
        rw [shape] at found
        by_cases last : names = []
        · rw [last, List.append_nil] at found
          exact ⟨entry, found⟩
        · exact ⟨.directory, inductionHypothesis last found⟩
      obtain ⟨inside, foundInside⟩ := next
      exact wellFormed location name inside foundInside

/-- Putting a directory or a file into a directory keeps a tree well formed. -/
theorem insert
    {tree : FileTree}
    (wellFormed : WellFormed tree)
    {parent : Location}
    {name : Text}
    (inside : tree.get? parent = some .directory)
    {entry : Entry}
    (keeps : tree.get? (parent ++ [name]) = some .directory → entry = .directory) :
    WellFormed (tree.insert (parent ++ [name]) entry) := by
  intro location child found present
  have stood : ∃ earlier, tree.get? (location ++ [child]) = some earlier ∨
      location = parent ∧ child = name := by
    by_cases same : location ++ [child] = parent ++ [name]
    · obtain ⟨sameParent, sameName⟩ := List.append_inj' same rfl
      exact ⟨found, .inr ⟨sameParent, by simpa using sameName⟩⟩
    · rw [get?_insert_of_ne tree same] at present
      exact ⟨found, .inl present⟩
  have directory : tree.get? location = some .directory := by
    obtain ⟨earlier, before | ⟨rfl, _⟩⟩ := stood
    · exact wellFormed location child earlier before
    · exact inside
  by_cases same : location = parent ++ [name]
  · subst same
    rw [get?_insert_self tree (by simp), keeps directory]
  · rw [get?_insert_of_ne tree same, directory]

end WellFormed

/-- A location has no children exactly when nothing stands directly inside of it. -/
theorem childNames_eq_nil_iff
    (tree : FileTree)
    (location : Location) :
    tree.childNames location = [] ↔ ∀ name, tree.get? (location ++ [name]) = none := by
  have lookup_none :
      ∀ key, tree.entries.lookup key = none ↔ ∀ pair ∈ tree.entries, pair.1 ≠ key := by
    intro key
    rw [List.lookup_eq_none_iff]
    constructor
    · intro absent pair member same
      have := absent pair member
      simp [same] at this
    · intro absent pair member
      have different := absent pair member
      simpa using fun same : key = pair.1 => different same.symm
  constructor
  · intro empty name
    have notRoot : location ++ [name] ≠ [] := by simp
    simp only [get?, notRoot, if_false]
    rw [lookup_none]
    intro pair member same
    have listed := List.filterMap_eq_nil_iff.mp empty pair member
    simp [same] at listed
  · intro nothing
    apply List.filterMap_eq_nil_iff.mpr
    intro pair member
    by_cases inside : pair.1 ≠ [] ∧ pair.1.dropLast = location
    · obtain ⟨notRoot, rfl⟩ := inside
      have shape := List.dropLast_concat_getLast notRoot
      have absent := nothing (pair.1.getLast notRoot)
      rw [shape] at absent
      simp only [get?, notRoot, if_false] at absent
      exact ((lookup_none pair.1).mp absent pair member rfl).elim
    · simp only [inside, if_false]

end FileTree

end ModSkeleton
