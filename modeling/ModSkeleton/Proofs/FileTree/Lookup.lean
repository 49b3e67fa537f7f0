import ModSkeleton.Proofs.Workspace.Making

namespace ModSkeleton

/-!
# Lookups in trees without links

Where there are no links, an absolute path without steps up is looked up name by name. The
lookup is refused if the path is too long, or if a name is that is looked up in a directory
(`Workspace.IsRefused`). Otherwise it finds a directory exactly where one stands. On a host,
a device may refuse the lookup besides (`Workspace.find?_cases`).
-/

namespace FileTree

/-- On the way along names, a name that is too long is looked up in a directory. -/
def MeetsLongName
    (tree : FileTree)
    (start : Location)
    (names : List Text) :
    Prop :=
  ∃ before name after,
    names = before ++ name :: after ∧
      tree.get? (start ++ before) = some .directory ∧ maxNameSize < Text.utf8Size name

theorem not_meetsLongName_nil
    (tree : FileTree)
    (start : Location) :
    ¬tree.MeetsLongName start [] := by
  rintro ⟨before, name, after, shape, _⟩
  simp at shape

/-- A name that is too long is met at once or further on. -/
theorem meetsLongName_cons_iff
    {tree : FileTree}
    {start : Location}
    {name : Text}
    {rest : List Text} :
    tree.MeetsLongName start (name :: rest) ↔
      tree.get? start = some .directory ∧ maxNameSize < Text.utf8Size name ∨
        tree.MeetsLongName (start ++ [name]) rest := by
  constructor
  · rintro ⟨before, long, after, shape, here, tooLong⟩
    cases before with
    | nil =>
        cases shape
        rw [List.append_nil] at here
        exact .inl ⟨here, tooLong⟩
    | cons first before =>
        cases shape
        exact .inr ⟨before, long, after, rfl, by simpa using here, tooLong⟩
  · rintro (⟨here, tooLong⟩ | ⟨before, long, after, rfl, here, tooLong⟩)
    · exact ⟨[], name, rest, rfl, by simpa using here, tooLong⟩
    · exact ⟨name :: before, long, after, rfl, by simpa using here, tooLong⟩

theorem AreNames.tail
    {name : Text}
    {rest : List Text}
    (areNames : AreNames (name :: rest)) :
    AreNames rest :=
  fun other member => areNames other (List.mem_cons_of_mem _ member)

section

variable
    {tree : FileTree}
    (wellFormed : tree.WellFormed)

include wellFormed

/-- Only in a directory is a name that is too long met. -/
theorem MeetsLongName.directory
    {start : Location}
    {names : List Text}
    (meets : tree.MeetsLongName start names) :
    tree.get? start = some .directory := by
  obtain ⟨before, _, _, _, here, _⟩ := meets
  by_cases none : before = []
  · rwa [none, List.append_nil] at here
  · exact wellFormed.directory_above none here

variable
    (linkFree : tree.LinkFree)

include linkFree

/-- A scan without links is refused exactly if a name is met that is too long. -/
theorem scan_eq_nameTooLong_iff
    {start : Location}
    {names : List Text}
    (areNames : AreNames names) :
    scan tree true start names = .error .nameTooLong ↔ tree.MeetsLongName start names := by
  induction names generalizing start with
  | nil =>
      have never := not_meetsLongName_nil tree start
      simp only [scan, never, iff_false]
      split <;> simp
  | cons name rest inductionHypothesis =>
      obtain ⟨notParent, notCurrent⟩ := areNames name List.mem_cons_self
      by_cases here : tree.get? start = some .directory
      · simp only [scan, here, if_neg notParent, if_neg notCurrent, meetsLongName_cons_iff,
          true_and]
        by_cases long : maxNameSize < Text.utf8Size name
        · simp [long]
        · simp only [long, if_false, false_or]
          cases next : tree.get? (start ++ [name]) with
          | none =>
              have never : ¬tree.MeetsLongName (start ++ [name]) rest := by
                intro meets
                rw [meets.directory wellFormed] at next
                cases next
              simp only [never, iff_false]
              split <;> simp
          | some entry =>
              cases entry with
              | link target => exact (linkFree _ target next).elim
              | directory => exact inductionHypothesis areNames.tail
              | file content => exact inductionHypothesis areNames.tail
      · have never : ¬tree.MeetsLongName start (name :: rest) :=
          fun meets => here (meets.directory wellFormed)
        simp only [never, iff_false, scan]
        cases found : tree.get? start with
        | none => simp
        | some entry =>
            cases entry with
            | directory => exact (here found).elim
            | file content => simp
            | link target => simp

/-- Names lead to the entry that stands behind them, unless one is met that is too long. -/
theorem scans_of_get?
    {start : Location}
    {names : List Text}
    (areNames : AreNames names)
    (fits : ¬tree.MeetsLongName start names)
    {entry : Entry}
    (found : tree.get? (start ++ names) = some entry) :
    Scans tree true start names (.arrived (.present (start ++ names) entry)) := by
  induction names generalizing start with
  | nil =>
      rw [List.append_nil] at found ⊢
      exact .arrive found
  | cons name rest inductionHypothesis =>
      obtain ⟨notParent, notCurrent⟩ := areNames name List.mem_cons_self
      have here := wellFormed.directory_above (List.cons_ne_nil name rest) found
      rw [meetsLongName_cons_iff, not_or] at fits
      have proper : IsEntryName name :=
        ⟨notParent, notCurrent, Nat.le_of_not_lt fun long => fits.1 ⟨here, long⟩⟩
      rw [List.append_cons] at found ⊢
      have onward := inductionHypothesis areNames.tail fits.2 found
      obtain ⟨next, isNext⟩ : ∃ next, tree.get? (start ++ [name]) = some next := by
        by_cases last : rest = []
        · rw [last, List.append_nil] at found
          exact ⟨entry, found⟩
        · exact ⟨.directory, wellFormed.directory_above last found⟩
      have plain : next.IsPlain := by
        cases next with
        | link target => exact (linkFree _ target isNext).elim
        | directory => trivial
        | file content => trivial
      exact .enter here proper isNext plain onward

/-- A walk without links is refused exactly if a name is met that is too long. -/
theorem walk_eq_nameTooLong_iff
    (budget : Nat)
    {start : Location}
    {names : List Text}
    (areNames : AreNames names) :
    walk tree true budget start names = .error .nameTooLong ↔
      tree.MeetsLongName start names := by
  rw [← scan_eq_nameTooLong_iff wellFormed linkFree areNames, walk.eq_def]
  cases scanned : scan tree true start names with
  | error fault => simp [scanned]
  | ok stop =>
      obtain ⟨place, rfl, _⟩ :=
        (scan_eq_ok_iff.mp scanned).location_of_linkFreeFrom (.of_linkFree linkFree start) areNames
      simp [scanned]

end

end FileTree

namespace Workspace

open FileTree

/-- Looking up an absolute path is refused, as the path is too long or a name on the way. -/
def IsRefused
    (tree : FileTree)
    (names : List Text) :
    Prop :=
  '\x00' ∉ Path.toText ⟨.absolute, names⟩ ∧
    (maxPathSize < Text.utf8Size (Path.toText ⟨.absolute, names⟩) ∨ tree.MeetsLongName [] names)

/-- No lookup is refused while the path and all names on the way are short enough. -/
theorem not_isRefused_of_short
    {tree : FileTree}
    {names : List Text}
    (shortPath : Text.utf8Size (Path.toText ⟨.absolute, names⟩) ≤ maxPathSize)
    (shortNames : ∀ name ∈ names, Text.utf8Size name ≤ maxNameSize) :
    ¬IsRefused tree names := by
  rintro ⟨_, longPath | ⟨before, name, after, rfl, _, longName⟩⟩
  · exact Nat.not_lt.mpr shortPath longPath
  · exact Nat.not_lt.mpr (shortNames name (by simp)) longName

/-- A path that the system takes is looked up by a walk from the root. -/
theorem locate_absolute
    (tree : FileTree)
    {names : List Text}
    (noNull : '\x00' ∉ Path.toText ⟨.absolute, names⟩)
    (short : ¬maxPathSize < Text.utf8Size (Path.toText ⟨.absolute, names⟩)) :
    (⟨tree, []⟩ : Workspace).locate true ⟨.absolute, names⟩ =
      match tree.walk true maxLinks [] names with
      | .ok place => .ok place
      | .error fault => .error (.system fault) := by
  rw [Workspace.locate, FileTree.locate, if_neg (by simpa using noNull), if_neg short]
  rfl

section

variable
    {tree : FileTree}
    (wellFormed : tree.WellFormed)
    (linkFree : tree.LinkFree)
    {names : List Text}
    (areNames : AreNames names)

include wellFormed linkFree areNames

theorem locate_of_isRefused
    (refused : IsRefused tree names) :
    (⟨tree, []⟩ : Workspace).locate true ⟨.absolute, names⟩ = .error (.system .nameTooLong) := by
  obtain ⟨noNull, tooLong⟩ := refused
  by_cases longPath : maxPathSize < Text.utf8Size (Path.toText ⟨.absolute, names⟩)
  · rw [Workspace.locate, FileTree.locate, if_neg (by simpa using noNull), if_pos longPath]
  · have walked :=
      (walk_eq_nameTooLong_iff wellFormed linkFree maxLinks areNames).mpr
        (tooLong.resolve_left longPath)
    rw [locate_absolute tree noNull longPath, walked]

theorem find?_of_isRefused
    (refused : IsRefused tree names) :
    (⟨tree, []⟩ : Workspace).find? ⟨.absolute, names⟩ = .error .nameTooLong := by
  rw [Workspace.find?, Host.find?, locate_faultless,
    locate_of_isRefused wellFormed linkFree areNames refused]
  rfl

/-- A lookup that is not refused arrives at a directory where one stands. -/
theorem locate_of_directory
    (admitted : ¬IsRefused tree names)
    (noNull : '\x00' ∉ Path.toText ⟨.absolute, names⟩)
    (here : tree.get? names = some .directory) :
    (⟨tree, []⟩ : Workspace).locate true ⟨.absolute, names⟩ =
      .ok (.present names .directory) := by
  obtain ⟨shortPath, shortNames⟩ :=
    not_or.mp fun tooLong => admitted ⟨noNull, tooLong⟩
  have scans : Scans tree true [] names (.arrived (.present names .directory)) :=
    scans_of_get? wellFormed linkFree areNames shortNames here
  have walked : tree.walk true maxLinks [] names = .ok (.present names .directory) :=
    walk_eq_ok_iff.mpr (.arrive scans)
  rw [locate_absolute tree noNull shortPath, walked]

theorem find?_of_directory
    (admitted : ¬IsRefused tree names)
    (noNull : '\x00' ∉ Path.toText ⟨.absolute, names⟩)
    (here : tree.get? names = some .directory) :
    (⟨tree, []⟩ : Workspace).find? ⟨.absolute, names⟩ = .ok (some (names, .directory)) := by
  rw [Workspace.find?, Host.find?, locate_faultless,
    locate_of_directory wellFormed linkFree areNames admitted noNull here]

/-- A lookup that is not refused finds no directory where none stands. -/
theorem find?_of_not_directory
    (admitted : ¬IsRefused tree names)
    (notHere : tree.get? names ≠ some .directory) :
    ∃ found,
      (⟨tree, []⟩ : Workspace).find? ⟨.absolute, names⟩ = .ok found ∧
        ∀ location, found ≠ some (location, .directory) := by
  by_cases null : '\x00' ∈ Path.toText ⟨.absolute, names⟩
  · refine ⟨none, ?_, by simp⟩
    rw [Workspace.find?, Host.find?, locate_faultless, Workspace.locate, FileTree.locate,
      if_pos (by simpa using null)]
  · obtain ⟨shortPath, shortNames⟩ :=
      not_or.mp fun tooLong => admitted ⟨null, tooLong⟩
    rw [Workspace.find?, Host.find?, locate_faultless, locate_absolute tree null shortPath]
    cases walked : tree.walk true maxLinks [] names with
    | error fault =>
        have notTooLong : fault ≠ .nameTooLong := by
          rintro rfl
          exact shortNames
            ((walk_eq_nameTooLong_iff wellFormed linkFree maxLinks areNames).mp walked)
        have absent := (walk_fault walked).resolve_right notTooLong
        exact ⟨none, by simp [absent], by simp⟩
    | ok place =>
        have walks := walk_eq_ok_iff.mp walked
        have located := walks.location_of_linkFreeFrom (.of_linkFree linkFree []) areNames
        cases place with
        | missing parent name => exact ⟨none, rfl, by simp⟩
        | present location entry =>
            refine ⟨some (location, entry), rfl, ?_⟩
            rintro _ same
            cases same
            obtain rfl : location = names := located
            exact notHere walks.get?_of_present

end

/-- On a host, a lookup is refused by a device, or it ends as the tree says. -/
theorem find?_cases
    (host : Host)
    (workspace : Workspace)
    (path : Path) :
    (∃ fault, host.find? workspace path = .error (.device fault)) ∨
      host.find? workspace path = workspace.find? path := by
  rcases locate_cases host workspace true path with ⟨fault, refused⟩ | same
  · refine .inl ⟨fault, ?_⟩
    simp [Host.find?, refused]
  · refine .inr ?_
    rw [Workspace.find?, Host.find?, Host.find?, same, locate_faultless]

end Workspace

end ModSkeleton
