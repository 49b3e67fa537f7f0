import ModSkeleton.Proofs.Workspace.Writing

namespace ModSkeleton

open FileTree

/-!
# Room along a path

In a tree without links, whether directories can be made along a path, and a file
written at its end, is decided by a few entries: nothing but directories may stand
above the end of the path. A path that is open in this sense is found, or a
directory above its end is missing. So making its directories succeeds, and so
does writing the file, unless a directory stands in its place.
-/

/-- Nothing stands at a location, or a directory. -/
def FileTree.IsOpenAt
    (tree : FileTree)
    (location : Location) :
    Prop :=
  tree.get? location = none ∨ tree.get? location = some .directory

theorem FileTree.GrowsTo.isOpenAt
    {before after : FileTree}
    (grows : GrowsTo before after)
    {location : Location}
    (later : after.IsOpenAt location) :
    before.IsOpenAt location := by
  cases found : before.get? location with
  | none => exact .inl found
  | some entry =>
      obtain ⟨last, foundLast, kind⟩ := grows location entry found
      rcases later with absent | isDirectory
      · rw [foundLast] at absent
        cases absent
      · rw [foundLast] at isDirectory
        cases isDirectory
        cases kind with
        | directory => exact .inr found

theorem FileTree.AddsDirectories.isOpenAt
    {allowed : Location → Prop}
    {before after : FileTree}
    (adds : AddsDirectories allowed before after)
    {location : Location}
    (earlier : before.IsOpenAt location) :
    after.IsOpenAt location := by
  rcases adds location with same | ⟨_, added, _⟩
  · rwa [IsOpenAt, same]
  · exact .inr added

/-- On the way to an entry there are directories. -/
theorem FileTree.WellFormed.directory_on_way
    {tree : FileTree}
    (wellFormed : tree.WellFormed)
    {upper location : Location}
    (above : upper <+: location)
    (proper : upper ≠ location)
    {entry : Entry}
    (found : tree.get? location = some entry) :
    tree.get? upper = some .directory := by
  obtain ⟨below, rfl⟩ := above
  refine wellFormed.directory_above ?_ found
  rintro rfl
  exact proper (List.append_nil upper).symm

/-- A scan with nothing but directories on its way fails only where one is missing. -/
theorem FileTree.scan_error_of_isOpenAt
    {tree : FileTree}
    (linkFree : tree.LinkFree)
    {followLast : Bool}
    {start : Location}
    {entry : Entry}
    (here : tree.get? start = some entry)
    {names : List Text}
    (areNames : ∀ name ∈ names, IsEntryName name)
    (above : ∀ upper, upper <+: names → upper ≠ names → tree.IsOpenAt (start ++ upper))
    {fault : FileFault}
    (failed : scan tree followLast start names = .error fault) :
    fault = .notFound ∧
      ∃ upper, upper <+: names ∧ upper ≠ names ∧ tree.get? (start ++ upper) = none := by
  induction names generalizing start entry with
  | nil =>
      rw [scan, here] at failed
      cases failed
  | cons name rest inductionHypothesis =>
      have proper := areNames name List.mem_cons_self
      have fits := Nat.not_lt.mpr proper.fits
      have startDirectory : tree.get? start = some .directory := by
        have openStart := above [] List.nil_prefix (by simp)
        rw [List.append_nil] at openStart
        rcases openStart with absent | isDirectory
        · rw [here] at absent
          cases absent
        · exact isDirectory
      simp only [scan, startDirectory, proper.notParent, proper.notCurrent, fits,
        if_false] at failed
      cases next : tree.get? (start ++ [name]) with
      | none =>
          simp only [next] at failed
          split at failed
          case isTrue => cases failed
          case isFalse more =>
            cases failed
            refine ⟨rfl, [name], List.prefix_append [name] rest, ?_, next⟩
            intro last
            simp at last
            exact more (by simp [last])
      | some found =>
          have onward : scan tree followLast (start ++ [name]) rest = .error fault := by
            cases found with
            | link target => exact (linkFree _ target next).elim
            | directory => simpa only [next] using failed
            | file content => simpa only [next] using failed
          have shape : ∀ upper, start ++ name :: upper = (start ++ [name]) ++ upper := by simp
          obtain ⟨isNotFound, upper, beginning, notAll, absent⟩ :=
            inductionHypothesis next
              (fun other member => areNames other (List.mem_cons_of_mem _ member))
              (by
                intro upper beginning notAll
                rw [← shape]
                exact above (name :: upper) (List.cons_prefix_cons.mpr ⟨rfl, beginning⟩)
                  (by simpa using notAll))
              onward
          refine ⟨isNotFound, name :: upper, List.cons_prefix_cons.mpr ⟨rfl, beginning⟩,
            by simpa using notAll, ?_⟩
          rw [shape]
          exact absent

namespace Workspace

theorem utf8Size_append
    (first second : Text) :
    Text.utf8Size (first ++ second) = Text.utf8Size first + Text.utf8Size second := by
  induction first with
  | nil => simp [Text.utf8Size]
  | cons c rest inductionHypothesis =>
      simp only [List.cons_append, Text.utf8Size, inductionHypothesis]
      omega

/-- The text of a beginning of a path, unless there is nothing in it, begins its text. -/
theorem toText_of_beginning
    (root : PathRoot)
    {upper parts : List Text}
    (some : upper ≠ [])
    (beginning : upper <+: parts) :
    Path.toText ⟨root, upper⟩ <+: Path.toText ⟨root, parts⟩ := by
  obtain ⟨more, rfl⟩ := beginning
  by_cases last : more = []
  · simp [last]
  · have joined := Text.joinWith_append ['/'] some last
    cases root with
    | relative => simp [Path.toText, some, joined]
    | absolute => simp [Path.toText, joined]
    | doubleSlash => simp [Path.toText, joined]

/-- The system takes every beginning of a path that it takes. -/
theorem Takes.of_beginning
    {root : PathRoot}
    {upper parts : List Text}
    (takes : Takes ⟨root, parts⟩)
    (beginning : upper <+: parts) :
    Takes ⟨root, upper⟩ := by
  by_cases some : upper = []
  · subst some
    cases root <;> exact ⟨by decide, by decide⟩
  · obtain ⟨more, shape⟩ := toText_of_beginning root some beginning
    have noNull := takes.noNull
    have fits := takes.fits
    rw [← shape] at noNull fits
    rw [utf8Size_append] at fits
    refine ⟨?_, by omega⟩
    simp only [List.contains_eq_mem, List.mem_append, decide_eq_false_iff_not] at noNull ⊢
    exact fun member => noNull (.inl member)

/--
A path to whose end directories can be made: the system takes it, its names can
name entries, and above its end nothing stands but directories.
-/
structure IsOpen
    (workspace : Workspace)
    (path : Path) :
    Prop where
  takes : Takes path
  names : ∀ name ∈ path.parts, IsEntryName name
  start : workspace.tree.get? (startOf workspace.directory path) = some .directory
  above :
    ∀ upper, upper <+: path.parts → upper ≠ path.parts →
      workspace.tree.IsOpenAt (startOf workspace.directory path ++ upper)

namespace IsOpen

theorem areNames
    {workspace : Workspace}
    {path : Path}
    (isOpen : workspace.IsOpen path) :
    AreNames path.parts :=
  fun name member => ⟨(isOpen.names name member).notParent, (isOpen.names name member).notCurrent⟩

/-- Every beginning of an open path is open, and so is its end unless it is all of it. -/
theorem of_beginning
    {workspace : Workspace}
    {root : PathRoot}
    {upper parts : List Text}
    (isOpen : workspace.IsOpen ⟨root, parts⟩)
    (beginning : upper <+: parts) :
    workspace.IsOpen ⟨root, upper⟩ where
  takes := isOpen.takes.of_beginning beginning
  names name member := isOpen.names name (beginning.subset member)
  start := isOpen.start
  above more moreBeginning notAll := by
    refine isOpen.above more (moreBeginning.trans beginning) ?_
    rintro rfl
    exact notAll (moreBeginning.eq_of_length_le beginning.length_le)

theorem addsDirectories
    {before after : Workspace}
    (sameDirectory : after.directory = before.directory)
    {allowed : Location → Prop}
    (adds : AddsDirectories allowed before.tree after.tree)
    {path : Path}
    (isOpen : before.IsOpen path) :
    after.IsOpen path where
  takes := isOpen.takes
  names := isOpen.names
  start := by
    rw [sameDirectory]
    exact adds.get?_of_some isOpen.start
  above upper beginning notAll := by
    rw [sameDirectory]
    exact adds.isOpenAt (isOpen.above upper beginning notAll)

section

variable
    {workspace : Workspace}
    (linkFree : workspace.tree.LinkFree)
    {path : Path}
    (isOpen : workspace.IsOpen path)

include linkFree isOpen

/-- An open path is not found only if a directory above its end is missing. -/
theorem locate_error
    {followLast : Bool}
    {fault : AccessFault}
    (failed : workspace.locate followLast path = .error fault) :
    fault = .system .notFound ∧
      ∃ upper, upper <+: path.parts ∧ upper ≠ path.parts ∧
        workspace.tree.get? (startOf workspace.directory path ++ upper) = none := by
  have noNull : path.toText.contains '\x00' ≠ true := by
    rw [isOpen.takes.noNull]
    simp
  unfold locate FileTree.locate at failed
  rw [if_neg noNull, if_neg (Nat.not_lt.mpr isOpen.takes.fits), walk.eq_def] at failed
  cases scanned :
      scan workspace.tree followLast (startOf workspace.directory path) path.parts with
  | error reason =>
      simp only [scanned] at failed
      cases failed
      obtain ⟨isNotFound, missing⟩ :=
        scan_error_of_isOpenAt linkFree isOpen.start isOpen.names isOpen.above scanned
      exact ⟨by rw [isNotFound], missing⟩
  | ok stop =>
      obtain ⟨place, rfl, _⟩ :=
        (scan_eq_ok_iff.mp scanned).location_of_linkFreeFrom (.of_linkFree linkFree _)
          isOpen.areNames
      simp only [scanned] at failed
      cases failed

/-- A path whose folder is there leads to its end, whether something stands there or not. -/
theorem locate_of_folder
    (wellFormed : workspace.tree.WellFormed)
    (folder :
      workspace.tree.get? (startOf workspace.directory path ++ path.parts.dropLast) =
        some .directory)
    (followLast : Bool) :
    ∃ place,
      workspace.locate followLast path = .ok place ∧
        place.location = workspace.absolute path := by
  cases located : workspace.locate followLast path with
  | ok place => exact ⟨place, rfl, location_eq_absolute linkFree isOpen.areNames located⟩
  | error fault =>
      obtain ⟨_, upper, beginning, notAll, absent⟩ := isOpen.locate_error linkFree located
      have inFolder : upper <+: path.parts.dropLast := by
        obtain ⟨more, shape⟩ := beginning
        have further : more ≠ [] := by
          rintro rfl
          exact notAll (by simpa using shape)
        rw [← shape, List.dropLast_append_of_ne_nil further]
        exact List.prefix_append _ _
      obtain ⟨more, shape⟩ := inFolder
      rw [← shape, ← List.append_assoc, wellFormed.none_below absent more] at folder
      cases folder

/-- An open path to a directory leads there. -/
theorem leadsTo
    (wellFormed : workspace.tree.WellFormed)
    (isDirectory : workspace.tree.get? (workspace.absolute path) = some .directory) :
    workspace.LeadsTo path (workspace.absolute path) := by
  have folder :
      workspace.tree.get? (startOf workspace.directory path ++ path.parts.dropLast) =
        some .directory := by
    by_cases isStart : path.parts = []
    · simpa [isStart] using isOpen.start
    · have shape := List.dropLast_concat_getLast isStart
      rw [absolute, ← shape, ← List.append_assoc] at isDirectory
      exact wellFormed _ _ _ isDirectory
  obtain ⟨place, located, here⟩ := isOpen.locate_of_folder linkFree wellFormed folder true
  have walks := (locate_eq_ok_iff.mp located).2
  cases place with
  | present location entry =>
      have shape : location = workspace.absolute path := here
      have found := walks.get?_of_present
      rw [shape, isDirectory] at found
      cases found
      rw [LeadsTo, located, shape]
  | missing parent name =>
      have shape : parent ++ [name] = workspace.absolute path := here
      have absent := walks.room_of_missing.2
      rw [shape, isDirectory] at absent
      cases absent

/-- A directory can be made, or is there, at the end of an open path whose folder is there. -/
theorem ensureDirectory_of_folder
    (wellFormed : workspace.tree.WellFormed)
    (openEnd : workspace.tree.IsOpenAt (workspace.absolute path))
    (folder :
      workspace.tree.get? (startOf workspace.directory path ++ path.parts.dropLast) =
        some .directory) :
    (Host.faultless.ensureDirectory workspace path).2 = .ok () := by
  rcases openEnd with absent | isDirectory
  · obtain ⟨place, located, here⟩ := isOpen.locate_of_folder linkFree wellFormed folder false
    cases place with
    | present location entry =>
        have shape : location = workspace.absolute path := here
        have found := (locate_eq_ok_iff.mp located).2.get?_of_present
        rw [shape, absent] at found
        cases found
    | missing parent name => rw [ensureDirectory_of_missing located]
  · rw [ensureDirectory_of_leadsTo (isOpen.leadsTo linkFree wellFormed isDirectory)]

/-- A directory at the end of an open path is not found as long as its folder is missing. -/
theorem ensureDirectory_of_no_folder
    (wellFormed : workspace.tree.WellFormed)
    (some : path.parts ≠ [])
    (noFolder :
      workspace.tree.get? (startOf workspace.directory path ++ path.parts.dropLast) = none) :
    Host.faultless.ensureDirectory workspace path = (workspace, .error (.system .notFound)) := by
  have absentBelow := wellFormed.none_below noFolder [path.parts.getLast some]
  rw [List.append_assoc, List.dropLast_concat_getLast some] at absentBelow
  cases located : workspace.locate false path with
  | error fault =>
      obtain ⟨rfl, _⟩ := isOpen.locate_error linkFree located
      simp [Host.ensureDirectory, Host.makeDirectory, located]
  | ok place =>
      have here := location_eq_absolute linkFree isOpen.areNames located
      have walks := (locate_eq_ok_iff.mp located).2
      cases place with
      | present location entry =>
          have shape : location = workspace.absolute path := here
          have found := walks.get?_of_present
          rw [shape, absolute, absentBelow] at found
          cases found
      | missing parent name =>
          have shape : parent ++ [name] = workspace.absolute path := here
          have isDirectory := walks.room_of_missing.1
          have sameFolder :
              parent = startOf workspace.directory path ++ path.parts.dropLast := by
            rw [absolute, ← List.dropLast_concat_getLast some, ← List.append_assoc] at shape
            exact (List.append_inj' shape rfl).1
          rw [sameFolder, noFolder] at isDirectory
          cases isDirectory

end

end IsOpen

theorem ensureDirectoriesUpward_of_isOpen
    {root : PathRoot}
    {names : List Text}
    {workspace : Workspace}
    (linkFree : workspace.tree.LinkFree)
    (wellFormed : workspace.tree.WellFormed)
    (isOpen : workspace.IsOpen ⟨root, names.reverse⟩)
    (openEnd : workspace.tree.IsOpenAt (workspace.absolute ⟨root, names.reverse⟩)) :
    (Host.faultless.ensureDirectoriesUpward root names workspace).2 = .ok () := by
  induction names with
  | nil =>
      have folder := isOpen.start
      rw [Host.ensureDirectoriesUpward]
      exact isOpen.ensureDirectory_of_folder linkFree wellFormed openEnd (by simpa using folder)
  | cons name above inductionHypothesis =>
      rw [List.reverse_cons] at isOpen openEnd
      have openFolder : workspace.tree.IsOpenAt (workspace.absolute ⟨root, above.reverse⟩) :=
        isOpen.above above.reverse (List.prefix_append _ _) (by simp)
      have folderPath := isOpen.of_beginning (List.prefix_append above.reverse [name])
      have folderShape :
          ∀ directory,
            startOf directory (⟨root, above.reverse ++ [name]⟩ : Path) ++
                (above.reverse ++ [name]).dropLast =
              startOf directory ⟨root, above.reverse⟩ ++ above.reverse := by
        intro directory
        rw [List.dropLast_concat]
        rfl
      rcases openFolder with absent | isDirectory
      -- The directories above have to be made first.
      · have notFound :=
          isOpen.ensureDirectory_of_no_folder linkFree wellFormed (by simp)
            (by rwa [folderShape])
        have upper := inductionHypothesis folderPath (.inl absent)
        have made := madeAlong_ensureDirectoriesUpward Host.faultless root above workspace
        obtain ⟨location, leads⟩ := leadsTo_of_ensureDirectoriesUpward upper
        cases result : Host.faultless.ensureDirectoriesUpward root above workspace with
        | mk grown outcome =>
            rw [result] at upper made leads
            obtain rfl : outcome = .ok () := upper
            have grownLinkFree := made.linkFree linkFree
            have grownOpen := isOpen.addsDirectories made.directory made.adds
            have grownEnd :
                grown.tree.IsOpenAt (grown.absolute ⟨root, above.reverse ++ [name]⟩) := by
              rw [absolute_congr made.directory]
              exact made.adds.isOpenAt openEnd
            have here :
                location = grown.absolute ⟨root, above.reverse⟩ :=
              location_eq_absolute grownLinkFree
                (folderPath.addsDirectories made.directory made.adds).areNames leads
            have folder := leads.get?
            rw [here] at folder
            rw [Host.ensureDirectoriesUpward, List.reverse_cons]
            simp only [notFound, result]
            exact grownOpen.ensureDirectory_of_folder grownLinkFree
              (made.wellFormed wellFormed) grownEnd
              (by rwa [folderShape])
      · have found :=
          isOpen.ensureDirectory_of_folder linkFree wellFormed openEnd
            (by rwa [folderShape])
        rw [Host.ensureDirectoriesUpward, List.reverse_cons]
        split
        case h_1 failed =>
          rw [failed] at found
          cases found
        case h_2 => exact found

/-- The directories of an open path are made, unless something else stands at its end. -/
theorem ensureDirectories_of_isOpen
    {workspace : Workspace}
    (linkFree : workspace.tree.LinkFree)
    (wellFormed : workspace.tree.WellFormed)
    {path : Path}
    (isOpen : workspace.IsOpen path)
    (openEnd : workspace.tree.IsOpenAt (workspace.absolute path)) :
    (Host.faultless.ensureDirectories workspace path).2 = .ok () :=
  ensureDirectoriesUpward_of_isOpen linkFree wellFormed
    (by rwa [List.reverse_reverse]) (by rwa [List.reverse_reverse])

/-- A file is written at the end of an open path unless a directory stands there. -/
theorem write_of_isOpen
    {workspace : Workspace}
    (linkFree : workspace.tree.LinkFree)
    (wellFormed : workspace.tree.WellFormed)
    {path : Path}
    (isOpen : workspace.IsOpen path)
    (folder :
      workspace.tree.get? (startOf workspace.directory path ++ path.parts.dropLast) =
        some .directory)
    (noDirectory : workspace.tree.get? (workspace.absolute path) ≠ some .directory)
    (content : Text) :
    ∃ written, Host.faultless.write workspace path content = (written, .ok ()) := by
  obtain ⟨place, located, here⟩ := isOpen.locate_of_folder linkFree wellFormed folder true
  cases place with
  | missing parent name => exact ⟨_, write_of_writable located trivial content⟩
  | present location entry =>
      have shape : location = workspace.absolute path := here
      have found := (locate_eq_ok_iff.mp located).2.get?_of_present
      cases entry with
      | file old => exact ⟨_, write_of_writable located trivial content⟩
      | directory => exact (noDirectory (shape ▸ found)).elim
      | link target => exact (linkFree _ target found).elim

/-- A lookup along an open path finds a directory, something else, or nothing. -/
theorem find?_of_isOpen
    {workspace : Workspace}
    (linkFree : workspace.tree.LinkFree)
    {path : Path}
    (isOpen : workspace.IsOpen path)
    (absent : workspace.tree.get? (workspace.absolute path) = none) :
    workspace.find? path = .ok none := by
  rw [find?, Host.find?, locate_faultless]
  cases located : workspace.locate true path with
  | error fault =>
      obtain ⟨rfl, _⟩ := isOpen.locate_error linkFree located
      rfl
  | ok place =>
      cases place with
      | missing parent name => rfl
      | present location entry =>
          have shape : location = workspace.absolute path :=
            location_eq_absolute linkFree isOpen.areNames located
          have found := (locate_eq_ok_iff.mp located).2.get?_of_present
          rw [shape, absent] at found
          cases found

end Workspace

end ModSkeleton
