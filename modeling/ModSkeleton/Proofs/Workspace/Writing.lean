import ModSkeleton.Proofs.Text.Splitting
import ModSkeleton.Proofs.Workspace.Making

namespace ModSkeleton.Workspace

open FileTree

/-!
# Writing files

A file is written where its path leads, over an earlier file or into a directory
that has room for it, and nothing else changes. The operations on a path without
NUL fail only with faults that the system reports.
-/

/-- A place where a file can be written: over a file, or where there is nothing. -/
def IsWritable : Place → Prop
  | .present _ (.file _) => True
  | .present _ _ => False
  | .missing _ _ => True

/-- Filling a file fails before it is opened or while it is written, or it succeeds. -/
theorem fillFile_cases
    (host : Host)
    (workspace : Workspace)
    (location : Location)
    (content : Text) :
    (∃ fault,
      host.fillFile workspace location content =
        (workspace, .error (.system (.device fault)))) ∨
      (∃ count fault,
        host.device.writeFile workspace.tree location (Text.encode content) =
            some (count, fault) ∧
          host.fillFile workspace location content =
            (workspace.put location (.file ((Text.encode content).take count)),
              .error (.system (.device fault)))) ∨
        host.fillFile workspace location content =
          (workspace.put location (.file (Text.encode content)), .ok ()) := by
  unfold Host.fillFile
  cases opened : host.device.openFile workspace.tree location with
  | some fault => exact .inl ⟨fault, rfl⟩
  | none =>
      cases wrote : host.device.writeFile workspace.tree location (Text.encode content) with
      | some answer =>
          exact .inr (.inl ⟨answer.1, answer.2, rfl, by simp only [wrote]⟩)
      | none => exact .inr (.inr (by simp only [wrote]))

/--
Writing a file changes nothing and fails, or it fills the file that the path leads to: with
all of the text, or with a beginning of it and the fault that the device reports.
-/
theorem write_cases
    (host : Host)
    (workspace : Workspace)
    (path : Path)
    (content : Text) :
    (∃ fault, host.write workspace path content = (workspace, .error fault)) ∨
      ∃ place,
        workspace.locate true path = .ok place ∧ IsWritable place ∧
          ((∃ count fault,
            host.device.writeFile workspace.tree place.location (Text.encode content) =
                some (count, fault) ∧
              host.write workspace path content =
                (workspace.put place.location (.file ((Text.encode content).take count)),
                  .error (.system (.device fault)))) ∨
            host.write workspace path content =
              (workspace.put place.location (.file (Text.encode content)), .ok ())) := by
  unfold Host.write
  cases located : host.locate workspace true path with
  | error fault => exact .inl ⟨fault, rfl⟩
  | ok place =>
      have here := locate_of_host located
      cases place with
      | missing parent name =>
          rcases fillFile_cases host workspace (parent ++ [name]) content with
            ⟨fault, result⟩ | partly | wholly
          · exact .inl ⟨_, result⟩
          · exact .inr ⟨_, here, trivial, .inl partly⟩
          · exact .inr ⟨_, here, trivial, .inr wholly⟩
      | present location entry =>
          cases entry with
          | directory => exact .inl ⟨_, rfl⟩
          | link target => exact .inl ⟨_, rfl⟩
          | file old =>
              rcases fillFile_cases host workspace location content with
                ⟨fault, result⟩ | partly | wholly
              · exact .inl ⟨_, result⟩
              · exact .inr ⟨_, here, trivial, .inl partly⟩
              · exact .inr ⟨_, here, trivial, .inr wholly⟩

/-- Writing succeeds by putting the text where the path leads. -/
theorem write_eq_ok
    {host : Host}
    {before after : Workspace}
    {path : Path}
    {content : Text}
    (wrote : host.write before path content = (after, .ok ())) :
    ∃ place,
      before.locate true path = .ok place ∧ IsWritable place ∧
        after = before.put place.location (.file (Text.encode content)) := by
  rcases write_cases host before path content with
    ⟨fault, result⟩ | ⟨place, located, writable, ⟨count, fault, _, result⟩ | result⟩
  · rw [wrote] at result
    cases result
  · rw [wrote] at result
    cases result
  · rw [wrote] at result
    cases result
    exact ⟨place, located, writable, rfl⟩

/-- Without faults of devices, a text is written wherever a file can be written. -/
theorem write_of_writable
    {workspace : Workspace}
    {path : Path}
    {place : Place}
    (located : workspace.locate true path = .ok place)
    (writable : IsWritable place)
    (content : Text) :
    Host.faultless.write workspace path content =
      (workspace.put place.location (.file (Text.encode content)), .ok ()) := by
  rw [Host.write, locate_faultless, located]
  cases place with
  | missing parent name => rfl
  | present location entry =>
      cases entry with
      | file old => rfl
      | directory => exact writable.elim
      | link target => exact writable.elim

/-- Without faults of devices, a file that is not written leaves everything as it was. -/
theorem write_eq_error
    {before left : Workspace}
    {path : Path}
    {content : Text}
    {fault : AccessFault}
    (failed : Host.faultless.write before path content = (left, .error fault)) :
    left = before := by
  rcases write_cases Host.faultless before path content with
    ⟨fault, result⟩ | ⟨place, _, _, ⟨count, fault, asked, _⟩ | result⟩
  · rw [failed] at result
    cases result
    rfl
  · cases asked
  · rw [failed] at result
    cases result

/-- A place where a file can be written holds a file or has room for one. -/
theorem writable_cases
    {workspace : Workspace}
    {path : Path}
    {place : Place}
    (located : workspace.locate true path = .ok place)
    (writable : IsWritable place) :
    (∃ old, workspace.tree.get? place.location = some (.file old)) ∨
      ∃ parent name,
        place.location = parent ++ [name] ∧
          workspace.tree.get? parent = some .directory ∧
            workspace.tree.get? place.location = none := by
  have walks := (locate_eq_ok_iff.mp located).2
  cases place with
  | present location entry =>
      cases entry with
      | file old => exact .inl ⟨old, walks.get?_of_present⟩
      | directory => exact writable.elim
      | link target => exact writable.elim
  | missing parent name =>
      exact .inr ⟨parent, name, rfl, walks.room_of_missing⟩

/-- What is put at a place where a file can be written stands there. -/
theorem get?_put_of_writable
    {workspace : Workspace}
    {path : Path}
    {place : Place}
    (located : workspace.locate true path = .ok place)
    (writable : IsWritable place)
    (entry : Entry) :
    (workspace.put place.location entry).tree.get? place.location = some entry := by
  have notRoot : place.location ≠ [] := by
    intro isRoot
    rcases writable_cases located writable with ⟨old, found⟩ | ⟨parent, name, shape, _⟩
    · rw [isRoot] at found
      simp at found
    · rw [isRoot] at shape
      simp at shape
  exact get?_insert_self workspace.tree notRoot entry

theorem growsTo_put_of_writable
    {workspace : Workspace}
    {path : Path}
    {place : Place}
    (located : workspace.locate true path = .ok place)
    (writable : IsWritable place)
    (content : Text.Bytes) :
    GrowsTo workspace.tree (workspace.put place.location (.file content)).tree := by
  rcases writable_cases located writable with ⟨old, found⟩ | ⟨_, _, _, _, absent⟩
  · exact .insert_of_file found content
  · exact .insert_of_none absent (.file content)

theorem wellFormed_put_of_writable
    {workspace : Workspace}
    (wellFormed : workspace.tree.WellFormed)
    {path : Path}
    {place : Place}
    (located : workspace.locate true path = .ok place)
    (writable : IsWritable place)
    (content : Text.Bytes) :
    (workspace.put place.location (.file content)).tree.WellFormed := by
  have noDirectory :
      workspace.tree.get? place.location = some .directory →
      Entry.file content = .directory := by
    intro isDirectory
    rcases writable_cases located writable with ⟨old, found⟩ | ⟨_, _, _, _, absent⟩
    · rw [isDirectory] at found
      cases found
    · rw [isDirectory] at absent
      cases absent
  obtain ⟨parent, name, shape, inside⟩ :
      ∃ parent name,
        place.location = parent ++ [name] ∧
          workspace.tree.get? parent = some .directory := by
    rcases writable_cases located writable with ⟨old, found⟩ | ⟨parent, name, shape, inside, _⟩
    · have notRoot : place.location ≠ [] := by
        intro isRoot
        rw [isRoot] at found
        simp at found
      have shape := (List.dropLast_concat_getLast notRoot).symm
      rw [shape] at found
      exact ⟨_, _, shape, wellFormed _ _ _ found⟩
    · exact ⟨parent, name, shape, inside⟩
  rw [shape] at noDirectory ⊢
  exact wellFormed.insert inside noDirectory

/-- A path of which no name has a NUL. -/
def NullFree
    (path : Path) :
    Prop :=
  ∀ part ∈ path.parts, '\x00' ∉ part

theorem NullFree.append
    {path : Path}
    (nullFree : NullFree path)
    {names : List Text}
    (namesNullFree : ∀ name ∈ names, '\x00' ∉ name) :
    NullFree (path.append names) := by
  intro part member
  rcases List.mem_append.mp member with inPath | inNames
  · exact nullFree part inPath
  · exact namesNullFree part inNames

theorem NullFree.of_prefix
    {root : PathRoot}
    {upper parts : List Text}
    (nullFree : NullFree ⟨root, parts⟩)
    (beginning : upper <+: parts) :
    NullFree ⟨root, upper⟩ :=
  fun part member => nullFree part (beginning.subset member)

/-- The text of a path has a NUL exactly when one of its names has. -/
theorem nullFree_iff
    (path : Path) :
    NullFree path ↔ '\x00' ∉ path.toText := by
  have joined :
      '\x00' ∈ Text.joinWith ['/'] path.parts ↔ ∃ part ∈ path.parts, '\x00' ∈ part :=
    Text.mem_joinWith_iff (by decide)
  have shape : '\x00' ∈ path.toText ↔ '\x00' ∈ Text.joinWith ['/'] path.parts := by
    unfold Path.toText
    cases path.root with
    | relative =>
        cases parts : path.parts with
        | nil => decide
        | cons part parts => simp
    | absolute => simp
    | doubleSlash => simp
  rw [shape, joined]
  simp [NullFree]

/-- No name in a path text without NUL has one. -/
theorem nullFree_parse
    {text : Text}
    (noNull : '\x00' ∉ text) :
    NullFree (Path.parse text) := by
  intro part member inPart
  exact noNull (Text.subset_of_mem_splitOn (List.mem_filter.mp member).1 inPart)

theorem locate_fault
    {workspace : Workspace}
    {followLast : Bool}
    {path : Path}
    (nullFree : NullFree path)
    {fault : AccessFault}
    (failed : workspace.locate followLast path = .error fault) :
    ∃ reported, fault = .system reported := by
  have noNull : path.toText.contains '\x00' = false := by
    simpa using (nullFree_iff path).mp nullFree
  unfold locate FileTree.locate at failed
  rw [noNull, if_neg (by simp)] at failed
  split at failed
  case isTrue =>
    cases failed
    exact ⟨_, rfl⟩
  case isFalse =>
    split at failed
    case h_1 => cases failed
    case h_2 =>
      cases failed
      exact ⟨_, rfl⟩

/-- The system reports why a path without NUL is not looked up on a host. -/
theorem locate_fault_of_host
    {host : Host}
    {workspace : Workspace}
    {followLast : Bool}
    {path : Path}
    (nullFree : NullFree path)
    {fault : AccessFault}
    (failed : host.locate workspace followLast path = .error fault) :
    ∃ reported, fault = .system reported := by
  rcases locate_cases host workspace followLast path with ⟨device, refused⟩ | same
  · rw [refused] at failed
    cases failed
    exact ⟨_, rfl⟩
  · rw [same] at failed
    exact locate_fault nullFree failed

theorem ensureDirectory_fault
    {host : Host}
    {workspace : Workspace}
    {path : Path}
    (nullFree : NullFree path)
    {fault : AccessFault}
    (failed : (host.ensureDirectory workspace path).2 = .error fault) :
    ∃ reported, fault = .system reported := by
  unfold Host.ensureDirectory at failed
  split at failed
  case h_1 => cases failed
  case h_2 =>
    cases failed
    exact ⟨_, rfl⟩
  case h_3 =>
    split at failed
    case h_1 => cases failed
    case h_2 =>
      cases failed
      exact ⟨_, rfl⟩
    case h_3 =>
      cases failed
      exact ⟨_, rfl⟩
  case h_4 reported _ _ made =>
    cases failed
    unfold Host.makeDirectory at made
    split at made
    case h_1 located =>
      cases made
      exact locate_fault_of_host nullFree located
    case h_2 =>
      cases made
      exact ⟨_, rfl⟩
    case h_3 =>
      split at made
      case h_1 =>
        cases made
        exact ⟨_, rfl⟩
      case h_2 => cases made

theorem ensureDirectoriesUpward_fault
    {host : Host}
    {root : PathRoot}
    {names : List Text}
    (nullFree : NullFree ⟨root, names.reverse⟩)
    {workspace : Workspace}
    {fault : AccessFault}
    (failed : (host.ensureDirectoriesUpward root names workspace).2 = .error fault) :
    ∃ reported, fault = .system reported := by
  induction names with
  | nil => exact ensureDirectory_fault nullFree failed
  | cons name above inductionHypothesis =>
      rw [List.reverse_cons] at nullFree
      have aboveNullFree := nullFree.of_prefix (List.prefix_append above.reverse [name])
      rcases ensureDirectoriesUpward_cons host root name above workspace with
        result | ⟨grown, upperFault, upper, result⟩ | ⟨grown, _, result⟩
      · rw [result] at failed
        exact ensureDirectory_fault nullFree failed
      · rw [upper] at inductionHypothesis
        rw [result] at failed
        exact inductionHypothesis aboveNullFree failed
      · rw [result] at failed
        exact ensureDirectory_fault nullFree failed

theorem ensureDirectories_fault
    {host : Host}
    {workspace : Workspace}
    {path : Path}
    (nullFree : NullFree path)
    {fault : AccessFault}
    (failed : (host.ensureDirectories workspace path).2 = .error fault) :
    ∃ reported, fault = .system reported :=
  ensureDirectoriesUpward_fault (by rwa [List.reverse_reverse]) failed

/-- The system reports why a file is not written. -/
theorem write_fault
    {host : Host}
    {workspace : Workspace}
    {path : Path}
    (nullFree : NullFree path)
    {content : Text}
    {fault : AccessFault}
    (failed : (host.write workspace path content).2 = .error fault) :
    ∃ reported, fault = .system reported := by
  have filling :
      ∀ location,
        (host.fillFile workspace location content).2 = .error fault →
        ∃ reported, fault = .system reported := by
    intro location failed
    rcases fillFile_cases host workspace location content with
      ⟨_, result⟩ | ⟨_, _, _, result⟩ | result
    all_goals
      rw [result] at failed
      cases failed
    · exact ⟨_, rfl⟩
    · exact ⟨_, rfl⟩
  unfold Host.write at failed
  split at failed
  case h_1 located =>
    cases failed
    exact locate_fault_of_host nullFree located
  case h_2 location _ _ => exact filling location failed
  case h_3 =>
    cases failed
    exact ⟨_, rfl⟩
  case h_4 parent name _ => exact filling (parent ++ [name]) failed

/--
The only faults of a lookup that do not count as absence are a name that is too long and
those of devices.
-/
theorem find?_fault
    {host : Host}
    {workspace : Workspace}
    {path : Path}
    {reason : FileFault}
    (failed : host.find? workspace path = .error reason) :
    reason = .nameTooLong ∨ ∃ fault, reason = .device fault := by
  unfold Host.find? at failed
  split at failed
  case h_1 => cases failed
  case h_2 => cases failed
  case h_4 => cases failed
  case h_3 fault located =>
    split at failed
    case isTrue => cases failed
    case isFalse present =>
      cases failed
      rcases locate_cases host workspace true path with ⟨device, refused⟩ | same
      · rw [refused] at located
        cases located
        exact .inr ⟨device, rfl⟩
      · rw [same] at located
        refine .inl ?_
        unfold locate FileTree.locate at located
        split at located
        case isTrue => cases located
        case isFalse =>
          split at located
          case isTrue =>
            cases located
            rfl
          case isFalse =>
            split at located
            case h_1 => cases located
            case h_2 walked =>
              cases located
              exact (FileTree.walk_fault walked).resolve_left present

end ModSkeleton.Workspace
