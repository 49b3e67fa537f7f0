import ModSkeleton.Generate
import ModSkeleton.Proofs.Path.Components
import ModSkeleton.Proofs.Workspace.Writing

namespace ModSkeleton

open FileTree Workspace

/-!
# Writing the files of a project

The files of a project are written one after another, up to the first failure.
`writtenFiles` says which of them were written, and `WroteBelow` says what that
did to the workspace: the written files hold their contents, and everything else
is as it was, except for directories that lead to a file that was attempted.
-/

/-- The names of a directory on the way to a file, seen from the same base as the file. -/
structure IsFolderOf
    (upper names : List Text) :
    Prop where
  notBase : upper ≠ []
  above : upper <+: names
  proper : upper ≠ names

/-- What stands below the parent of a file, up to the parent, is a folder of the file. -/
theorem IsFolderOf.of_prefix_dropLast
    {upper names : List Text}
    (notBase : upper ≠ [])
    (above : upper <+: names.dropLast) :
    IsFolderOf upper names where
  notBase := notBase
  above := above.trans (List.dropLast_prefix names)
  proper := by
    rintro rfl
    have shorter := above.length_le
    have positive := List.length_pos_iff.mpr notBase
    rw [List.length_dropLast] at shorter
    omega

/-- A root path leads to a base directory, and no link stands from there on. -/
structure Workspace.RootedAt
    (workspace : Workspace)
    (root : Path)
    (base : Location) :
    Prop where
  leads : workspace.LeadsTo root base
  linkFree : workspace.tree.LinkFreeFrom base

/-- Names below the root of a project lead to the same names below its base. -/
theorem Workspace.RootedAt.location
    {workspace : Workspace}
    {root : Path}
    {base : Location}
    (rooted : workspace.RootedAt root base)
    {names : List Text}
    (areNames : AreNames names)
    (notBase : names ≠ [])
    {followLast : Bool}
    {place : Place}
    (located : workspace.locate followLast (root.append names) = .ok place) :
    place.location = base ++ names := by
  obtain ⟨left, walks⟩ := rooted.leads.walks_onward notBase located
  exact walks.location_of_linkFreeFrom rooted.linkFree areNames

/-- The directories that are made for a file of a project stand on the way to it. -/
theorem addsDirectories_below_root
    {before after : Workspace}
    {root : Path}
    {base : Location}
    (rooted : before.RootedAt root base)
    {names : List Text}
    (areNames : AreNames names)
    (made : MadeAlong (root.append names) before after) :
    AddsDirectories
      (fun location => ∃ upper, upper ≠ [] ∧ upper <+: names ∧ location = base ++ upper)
      before.tree after.tree := by
  have rootedAfter : after.RootedAt root base :=
    ⟨rooted.leads.grow made.adds.growsTo made.directory,
      rooted.linkFree.addsDirectories made.adds⟩
  intro location
  rcases made.adds location with same | ⟨absent, added, upper, beginning, leads⟩
  · exact .inl same
  · refine .inr ⟨absent, added, ?_⟩
    have onRoot : root.parts <+: root.parts ++ names := List.prefix_append _ _
    rcases List.prefix_or_prefix_of_prefix beginning onRoot with short | long
    -- What leads to the root was there before, so nothing was added on the way.
    · exfalso
      obtain ⟨middle, walks⟩ := rooted.leads.walks_beginning short
      have here := (locate_eq_ok_iff.mp leads).2
      rw [made.directory] at here
      have same := here.unique (walks.grow_directory made.adds.growsTo)
      cases same
      rw [walks.get?_of_present] at absent
      cases absent
    · obtain ⟨more, shape⟩ := long
      have moreBeginning : more <+: names := by
        rw [← shape] at beginning
        exact (List.prefix_append_right_inj root.parts).mp beginning
      have moreNames : AreNames more :=
        fun name member => areNames name (moreBeginning.subset member)
      by_cases further : more = []
      · subst further
        rw [List.append_nil] at shape
        subst shape
        have same := leads.unique rootedAfter.leads
        rw [same, rooted.leads.get?] at absent
        cases absent
      · subst shape
        exact ⟨more, further, moreBeginning,
          rootedAfter.location moreNames further leads⟩

/--
Between two workspaces, some files of a project were written below a base and
others attempted: only the written files and new folders of attempted files differ.
-/
structure WroteBelow
    (base : Location)
    (written attempted : List Project.File)
    (before after : Workspace) :
    Prop where
  directory : after.directory = before.directory
  wellFormed : before.tree.WellFormed → after.tree.WellFormed
  grows : GrowsTo before.tree after.tree
  holds :
    ∀ file ∈ written,
      after.tree.get? (base ++ file.names) = some (.file (Text.encode file.content))
  elsewhere :
    ∀ location,
      (∀ file ∈ written, location ≠ base ++ file.names) →
      after.tree.get? location = before.tree.get? location ∨
        before.tree.get? location = none ∧
          after.tree.get? location = some .directory ∧
            ∃ file ∈ attempted, ∃ upper,
              IsFolderOf upper file.names ∧ location = base ++ upper

namespace WroteBelow

theorem refl
    (base : Location)
    (workspace : Workspace) :
    WroteBelow base [] [] workspace workspace where
  directory := rfl
  wellFormed wellFormed := wellFormed
  grows := .refl _
  holds file member := by cases member
  elsewhere _ _ := .inl rfl

/-- Nothing was written before the first attempt, and nothing is lost by the attempt. -/
theorem attempt
    {base : Location}
    {written attempted larger : List Project.File}
    {before after : Workspace}
    (wrote : WroteBelow base written attempted before after)
    (subset : attempted ⊆ larger) :
    WroteBelow base written larger before after where
  directory := wrote.directory
  wellFormed := wrote.wellFormed
  grows := wrote.grows
  holds := wrote.holds
  elsewhere location different := by
    rcases wrote.elsewhere location different with same | ⟨absent, added, file, member, rest⟩
    · exact .inl same
    · exact .inr ⟨absent, added, file, subset member, rest⟩

/-- Files are written in two turns, none of them twice. -/
theorem trans
    {base : Location}
    {firstWritten firstAttempted secondWritten secondAttempted : List Project.File}
    {first second third : Workspace}
    (before : WroteBelow base firstWritten firstAttempted first second)
    (after : WroteBelow base secondWritten secondAttempted second third)
    (disjoint :
      ∀ file ∈ firstWritten, ∀ other ∈ secondWritten, file.names ≠ other.names) :
    WroteBelow base (firstWritten ++ secondWritten) (firstAttempted ++ secondAttempted)
      first third where
  directory := after.directory.trans before.directory
  wellFormed wellFormed := after.wellFormed (before.wellFormed wellFormed)
  grows := before.grows.trans after.grows
  holds file member := by
    rcases List.mem_append.mp member with early | late
    · have stood := before.holds file early
      have different :
          ∀ other ∈ secondWritten, base ++ file.names ≠ base ++ other.names :=
        fun other otherMember same =>
          disjoint file early other otherMember (List.append_cancel_left same)
      rcases after.elsewhere (base ++ file.names) different with same | ⟨absent, _, _⟩
      · rw [same, stood]
      · rw [absent] at stood
        cases stood
    · exact after.holds file late
  elsewhere location different := by
    have early := before.elsewhere location
      (fun file member => different file (List.mem_append_left _ member))
    have late := after.elsewhere location
      (fun file member => different file (List.mem_append_right _ member))
    rcases late with same | ⟨absent, added, file, member, rest⟩
    · rcases early with unchanged | ⟨absent, added, file, member, rest⟩
      · exact .inl (same.trans unchanged)
      · exact .inr ⟨absent, same.trans added, file, List.mem_append_left _ member, rest⟩
    · rcases early with unchanged | ⟨_, present, _⟩
      · exact .inr
          ⟨unchanged ▸ absent, added, file, List.mem_append_right _ member, rest⟩
      · rw [absent] at present
        cases present

theorem rootedAt
    {base : Location}
    {written attempted : List Project.File}
    {before after : Workspace}
    (wrote : WroteBelow base written attempted before after)
    {root : Path}
    (rooted : before.RootedAt root base) :
    after.RootedAt root base where
  leads := rooted.leads.grow wrote.grows wrote.directory
  linkFree := by
    intro below target found
    by_cases isWritten : ∃ file ∈ written, base ++ below = base ++ file.names
    · obtain ⟨file, member, same⟩ := isWritten
      rw [same, wrote.holds file member] at found
      cases found
    · have different : ∀ file ∈ written, base ++ below ≠ base ++ file.names :=
        fun file member same => isWritten ⟨file, member, same⟩
      rcases wrote.elsewhere (base ++ below) different with same | ⟨_, added, _⟩
      · rw [same] at found
        exact rooted.linkFree below target found
      · rw [added] at found
        cases found

theorem of_madeAlong
    {before after : Workspace}
    {root : Path}
    {base : Location}
    (rooted : before.RootedAt root base)
    {file : Project.File}
    (areNames : AreNames file.names)
    (made : MadeAlong (root.append file.names.dropLast) before after) :
    WroteBelow base [] [file] before after where
  directory := made.directory
  wellFormed := made.wellFormed
  grows := made.adds.growsTo
  holds _ member := by cases member
  elsewhere location _ := by
    have parentNames : AreNames file.names.dropLast :=
      fun name member => areNames name (List.dropLast_subset file.names member)
    rcases addsDirectories_below_root rooted parentNames made location with
      same | ⟨absent, added, upper, notBase, above, shape⟩
    · exact .inl same
    · exact .inr ⟨absent, added, file, List.mem_singleton_self file, upper,
        .of_prefix_dropLast notBase above, shape⟩

theorem of_write
    {before after : Workspace}
    {root : Path}
    {base : Location}
    (rooted : before.RootedAt root base)
    {file : Project.File}
    (areNames : AreNames file.names)
    (notBase : file.names ≠ [])
    (wrote :
      Host.faultless.write before (root.append file.names) file.content = (after, .ok ())) :
    WroteBelow base [file] [] before after := by
  obtain ⟨place, located, writable, rfl⟩ := write_eq_ok wrote
  have shape : place.location = base ++ file.names := rooted.location areNames notBase located
  refine
    { directory := rfl
      wellFormed := fun wellFormed =>
        wellFormed_put_of_writable wellFormed located writable _
      grows := growsTo_put_of_writable located writable _
      holds := ?_
      elsewhere := ?_ }
  · intro other member
    obtain rfl : other = file := List.mem_singleton.mp member
    rw [← shape]
    exact get?_put_of_writable located writable _
  · intro location different
    have notHere := different file (List.mem_singleton_self file)
    rw [← shape] at notHere
    exact .inl (get?_insert_of_ne before.tree notHere _)

end WroteBelow

/-- The files that are written when files are written below a root in order. -/
def Host.writtenFiles
    (host : Host)
    (root : Path) :
    List Project.File → Workspace → List Project.File
  | [], _ => []
  | file :: files, workspace =>
      match host.writeProjectFile root file workspace with
      | (_, .error _) => []
      | (written, .ok _) => file :: writtenFiles host root files written

/-- A file whose names lead from any directory to an entry below it. -/
structure Project.File.IsProper
    (file : Project.File) :
    Prop where
  areComponents : ∀ name ∈ file.names, Path.IsComponent name
  notRoot : file.names ≠ []

namespace Project.File.IsProper

theorem areNames
    {file : Project.File}
    (proper : file.IsProper) :
    AreNames file.names :=
  fun name member =>
    ⟨(proper.areComponents name member).notParent,
      (proper.areComponents name member).notCurrent⟩

theorem nullFree
    {file : Project.File}
    (proper : file.IsProper) :
    ∀ name ∈ file.names, '\x00' ∉ name :=
  fun name member => (proper.areComponents name member).noNull

end Project.File.IsProper

theorem parent_append
    (root : Path)
    {names : List Text}
    (notRoot : names ≠ []) :
    (root.append names).parent = root.append names.dropLast := by
  simp [Path.append, Path.parent, List.dropLast_append_of_ne_nil notRoot]

/--
Writing one file has no room to begin, fails while making its folders, fails after that, or
succeeds.
-/
theorem writeProjectFile_cases
    (host : Host)
    (root : Path)
    {file : Project.File}
    (notRoot : file.names ≠ [])
    (workspace : Workspace) :
    (host.exhaustedBy workspace (root.append file.names.dropLast) = true ∧
        host.writeProjectFile root file workspace = (workspace, .error .stackExhausted)) ∨
      (∃ grown fault,
        host.ensureDirectories workspace (root.append file.names.dropLast) =
            (grown, .error fault) ∧
          host.writeProjectFile root file workspace =
            (grown, .error (.ofFault (root.append file.names) fault))) ∨
        (∃ grown left fault,
          host.ensureDirectories workspace (root.append file.names.dropLast) =
              (grown, .ok ()) ∧
            host.write grown (root.append file.names) file.content = (left, .error fault) ∧
              host.writeProjectFile root file workspace =
                (left, .error (.ofFault (root.append file.names) fault))) ∨
          ∃ grown written,
            host.ensureDirectories workspace (root.append file.names.dropLast) =
                (grown, .ok ()) ∧
              host.write grown (root.append file.names) file.content = (written, .ok ()) ∧
                host.writeProjectFile root file workspace =
                  (written, .ok (root.append file.names)) := by
  simp only [Host.writeProjectFile, parent_append root notRoot]
  cases exhausted : host.exhaustedBy workspace (root.append file.names.dropLast) with
  | true => exact .inl ⟨rfl, if_pos rfl⟩
  | false =>
      refine .inr ?_
      rw [if_neg (by simp)]
      cases ensured : host.ensureDirectories workspace (root.append file.names.dropLast) with
      | mk grown outcome =>
          cases outcome with
          | error fault => exact .inl ⟨grown, fault, rfl, rfl⟩
          | ok value =>
              refine .inr ?_
              cases wrote : host.write grown (root.append file.names) file.content with
              | mk left ended =>
                  cases ended with
                  | error fault =>
                      exact .inl ⟨grown, left, fault, rfl, wrote, by simp only [wrote]⟩
                  | ok value =>
                      exact .inr ⟨grown, left, rfl, wrote, by simp only [wrote]⟩

/-- Without faults of devices, writing one file writes it, or attempts it in vain. -/
theorem wroteBelow_writeProjectFile
    {workspace : Workspace}
    {root : Path}
    {base : Location}
    (rooted : workspace.RootedAt root base)
    {file : Project.File}
    (proper : file.IsProper) :
    (∃ left,
      Host.faultless.writeProjectFile root file workspace =
          (left, .ok (root.append file.names)) ∧
        WroteBelow base [file] [file] workspace left) ∨
      ∃ left error,
        Host.faultless.writeProjectFile root file workspace = (left, .error error) ∧
          WroteBelow base [] [file] workspace left := by
  have made :=
    madeAlong_ensureDirectories Host.faultless workspace (root.append file.names.dropLast)
  have attempted := WroteBelow.of_madeAlong rooted proper.areNames made
  rcases writeProjectFile_cases Host.faultless root proper.notRoot workspace with
    ⟨exhausted, _⟩ | ⟨grown, fault, ensured, result⟩ |
      ⟨grown, left, fault, ensured, failed, result⟩ | ⟨grown, written, ensured, wrote, result⟩
  · cases exhausted
  · rw [ensured] at attempted
    exact .inr ⟨grown, _, result, attempted⟩
  · obtain rfl := write_eq_error failed
    rw [ensured] at attempted
    exact .inr ⟨left, _, result, attempted⟩
  · rw [ensured] at attempted
    have writes := WroteBelow.of_write (attempted.rootedAt rooted)
      proper.areNames proper.notRoot wrote
    exact .inl ⟨written, result, attempted.trans writes (by simp)⟩

/-- Files with proper names of which none stands in the way of another. -/
structure ProperFiles
    (files : List Project.File) :
    Prop where
  proper : ∀ file ∈ files, file.IsProper
  apart : files.Pairwise fun file other => Path.Unrelated file.names other.names

theorem writeProjectFiles_of_ok
    {host : Host}
    {root path : Path}
    {file : Project.File}
    {workspace left : Workspace}
    (result : host.writeProjectFile root file workspace = (left, .ok path))
    (files : List Project.File) :
    host.writeProjectFiles root (file :: files) workspace =
        ((host.writeProjectFiles root files left).1,
          (host.writeProjectFiles root files left).2.map (path :: ·)) ∧
      host.writtenFiles root (file :: files) workspace =
        file :: host.writtenFiles root files left := by
  rw [Host.writeProjectFiles, Host.writtenFiles, result]
  refine ⟨?_, rfl⟩
  simp only
  cases host.writeProjectFiles root files left with
  | mk last outcome =>
      cases outcome with
      | error error => rfl
      | ok paths => rfl

theorem writeProjectFiles_of_error
    {host : Host}
    {root : Path}
    {file : Project.File}
    {workspace left : Workspace}
    {error : GenerateError}
    (result : host.writeProjectFile root file workspace = (left, .error error))
    (files : List Project.File) :
    host.writeProjectFiles root (file :: files) workspace = (left, .error error) ∧
      host.writtenFiles root (file :: files) workspace = [] := by
  rw [Host.writeProjectFiles, Host.writtenFiles, result]
  exact ⟨rfl, rfl⟩

/-- Written files come first among the files. -/
theorem writtenFiles_come_first
    (host : Host)
    (root : Path)
    (files : List Project.File)
    (workspace : Workspace) :
    host.writtenFiles root files workspace <+: files := by
  induction files generalizing workspace with
  | nil => exact List.prefix_rfl
  | cons file files inductionHypothesis =>
      rw [Host.writtenFiles]
      split
      · exact List.nil_prefix
      · exact List.cons_prefix_cons.mpr ⟨rfl, inductionHypothesis _⟩

/--
Writing files in order writes the first of them, attempts one more at most, and
changes nothing but the written files and folders of attempted ones.
-/
theorem wroteBelow_writeProjectFiles
    {workspace : Workspace}
    {root : Path}
    {base : Location}
    (rooted : workspace.RootedAt root base)
    {files : List Project.File}
    (properFiles : ProperFiles files) :
    WroteBelow base (Host.faultless.writtenFiles root files workspace)
      (files.take ((Host.faultless.writtenFiles root files workspace).length + 1))
      workspace (Host.faultless.writeProjectFiles root files workspace).1 := by
  induction files generalizing workspace with
  | nil => exact .refl base workspace
  | cons file files inductionHypothesis =>
      have proper := properFiles.proper file List.mem_cons_self
      obtain ⟨apart, restApart⟩ := List.pairwise_cons.mp properFiles.apart
      have properRest : ProperFiles files :=
        ⟨fun other member => properFiles.proper other (List.mem_cons_of_mem _ member),
          restApart⟩
      rcases wroteBelow_writeProjectFile rooted proper with
        ⟨left, result, wrote⟩ | ⟨left, error, result, attempted⟩
      · have rest := inductionHypothesis (wrote.rootedAt rooted) properRest
        have both := wrote.trans rest (by
          intro first firstMember other otherMember same
          obtain rfl : first = file := List.mem_singleton.mp firstMember
          have member := (writtenFiles_come_first Host.faultless root files left).subset otherMember
          exact (apart other member).1 (same ▸ List.prefix_rfl))
        obtain ⟨onward, writes⟩ := writeProjectFiles_of_ok result files
        rw [onward, writes]
        exact both
      · obtain ⟨stops, writes⟩ := writeProjectFiles_of_error result files
        rw [stops, writes]
        exact attempted

/--
Why a file is not written: a fault that the system reports at its path, or more directories
that lead to it than there is room for.
-/
def Host.FailsAt
    (host : Host)
    (path : Path)
    (error : GenerateError) :
    Prop :=
  (∃ fault : FileFault, error = .project (.fileSystem path fault.message)) ∨
    error = .stackExhausted ∧
      ∃ room, host.stack.making = some room ∧ room < path.parts.length

theorem writeProjectFile_fault
    {host : Host}
    {root : Path}
    (nullFree : NullFree root)
    {file : Project.File}
    (proper : file.IsProper)
    {workspace left : Workspace}
    {error : GenerateError}
    (failed : host.writeProjectFile root file workspace = (left, .error error)) :
    host.FailsAt (root.append file.names) error := by
  have fileNullFree : NullFree (root.append file.names) := nullFree.append proper.nullFree
  have folderNullFree : NullFree (root.append file.names.dropLast) :=
    nullFree.append
      (fun name member => proper.nullFree name (List.dropLast_subset file.names member))
  rcases writeProjectFile_cases host root proper.notRoot workspace with
    ⟨exhausted, result⟩ | ⟨grown, fault, ensured, result⟩ |
      ⟨grown, _, fault, _, wrote, result⟩ | ⟨grown, written, _, _, result⟩
  all_goals
    rw [result] at failed
    cases failed
  · obtain ⟨room, limit, short⟩ := room_of_exhaustedBy exhausted
    refine .inr ⟨rfl, room, limit, Nat.lt_of_lt_of_le short ?_⟩
    simp [Path.parts_append]
  · obtain ⟨reported, rfl⟩ := ensureDirectories_fault folderNullFree (by rw [ensured])
    exact .inl ⟨reported, rfl⟩
  · obtain ⟨reported, rfl⟩ := write_fault fileNullFree (by rw [wrote])
    exact .inl ⟨reported, rfl⟩

theorem path_of_writeProjectFile
    {host : Host}
    {root path : Path}
    {file : Project.File}
    (notRoot : file.names ≠ [])
    {workspace left : Workspace}
    (succeeded : host.writeProjectFile root file workspace = (left, .ok path)) :
    path = root.append file.names := by
  rcases writeProjectFile_cases host root notRoot workspace with
    ⟨_, result⟩ | ⟨_, _, _, result⟩ | ⟨_, _, _, _, _, result⟩ | ⟨_, _, _, _, result⟩
  all_goals
    rw [succeeded] at result
    cases result
  rfl

/-- Writing files succeeds when all are written, and then returns their paths in order. -/
theorem writeProjectFiles_of_outcome_ok
    {host : Host}
    {root : Path}
    {files : List Project.File}
    (properFiles : ∀ file ∈ files, file.IsProper)
    {workspace : Workspace}
    {paths : List Path}
    (succeeded : (host.writeProjectFiles root files workspace).2 = .ok paths) :
    host.writtenFiles root files workspace = files ∧
      paths = files.map fun file => root.append file.names := by
  induction files generalizing workspace paths with
  | nil =>
      cases succeeded
      exact ⟨rfl, rfl⟩
  | cons file files inductionHypothesis =>
      have proper := properFiles file List.mem_cons_self
      cases result : host.writeProjectFile root file workspace with
      | mk left outcome =>
          cases outcome with
          | error error =>
              rw [(writeProjectFiles_of_error result files).1] at succeeded
              cases succeeded
          | ok path =>
              obtain ⟨onward, writes⟩ := writeProjectFiles_of_ok result files
              rw [onward] at succeeded
              rw [writes]
              cases later : (host.writeProjectFiles root files left).2 with
              | error error =>
                  rw [later] at succeeded
                  cases succeeded
              | ok others =>
                  rw [later] at succeeded
                  cases succeeded
                  obtain ⟨allWritten, rfl⟩ :=
                    inductionHypothesis
                      (fun other member => properFiles other (List.mem_cons_of_mem _ member))
                      later
                  have samePath := path_of_writeProjectFile proper.notRoot result
                  rw [allWritten, samePath]
                  exact ⟨rfl, rfl⟩

/-- Writing files fails at the first file that is not written. -/
theorem writeProjectFiles_of_outcome_error
    {host : Host}
    {root : Path}
    (nullFree : NullFree root)
    {files : List Project.File}
    (properFiles : ∀ file ∈ files, file.IsProper)
    {workspace : Workspace}
    {error : GenerateError}
    (failed : (host.writeProjectFiles root files workspace).2 = .error error) :
    ∃ file later,
      files = host.writtenFiles root files workspace ++ file :: later ∧
        host.FailsAt (root.append file.names) error := by
  induction files generalizing workspace with
  | nil => cases failed
  | cons file files inductionHypothesis =>
      have proper := properFiles file List.mem_cons_self
      cases result : host.writeProjectFile root file workspace with
      | mk left outcome =>
          cases outcome with
          | error reason =>
              obtain ⟨stops, writes⟩ := writeProjectFiles_of_error result files
              rw [stops] at failed
              cases failed
              rw [writes]
              exact ⟨file, files, rfl, writeProjectFile_fault nullFree proper result⟩
          | ok path =>
              obtain ⟨onward, writes⟩ := writeProjectFiles_of_ok result files
              rw [onward] at failed
              rw [writes]
              cases later : (host.writeProjectFiles root files left).2 with
              | ok others =>
                  rw [later] at failed
                  cases failed
              | error reason =>
                  rw [later] at failed
                  cases failed
                  obtain ⟨other, rest, shape, reported⟩ :=
                    inductionHypothesis
                      (fun other member => properFiles other (List.mem_cons_of_mem _ member))
                      later
                  exact ⟨other, rest, by rw [List.cons_append, ← shape], reported⟩

end ModSkeleton
