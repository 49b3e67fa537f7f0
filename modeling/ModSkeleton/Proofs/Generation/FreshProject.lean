import ModSkeleton.Proofs.Generation.Target

namespace ModSkeleton

open FileTree Workspace

/-!
# Generating a fresh project

Without force, a generation that succeeds leaves below the root of the project
exactly the rendered files and the directories that lead to them. Elsewhere it
has made the missing directories of the target path and done nothing else.
-/

/-- What stands below the root of a project: its files, and directories above them. -/
def Project.entryAt?
    (files : List Project.File)
    (below : List Text) :
    Option Entry :=
  match files.find? fun file => file.names == below with
  | some file => some (.file (Text.encode file.content))
  | none =>
      if files.any fun file => below.isPrefixOf file.names then some .directory else none

/-- Files written below a bare base are all that stands there, with their directories. -/
theorem WroteBelow.get?_below
    {base : Location}
    {files attempted : List Project.File}
    {before after : Workspace}
    (wrote : WroteBelow base files attempted before after)
    (subset : attempted ⊆ files)
    (bare : before.tree.IsBare base)
    (wellFormed : after.tree.WellFormed)
    {below : List Text}
    (further : below ≠ []) :
    after.tree.get? (base ++ below) = Project.entryAt? files below := by
  unfold Project.entryAt?
  cases found : files.find? fun file => file.names == below with
  | some file =>
      have member := List.mem_of_find?_eq_some found
      have sameNames : file.names = below := by simpa using List.find?_some found
      rw [← sameNames]
      exact wrote.holds file member
  | none =>
      have notFile : ∀ file ∈ files, file.names ≠ below := by
        intro file member
        simpa using List.find?_eq_none.mp found file member
      have elsewhere := wrote.elsewhere (base ++ below)
        (fun file member same => notFile file member (List.append_cancel_left same).symm)
      simp only
      split
      -- An ancestor of a file is a directory, since every entry stands in one.
      case isTrue isAbove =>
        obtain ⟨file, member, beginning⟩ := List.any_eq_true.mp isAbove
        obtain ⟨more, shape⟩ := List.isPrefixOf_iff_prefix.mp beginning
        have notLast : more ≠ [] := by
          rintro rfl
          exact notFile file member (by rw [← shape, List.append_nil])
        have holds := wrote.holds file member
        rw [← shape, ← List.append_assoc] at holds
        exact wellFormed.directory_above notLast holds
      case isFalse notAbove =>
        rcases elsewhere with same | ⟨_, _, file, member, upper, folder, shape⟩
        · rw [same, bare below further]
        · have sameUpper : below = upper := List.append_cancel_left shape
          have isAbove : (files.any fun file => below.isPrefixOf file.names) = true := by
            rw [sameUpper]
            exact List.any_eq_true.mpr
              ⟨file, subset member, List.isPrefixOf_iff_prefix.mpr folder.above⟩
          exact (notAbove isAbove).elim

/-- Writing all files needs the root to be made. -/
theorem root_made_of_writeProjectFiles_ok
    {files : List Project.File}
    (projectFiles : ProjectFiles files)
    {root : Path}
    {workspace : Workspace}
    {paths : List Path}
    (succeeded : (Host.faultless.writeProjectFiles root files workspace).2 = .ok paths) :
    ∃ grown, Host.faultless.ensureDirectories workspace root = (grown, .ok ()) := by
  cases made : Host.faultless.ensureDirectories workspace root with
  | mk grown outcome =>
      cases outcome with
      | ok value => exact ⟨grown, rfl⟩
      | error fault =>
          obtain ⟨_, ⟨error, failed⟩, _⟩ := writeProjectFiles_of_root_failed projectFiles made
          rw [failed] at succeeded
          cases succeeded

/--
A project stands at the root that a path leads to: below its base there are
exactly its files and the directories above them, and elsewhere nothing has
changed, except that directories were made where the path leads through.
-/
structure StandsFresh
    (root : Path)
    (files : List Project.File)
    (base : Location)
    (before after : Workspace) :
    Prop where
  directory : after.directory = before.directory
  leads : after.LeadsTo root base
  inside :
    ∀ below, below ≠ [] →
      after.tree.get? (base ++ below) = Project.entryAt? files below
  outside :
    ∀ location, (∀ below, below ≠ [] → location ≠ base ++ below) →
      after.tree.get? location = before.tree.get? location ∨
        before.tree.get? location = none ∧
          after.tree.get? location = some .directory ∧ after.IsAlong root location

/-- Files that are all written below a bare base stand there as a fresh project. -/
theorem standsFresh_of_wroteBelow
    {root : Path}
    {before grown after : Workspace}
    (wellFormed : before.tree.WellFormed)
    (madeAlong : MadeAlong root before grown)
    {base : Location}
    (leads : grown.LeadsTo root base)
    (bare : grown.tree.IsBare base)
    {files attempted : List Project.File}
    (proper : ∀ file ∈ files, file.IsProper)
    (subset : attempted ⊆ files)
    (wrote : WroteBelow base files attempted grown after) :
    StandsFresh root files base before after where
  directory := wrote.directory.trans madeAlong.directory
  leads := leads.grow wrote.grows wrote.directory
  inside below further :=
    wrote.get?_below subset bare (wrote.wellFormed (madeAlong.wellFormed wellFormed)) further
  outside location outside := by
    have notFile : ∀ file ∈ files, location ≠ base ++ file.names :=
      fun file member => outside file.names (proper file member).notRoot
    have unchanged : after.tree.get? location = grown.tree.get? location := by
      rcases wrote.elsewhere location notFile with same | ⟨_, _, _, _, upper, folder, shape⟩
      · exact same
      · exact (outside upper folder.notBase shape).elim
    rcases madeAlong.adds location with same | ⟨absent, added, upper, beginning, leadsUpper⟩
    · exact .inl (unchanged.trans same)
    · exact .inr ⟨absent, unchanged.trans added, upper, beginning,
        leadsUpper.grow wrote.grows wrote.directory⟩

/--
A generation without force that succeeds returns the paths of the seven rendered
files in order, and the project stands fresh at its root.
-/
theorem generate_fresh
    {fields : Request.Fields}
    {request : Request}
    (accepted : Request.ofFields fields = .ok request)
    (noParent : Path.parentName ∉ request.targetPath.parts)
    (toolchain : Toolchain)
    {before : Workspace}
    (wellFormed : before.tree.WellFormed)
    {paths : List Path}
    (succeeded :
      (generate before request.brief toolchain.settings false none).outcome = .ok paths) :
    ∃ files,
      Project.render request.brief toolchain.settings = .ok files ∧
        files.length = 7 ∧
          paths = files.map (fun file => request.targetPath.append file.names) ∧
            ∃ base,
              StandsFresh request.targetPath files base before
                (generate before request.brief toolchain.settings false none).workspace := by
  have projectFiles := projectFiles_filesOf (Request.named_of_ofFields accepted) toolchain
  have areNames := Request.areNames_of_ofFields accepted noParent
  rw [generate_eq] at succeeded ⊢
  have passed : Host.faultless.checkTarget before request.targetPath false = .ok () := by
    cases checked : Host.faultless.checkTarget before request.targetPath false with
    | ok value => rfl
    | error error =>
        rw [emit_of_target_refused checked] at succeeded
        cases succeeded
  rw [emit_of_target_accepted passed] at succeeded ⊢
  obtain ⟨grown, made⟩ := root_made_of_writeProjectFiles_ok projectFiles succeeded
  obtain ⟨sameRun, sameWritten⟩ := writeProjectFiles_of_root_made projectFiles made
  obtain ⟨allWritten, pathsShape⟩ :=
    writeProjectFiles_of_outcome_ok projectFiles.proper succeeded
  obtain ⟨base, leads, _, bare⟩ := bare_of_root_made wellFormed areNames passed made
  have madeAlong := madeAlong_ensureDirectories Host.faultless before request.targetPath
  rw [made] at madeAlong
  have rooted : grown.RootedAt request.targetPath base :=
    ⟨leads, bare.linkFreeFrom leads.get?⟩
  have wrote := wroteBelow_writeProjectFiles rooted projectFiles.toProperFiles
  rw [← sameRun, ← sameWritten, allWritten] at wrote
  exact
    ⟨_, Project.render_eq request toolchain, Project.length_filesOf request toolchain,
      pathsShape, base,
      standsFresh_of_wroteBelow wellFormed madeAlong leads bare projectFiles.proper
        (List.take_subset _ _) wrote⟩

/-- A workspace in which a link stands on the way to the target. -/
def linkedWorkspace : Workspace where
  tree :=
    (FileTree.empty.insert ["real".toList] .directory).insert ["way".toList]
      (.link "real".toList)
  directory := []

/-- A project that is generated through a link stands fresh at its root. -/
theorem generate_fresh_through_link :
    linkedWorkspace.tree.WellFormed ∧
      ∃ paths,
        (generate linkedWorkspace sampleRequest.brief Toolchain.default.settings false
            none).outcome = .ok paths ∧
          ∃ files base,
            Project.render sampleRequest.brief Toolchain.default.settings = .ok files ∧
              paths = files.map (fun file => sampleRequest.targetPath.append file.names) ∧
                StandsFresh sampleRequest.targetPath files base linkedWorkspace
                  (generate linkedWorkspace sampleRequest.brief Toolchain.default.settings
                    false none).workspace := by
  have wellFormed : linkedWorkspace.tree.WellFormed :=
    wellFormed_of_entries (by decide)
  have isOk :
      (generate linkedWorkspace sampleRequest.brief Toolchain.default.settings false
        none).outcome.isOk = true := by
    rw [generate_eq,
      Project.filesOf_eq_zipWith _ _ (Request.named_of_ofFields ofFields_sampleFields)]
    decide +kernel
  cases outcome :
      (generate linkedWorkspace sampleRequest.brief Toolchain.default.settings false
        none).outcome with
  | error error =>
      rw [outcome] at isOk
      cases isOk
  | ok paths =>
      obtain ⟨files, rendered, _, shape, base, stands⟩ :=
        generate_fresh ofFields_sampleFields (by decide) Toolchain.default wellFormed
          outcome
      exact ⟨wellFormed, paths, rfl, files, base, rendered, shape, stands⟩

end ModSkeleton
