import ModSkeleton.Proofs.Generation.Target

namespace ModSkeleton

open FileTree Workspace

/-!
# Overwriting without force

Without force the target is looked up before anything is written, and found to be
missing or empty. The lookup fails when a directory on its way is missing, even
if the path goes up again from there. Making the directories of the path then
lets it lead to a directory with content, and files in it are overwritten.

A file is overwritten exactly then: when the target was not found, and a file of
the project is written in its place with another content. Along a path that does
not go up this never happens.
-/

/-- Without links, a file changes exactly when another content is written in its place. -/
theorem writeProjectFiles_changes_iff
    {files : List Project.File}
    (projectFiles : ProjectFiles files)
    {workspace : Workspace}
    (linkFree : workspace.tree.LinkFree)
    {root : Path}
    (noStay : Path.currentName ∉ root.parts)
    {location : Location}
    {old : Text.Bytes}
    (stood : workspace.tree.get? location = some (.file old)) :
    (Host.faultless.writeProjectFiles root files workspace).1.tree.get? location ≠
        some (.file old) ↔
      ∃ file ∈ Host.faultless.writtenFiles root files workspace,
        location = workspace.canonical root ++ file.names ∧
          old ≠ Text.encode file.content := by
  obtain ⟨madeAlong, ⟨_, none, left⟩ | ⟨_, wrote⟩⟩ :=
    writeProjectFiles_of_linkFree projectFiles linkFree noStay
  · have kept := madeAlong.adds.get?_of_some stood
    rw [none, left, kept]
    simp
  · have keptBefore := madeAlong.adds.get?_of_some stood
    by_cases isWritten :
        ∃ file ∈ Host.faultless.writtenFiles root files workspace,
          location = workspace.canonical root ++ file.names
    · obtain ⟨file, member, shape⟩ := isWritten
      have holds := wrote.holds file member
      rw [← shape] at holds
      constructor
      · intro changed
        refine ⟨file, member, shape, ?_⟩
        rintro rfl
        exact changed holds
      · rintro ⟨other, otherMember, otherShape, different⟩ same
        have otherHolds := wrote.holds other otherMember
        rw [← otherShape, same] at otherHolds
        cases otherHolds
        exact different rfl
    · constructor
      · intro changed
        have elsewhere := wrote.elsewhere location
          (fun file member shape => isWritten ⟨file, member, shape⟩)
        rcases elsewhere with same | ⟨absent, _⟩
        · exact (changed (same.trans keptBefore)).elim
        · rw [keptBefore] at absent
          cases absent
      · rintro ⟨file, member, shape, _⟩
        exact (isWritten ⟨file, member, shape⟩).elim

/-- Without force, nothing stands in the way of a file unless the target was not found. -/
theorem absent_of_written
    {files : List Project.File}
    (projectFiles : ProjectFiles files)
    {workspace : Workspace}
    (wellFormed : workspace.tree.WellFormed)
    (linkFree : workspace.tree.LinkFree)
    {root : Path}
    (noStay : Path.currentName ∉ root.parts)
    (passed : Host.faultless.checkTarget workspace root false = .ok ())
    {file : Project.File}
    (written : file ∈ Host.faultless.writtenFiles root files workspace)
    {old : Text.Bytes}
    (stood : workspace.tree.get? (workspace.canonical root ++ file.names) = some (.file old)) :
    workspace.find? root = .ok none := by
  rcases (checkTarget_eq_ok_iff workspace root false).mp passed with
    absent | ⟨base, leads, unforced | childless⟩
  · exact absent
  · cases unforced
  · have member := (writtenFiles_come_first Host.faultless root files workspace).subset written
    have notRoot := (projectFiles.proper file member).notRoot
    have bare := wellFormed.isBare childless
    rw [← leads.eq_canonical linkFree noStay, bare file.names notRoot] at stood
    cases stood

/-- Along a path that does not go up, nothing stands where files are written without force. -/
theorem get?_of_written_of_areNames
    {files : List Project.File}
    (projectFiles : ProjectFiles files)
    {workspace : Workspace}
    (wellFormed : workspace.tree.WellFormed)
    (linkFree : workspace.tree.LinkFree)
    {root : Path}
    (areNames : AreNames root.parts)
    (passed : Host.faultless.checkTarget workspace root false = .ok ())
    {file : Project.File}
    (written : file ∈ Host.faultless.writtenFiles root files workspace) :
    workspace.tree.get? (workspace.canonical root ++ file.names) = none := by
  have noStay : Path.currentName ∉ root.parts :=
    fun member => (areNames _ member).2 rfl
  have member := (writtenFiles_come_first Host.faultless root files workspace).subset written
  have notRoot := (projectFiles.proper file member).notRoot
  have madeAlong := madeAlong_ensureDirectories Host.faultless workspace root
  cases made : Host.faultless.ensureDirectories workspace root with
  | mk grown outcome =>
      rw [made] at madeAlong
      cases outcome with
      | error fault =>
          rw [(writeProjectFiles_of_root_failed projectFiles made).2.2] at written
          cases written
      | ok value =>
          obtain ⟨base, leads, bare, _⟩ := bare_of_root_made wellFormed areNames passed made
          have lexical := leads.eq_canonical (madeAlong.linkFree linkFree) noStay
          rw [madeAlong.canonical_eq] at lexical
          rw [← lexical]
          exact bare file.names notRoot

/--
Without force and without links, a generation changes a file that stood before
exactly when the target was not found and another content is written in the place
of the file. If the target path does not go up, it changes no file at all.
-/
theorem generate_changes_file_iff
    {fields : Request.Fields}
    {request : Request}
    (accepted : Request.ofFields fields = .ok request)
    (toolchain : Toolchain)
    {before : Workspace}
    (wellFormed : before.tree.WellFormed)
    (linkFree : before.tree.LinkFree)
    {location : Location}
    {old : Text.Bytes}
    (stood : before.tree.get? location = some (.file old)) :
    ∃ files,
      Project.render request.brief toolchain.settings = .ok files ∧
        ((generate before request.brief toolchain.settings false none).workspace.tree.get?
              location ≠ some (.file old) ↔
            before.find? request.targetPath = .ok none ∧
              ∃ file ∈ Host.faultless.writtenFiles request.targetPath files before,
                location = before.canonical request.targetPath ++ file.names ∧
                  old ≠ Text.encode file.content) ∧
          (Path.parentName ∉ request.targetPath.parts →
            (generate before request.brief toolchain.settings false none).workspace.tree.get?
              location = some (.file old)) := by
  have projectFiles := projectFiles_filesOf (Request.named_of_ofFields accepted) toolchain
  have noStay := Request.currentName_not_mem_of_ofFields accepted
  refine ⟨_, Project.render_eq request toolchain, ?_⟩
  rw [generate_eq]
  cases checked : Host.faultless.checkTarget before request.targetPath false with
  | error error =>
      rw [emit_of_target_refused checked]
      refine ⟨?_, fun _ => stood⟩
      constructor
      · intro changed
        exact (changed stood).elim
      · rintro ⟨absent, _⟩
        have passed := (checkTarget_eq_ok_iff before request.targetPath false).mpr (.inl absent)
        rw [checked] at passed
        cases passed
  | ok value =>
      rw [emit_of_target_accepted checked]
      have changes := writeProjectFiles_changes_iff projectFiles linkFree noStay stood
      refine ⟨?_, ?_⟩
      · constructor
        · intro changed
          obtain ⟨file, member, shape, different⟩ := changes.mp changed
          rw [shape] at stood
          exact
            ⟨absent_of_written projectFiles wellFormed linkFree noStay checked member stood,
              file, member, shape, different⟩
        · rintro ⟨_, overwritten⟩
          exact changes.mpr overwritten
      · intro noParent
        have areNames := Request.areNames_of_ofFields accepted noParent
        refine Classical.byContradiction fun changed => ?_
        obtain ⟨file, member, shape, _⟩ := changes.mp changed
        rw [shape,
          get?_of_written_of_areNames projectFiles wellFormed linkFree areNames checked
            member] at stood
        cases stood

/-- Values of a request whose target path goes through a directory and up again. -/
def detourFields : Request.Fields where
  targetPath := some (.text "missing/../kept".toList)
  modId := some (.text "sample_mod".toList)
  modName := some (.text "Sample".toList)
  language := none
  mainClass := none

/-- The request with these values. -/
def detourRequest : Request where
  targetPath := ⟨.relative, ["missing".toList, "..".toList, "kept".toList]⟩
  modId := "sample_mod".toList
  modName := "Sample".toList
  language := .java
  mainClass := MainClass.default

/-- The file that stands at the end of the detour. -/
def keptFile : Location :=
  ["kept".toList, "build.gradle".toList]

/-- A workspace with a directory that holds a file of that name. -/
def keptWorkspace : Workspace where
  tree :=
    (FileTree.empty.insert ["kept".toList] .directory).insert keptFile
      (.file (Text.encode "mine".toList))
  directory := []

theorem wellFormed_keptWorkspace :
    keptWorkspace.tree.WellFormed :=
  wellFormed_of_entries (by decide)

theorem linkFree_keptWorkspace :
    keptWorkspace.tree.LinkFree :=
  linkFree_of_entries (by decide)

theorem get?_keptWorkspace :
    keptWorkspace.tree.get? keptFile = some (.file (Text.encode "mine".toList)) := by
  decide

/-- The build script of a project. -/
def Project.scriptFile
    (request : Request)
    (toolchain : Toolchain) :
    Project.File where
  names := ["build.gradle".toList]
  content := Project.filled request toolchain Project.buildScript

/-- The first file of a project is its build script. -/
theorem Project.filesOf_eq_cons
    (request : Request)
    (toolchain : Toolchain) :
    ∃ rest,
      Project.filesOf request toolchain = Project.scriptFile request toolchain :: rest := by
  obtain ⟨item, others, shape, output, source⟩ :
      ∃ item others,
        Project.items request.language = item :: others ∧
          item.output = "build.gradle".toList ∧ item.source = Project.buildScript :=
    ⟨_, _, rfl, rfl,
      Project.source_of_mem (List.mem_of_getElem? (rfl : Project.sources[0]? = _))⟩
  refine ⟨others.map fun item => item.file request toolchain, ?_⟩
  rw [Project.filesOf, shape, List.map_cons, Project.Item.file, output, source,
    Project.filled_fixedOutputs request toolchain _ List.mem_cons_self]
  rfl

/-- A build script does not begin like the file that stands at the end of the detour. -/
theorem encode_scriptFile_ne
    (request : Request)
    (toolchain : Toolchain) :
    Text.encode "mine".toList ≠
      Text.encode (Project.scriptFile request toolchain).content := by
  rw [Project.scriptFile, Project.filled,
    Project.outlineOf_of_hasOutlines Project.hasOutlines_buildScript]
  intro same
  have first := congrArg List.head? same
  cases first

/-- The build script is written behind the detour. -/
theorem writeProjectFile_detour :
    ∃ left,
      Host.faultless.writeProjectFile detourRequest.targetPath
          (Project.scriptFile detourRequest Toolchain.default) keptWorkspace =
        (left, .ok (detourRequest.targetPath.append ["build.gradle".toList])) := by
  have isOk :
      (Host.faultless.writeProjectFile detourRequest.targetPath
        (Project.scriptFile detourRequest Toolchain.default) keptWorkspace).2.isOk = true := by
    decide +kernel
  cases attempt :
      Host.faultless.writeProjectFile detourRequest.targetPath
        (Project.scriptFile detourRequest Toolchain.default) keptWorkspace with
  | mk left result =>
      rw [attempt] at isOk
      obtain ⟨path, rfl⟩ := exists_ok_of_isOk isOk
      rw [path_of_writeProjectFile (List.cons_ne_nil _ _) attempt]
      exact ⟨left, rfl⟩

/-- Behind a detour through a missing directory, a file is overwritten without force. -/
theorem generate_overwrites_behind_detour :
    Request.ofFields detourFields = .ok detourRequest ∧
      keptWorkspace.tree.WellFormed ∧
        keptWorkspace.tree.LinkFree ∧
          keptWorkspace.tree.get? keptFile = some (.file (Text.encode "mine".toList)) ∧
            (generate keptWorkspace detourRequest.brief Toolchain.default.settings false
                none).workspace.tree.get? keptFile ≠
              some (.file (Text.encode "mine".toList)) := by
  have accepted : Request.ofFields detourFields = .ok detourRequest := rfl
  have projectFiles :=
    projectFiles_filesOf (Request.named_of_ofFields accepted) Toolchain.default
  have passed :
      Host.faultless.checkTarget keptWorkspace detourRequest.targetPath false = .ok () :=
    rfl
  obtain ⟨rest, files⟩ := Project.filesOf_eq_cons detourRequest Toolchain.default
  refine
    ⟨accepted, wellFormed_keptWorkspace, linkFree_keptWorkspace, get?_keptWorkspace, ?_⟩
  rw [generate_eq, workspace_emit_of_target_accepted passed]
  have changes :=
    writeProjectFiles_changes_iff projectFiles linkFree_keptWorkspace
      (Request.currentName_not_mem_of_ofFields accepted) get?_keptWorkspace
  obtain ⟨left, wrote⟩ := writeProjectFile_detour
  have isWritten :
      Project.scriptFile detourRequest Toolchain.default ∈
        Host.faultless.writtenFiles detourRequest.targetPath
          (Project.filesOf detourRequest Toolchain.default) keptWorkspace := by
    rw [files, (writeProjectFiles_of_ok wrote rest).2]
    exact List.mem_cons_self
  have here :
      keptFile =
        keptWorkspace.canonical detourRequest.targetPath ++ ["build.gradle".toList] := by
    decide
  exact
    changes.mpr
      ⟨Project.scriptFile detourRequest Toolchain.default, isWritten, here,
        encode_scriptFile_ne detourRequest Toolchain.default⟩

/-- The file behind the detour is overwritten because the target was not found. -/
theorem generate_changes_file_iff_behind_detour :
    keptWorkspace.tree.get? keptFile = some (.file (Text.encode "mine".toList)) ∧
      ∃ files,
        Project.render detourRequest.brief Toolchain.default.settings = .ok files ∧
          ((generate keptWorkspace detourRequest.brief Toolchain.default.settings false
                none).workspace.tree.get? keptFile ≠
                some (.file (Text.encode "mine".toList)) ↔
              keptWorkspace.find? detourRequest.targetPath = .ok none ∧
                ∃ file ∈ Host.faultless.writtenFiles detourRequest.targetPath files keptWorkspace,
                  keptFile = keptWorkspace.canonical detourRequest.targetPath ++ file.names ∧
                    Text.encode "mine".toList ≠ Text.encode file.content) := by
  have accepted : Request.ofFields detourFields = .ok detourRequest := rfl
  obtain ⟨files, rendered, changes, _⟩ :=
    generate_changes_file_iff accepted Toolchain.default wellFormed_keptWorkspace
      linkFree_keptWorkspace get?_keptWorkspace
  exact ⟨get?_keptWorkspace, files, rendered, changes⟩

end ModSkeleton
