import ModSkeleton.Proofs.Generation.Writing
import ModSkeleton.Proofs.Project.Names

namespace ModSkeleton

open FileTree Workspace

/-!
# The target of a generation

Writing the files of a project first makes the directories that lead to its
root, because the first file stands right inside of it. Without force, a target
that passes the check holds nothing once its root is made: it was an empty
directory before, or it was missing and its directories are new.
-/

/-- The files of a project, the first of which stands right inside of the root. -/
structure ProjectFiles
    (files : List Project.File) :
    Prop extends ProperFiles files where
  startsAtRoot : ∃ first rest, files = first :: rest ∧ first.names.dropLast = []

/-- Writing files starts from the workspace in which the root is made. -/
theorem writeProjectFiles_of_root_made
    {files : List Project.File}
    (projectFiles : ProjectFiles files)
    {root : Path}
    {workspace grown : Workspace}
    (made : Host.faultless.ensureDirectories workspace root = (grown, .ok ())) :
    Host.faultless.writeProjectFiles root files workspace =
        Host.faultless.writeProjectFiles root files grown ∧
      Host.faultless.writtenFiles root files workspace =
        Host.faultless.writtenFiles root files grown := by
  obtain ⟨first, rest, rfl, atRoot⟩ := projectFiles.startsAtRoot
  have notRoot := (projectFiles.proper first List.mem_cons_self).notRoot
  have sameRoot : root.append [] = root := by simp [Path.append]
  obtain ⟨base, leads⟩ :
      ∃ base, (Host.faultless.ensureDirectories workspace root).1.LeadsTo root base :=
    leadsTo_of_ensureDirectories (by rw [made])
  rw [made] at leads
  have again : Host.faultless.ensureDirectories grown root = (grown, .ok ()) :=
    ensureDirectories_of_leadsTo leads
  have plenty : ∀ current path, Host.faultless.exhaustedBy current path = false :=
    fun _ _ => rfl
  have sameFirst :
      Host.faultless.writeProjectFile root first workspace =
        Host.faultless.writeProjectFile root first grown := by
    simp only [Host.writeProjectFile, parent_append root notRoot, atRoot, sameRoot, made, again,
      plenty, Bool.false_eq_true, if_false]
  simp only [Host.writeProjectFiles, Host.writtenFiles, sameFirst, and_self]

/-- A root that cannot be made is reported as a fault at the first file. -/
theorem writeProjectFiles_of_root_failed
    {files : List Project.File}
    (projectFiles : ProjectFiles files)
    {root : Path}
    {workspace grown : Workspace}
    {fault : AccessFault}
    (failed : Host.faultless.ensureDirectories workspace root = (grown, .error fault)) :
    (Host.faultless.writeProjectFiles root files workspace).1 = grown ∧
      (∃ error, (Host.faultless.writeProjectFiles root files workspace).2 = .error error) ∧
        Host.faultless.writtenFiles root files workspace = [] := by
  obtain ⟨first, rest, rfl, atRoot⟩ := projectFiles.startsAtRoot
  have notRoot := (projectFiles.proper first List.mem_cons_self).notRoot
  have sameRoot : root.append [] = root := by simp [Path.append]
  have result :
      Host.faultless.writeProjectFile root first workspace =
        (grown, .error (.ofFault (root.append first.names) fault)) := by
    simp only [Host.writeProjectFile, parent_append root notRoot, atRoot, sameRoot, failed]
    exact if_neg (by simp [Host.exhaustedBy, Host.faultless, Stack.unlimited])
  obtain ⟨stops, writes⟩ := writeProjectFiles_of_error result rest
  rw [stops, writes]
  exact ⟨rfl, ⟨_, rfl⟩, rfl⟩

/-- An entry is found where the path leads to it. -/
theorem find?_eq_some_iff
    {host : Host}
    {workspace : Workspace}
    {path : Path}
    {location : Location}
    {entry : Entry} :
    host.find? workspace path = .ok (some (location, entry)) ↔
      host.locate workspace true path = .ok (.present location entry) := by
  unfold Host.find?
  cases host.locate workspace true path with
  | error fault =>
      cases fault with
      | embeddedNull => simp
      | system fault => cases absent : fault.meansAbsent <;> simp [absent]
  | ok place =>
      cases place with
      | missing parent name => simp
      | present found entry => simp

theorem find?_eq_directory_iff
    {workspace : Workspace}
    {path : Path}
    {location : Location} :
    workspace.find? path = .ok (some (location, .directory)) ↔
      workspace.LeadsTo path location := by
  rw [find?, find?_eq_some_iff, locate_faultless]
  rfl

/-- Without faults of devices, the names in a directory can be listed. -/
@[simp]
theorem namesIn_faultless
    (tree : FileTree)
    (location : Location) :
    Host.faultless.namesIn tree location = .ok (tree.childNames location) :=
  rfl

/-- A target passes the check when nothing is there, or a directory that may be used. -/
theorem checkTarget_eq_ok_iff
    (workspace : Workspace)
    (root : Path)
    (force : Bool) :
    Host.faultless.checkTarget workspace root force = .ok () ↔
      workspace.find? root = .ok none ∨
        ∃ location, workspace.LeadsTo root location ∧
          (force = true ∨ workspace.tree.childNames location = []) := by
  simp only [← find?_eq_directory_iff]
  unfold Host.checkTarget find?
  cases Host.faultless.find? workspace root with
  | error fault => simp
  | ok found =>
      cases found with
      | none => simp
      | some pair =>
          obtain ⟨location, entry⟩ := pair
          cases entry with
          | directory =>
              cases force with
              | true => simp
              | false => cases children : workspace.tree.childNames location <;> simp [children]
          | file content => simp
          | link target => simp

theorem emit_of_target_refused
    {host : Host}
    {workspace : Workspace}
    {root : Path}
    {force : Bool}
    {error : ProjectError}
    (refused : host.checkTarget workspace root force = .error error)
    (files : List Project.File)
    (git? : Option Git) :
    host.emit workspace root files force git? = ⟨workspace, .error (.project error), []⟩ := by
  simp only [Host.emit, refused]

theorem emit_of_target_accepted
    {host : Host}
    {workspace : Workspace}
    {root : Path}
    {force : Bool}
    (accepted : host.checkTarget workspace root force = .ok ())
    (files : List Project.File) :
    host.emit workspace root files force none =
      ⟨(host.writeProjectFiles root files workspace).1,
        (host.writeProjectFiles root files workspace).2, []⟩ := by
  simp only [Host.emit, accepted]

theorem workspace_emit_of_target_accepted
    {host : Host}
    {workspace : Workspace}
    {root : Path}
    {force : Bool}
    (accepted : host.checkTarget workspace root force = .ok ())
    (files : List Project.File) :
    (host.emit workspace root files force none).workspace =
      (host.writeProjectFiles root files workspace).1 := by
  rw [emit_of_target_accepted accepted]

/-- Nothing stands strictly below a location. -/
def FileTree.IsBare
    (tree : FileTree)
    (location : Location) :
    Prop :=
  ∀ below, below ≠ [] → tree.get? (location ++ below) = none

theorem FileTree.WellFormed.isBare
    {tree : FileTree}
    (wellFormed : tree.WellFormed)
    {location : Location}
    (childless : tree.childNames location = []) :
    tree.IsBare location := by
  intro below notHere
  obtain ⟨name, names, rfl⟩ := List.exists_cons_of_ne_nil notHere
  have missing := (childNames_eq_nil_iff tree location).mp childless name
  have nothing := wellFormed.none_below missing names
  simpa using nothing

theorem FileTree.IsBare.linkFreeFrom
    {tree : FileTree}
    {location : Location}
    (bare : tree.IsBare location)
    (here : tree.get? location = some .directory) :
    tree.LinkFreeFrom location := by
  intro below target found
  by_cases isHere : below = []
  · rw [isHere, List.append_nil, here] at found
    cases found
  · rw [bare below isHere] at found
    cases found

/--
Without force, once the root of an accepted target is made, nothing stands below
it, and nothing stood there before.
-/
theorem bare_of_root_made
    {workspace grown : Workspace}
    (wellFormed : workspace.tree.WellFormed)
    {root : Path}
    (areNames : AreNames root.parts)
    (accepted : Host.faultless.checkTarget workspace root false = .ok ())
    (made : Host.faultless.ensureDirectories workspace root = (grown, .ok ())) :
    ∃ base, grown.LeadsTo root base ∧
      workspace.tree.IsBare base ∧ grown.tree.IsBare base := by
  rcases (checkTarget_eq_ok_iff workspace root false).mp accepted with
    absent | ⟨base, leads, unforced | childless⟩
  · have result := foundOrFresh_ensureDirectories wellFormed areNames (by rw [made])
    rw [made] at result
    rcases result with ⟨_, location, leads⟩ | ⟨base, fresh⟩
    · rw [find?_eq_directory_iff.mpr leads] at absent
      cases absent
    · have bareBefore : workspace.tree.IsBare base :=
        fun below _ => wellFormed.none_below fresh.absent below
      refine ⟨base, fresh.leads, bareBefore, ?_⟩
      intro below notHere
      rcases fresh.onWay (base ++ below) with same | ⟨_, _, onWay⟩
      · rw [same, bareBefore below notHere]
      -- What was added stands on the way to the base, so not below it.
      · have short := onWay.length_le
        have positive := List.length_pos_iff.mpr notHere
        rw [List.length_append] at short
        omega
  · cases unforced
  · rw [ensureDirectories_of_leadsTo leads] at made
    cases made
    have bare := wellFormed.isBare childless
    exact ⟨base, leads, bare, bare⟩

/--
Without links, writing files makes directories along the root path, and then,
unless that fails, writes below where the root path leads lexically.
-/
theorem writeProjectFiles_of_linkFree
    {files : List Project.File}
    (projectFiles : ProjectFiles files)
    {workspace : Workspace}
    (linkFree : workspace.tree.LinkFree)
    {root : Path}
    (noStay : Path.currentName ∉ root.parts) :
    MadeAlong root workspace (Host.faultless.ensureDirectories workspace root).1 ∧
      ((∃ fault, (Host.faultless.ensureDirectories workspace root).2 = .error fault) ∧
          Host.faultless.writtenFiles root files workspace = [] ∧
          (Host.faultless.writeProjectFiles root files workspace).1 =
            (Host.faultless.ensureDirectories workspace root).1 ∨
        (Host.faultless.ensureDirectories workspace root).1.LeadsTo root
            (workspace.canonical root) ∧
          WroteBelow (workspace.canonical root) (Host.faultless.writtenFiles root files workspace)
            (files.take ((Host.faultless.writtenFiles root files workspace).length + 1))
            (Host.faultless.ensureDirectories workspace root).1
            (Host.faultless.writeProjectFiles root files workspace).1) := by
  have madeAlong := madeAlong_ensureDirectories Host.faultless workspace root
  refine ⟨madeAlong, ?_⟩
  cases made : Host.faultless.ensureDirectories workspace root with
  | mk grown outcome =>
      rw [made] at madeAlong
      cases outcome with
      | error fault =>
          obtain ⟨left, _, none⟩ := writeProjectFiles_of_root_failed projectFiles made
          exact .inl ⟨⟨fault, rfl⟩, none, left⟩
      | ok value =>
          obtain ⟨base, leads⟩ :
              ∃ base, (Host.faultless.ensureDirectories workspace root).1.LeadsTo root base :=
            leadsTo_of_ensureDirectories (by rw [made])
          rw [made] at leads
          have grownLinkFree := madeAlong.linkFree linkFree
          have lexical : base = workspace.canonical root :=
            (leads.eq_canonical grownLinkFree noStay).trans
              (madeAlong.canonical_eq root)
          rw [lexical] at leads
          obtain ⟨sameRun, sameWritten⟩ := writeProjectFiles_of_root_made projectFiles made
          have wrote :=
            wroteBelow_writeProjectFiles ⟨leads, .of_linkFree grownLinkFree _⟩
              projectFiles.toProperFiles
          rw [← sameRun, ← sameWritten] at wrote
          exact .inr ⟨leads, wrote⟩

theorem Request.areNames_of_ofFields
    {fields : Request.Fields}
    {request : Request}
    (accepted : Request.ofFields fields = .ok request)
    (noParent : Path.parentName ∉ request.targetPath.parts) :
    AreNames request.targetPath.parts := by
  intro name member
  constructor
  · rintro rfl
    exact noParent member
  · rintro rfl
    exact Request.currentName_not_mem_of_ofFields accepted member

/-- The files that a request renders to are files of a project. -/
theorem projectFiles_filesOf
    {request : Request}
    (named : request.Named)
    (toolchain : Toolchain) :
    ProjectFiles (Project.filesOf request toolchain) := by
  have names := Project.names_filesOf request toolchain named
  have properNames :
      ∀ names ∈ Project.fileNames request,
        names ≠ [] ∧ ∀ name ∈ names, Path.IsComponent name :=
    fun names member =>
      ⟨Project.ne_nil_of_mem_fileNames member,
        Project.isComponent_fileNames named names member⟩
  have apart := Project.pairwise_unrelated_fileNames request
  rw [← names] at apart properNames
  refine
    { proper := ?_
      apart := List.pairwise_map.mp apart
      startsAtRoot := ?_ }
  · intro file member
    obtain ⟨notRoot, areComponents⟩ := properNames file.names (List.mem_map_of_mem member)
    exact ⟨areComponents, notRoot⟩
  · obtain ⟨others, fileNamesShape⟩ := Project.fileNames_eq_cons request
    rw [fileNamesShape] at names
    obtain ⟨first, rest, shape, firstNames, _⟩ := List.map_eq_cons_iff.mp names
    refine ⟨first, rest, shape, ?_⟩
    rw [firstNames]
    rfl

theorem generate_of_render
    (host : Host)
    (workspace : Workspace)
    {brief : Brief}
    {settings : Settings}
    {files : List Project.File}
    (rendered : Project.render brief settings = .ok files)
    {root : Path}
    (target : brief.target = .path root)
    (force : Bool)
    (git? : Option Git) :
    host.generate workspace brief settings force git? =
      host.emit workspace root files force git? := by
  unfold Host.generate
  rw [rendered, target]

/-- Generating a request renders its files and writes them to its target path. -/
theorem Host.generate_eq
    (host : Host)
    (workspace : Workspace)
    (request : Request)
    (toolchain : Toolchain)
    (force : Bool)
    (git? : Option Git) :
    host.generate workspace request.brief toolchain.settings force git? =
      host.emit workspace request.targetPath (Project.filesOf request toolchain) force git? := by
  have target : request.brief.target = .path request.targetPath := rfl
  exact
    generate_of_render host workspace (Project.render_eq request toolchain) target force git?

theorem generate_eq
    (workspace : Workspace)
    (request : Request)
    (toolchain : Toolchain)
    (force : Bool)
    (git? : Option Git) :
    generate workspace request.brief toolchain.settings force git? =
      Host.faultless.emit workspace request.targetPath (Project.filesOf request toolchain) force
        git? :=
  Host.faultless.generate_eq workspace request toolchain force git?

theorem exists_ok_of_isOk
    {ε α : Type}
    {outcome : Except ε α}
    (isOk : outcome.isOk = true) :
    ∃ value, outcome = .ok value := by
  cases outcome with
  | error error => cases isOk
  | ok value => exact ⟨value, rfl⟩

/-- Values of a request, for examples. -/
def sampleFields : Request.Fields where
  targetPath := some (.text "way/mod".toList)
  modId := some (.text "sample_mod".toList)
  modName := some (.text "Sample \"Mod\"".toList)
  language := some (.text "kotlin".toList)
  mainClass := none

/-- The request with these values. -/
def sampleRequest : Request where
  targetPath := ⟨.relative, ["way".toList, "mod".toList]⟩
  modId := "sample_mod".toList
  modName := "Sample \"Mod\"".toList
  language := .kotlin
  mainClass := MainClass.default

theorem ofFields_sampleFields :
    Request.ofFields sampleFields = .ok sampleRequest :=
  rfl

/-- A program that cannot be found. -/
def missingGit : Git where
  launch := .refused (.fault .notFound Git.programName)
  effect := fun _ tree => tree

end ModSkeleton
