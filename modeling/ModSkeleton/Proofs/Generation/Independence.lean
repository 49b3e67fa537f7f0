import ModSkeleton.Proofs.Generation.Repetition
import ModSkeleton.Proofs.Generation.Sequence
import ModSkeleton.Proofs.Workspace.Room

namespace ModSkeleton

open FileTree Workspace

/-!
# Generating into independent targets

In a workspace without links, a generation succeeds exactly if there is room for
each of its files and its target may be used (`GenerateCall.succeeds_iff`). Both
depend on a few entries: what stands on the way to the target and below it. A
generation elsewhere adds nothing there but directories on the way, so it neither
makes nor takes room. And what is written completely is determined by the outputs
alone (`EmittedOnly.sameEntries`), so two such generations can change places.
-/

/-- A workspace without links in which every entry, and the user, is in a directory. -/
structure Workspace.IsPlain
    (workspace : Workspace) :
    Prop where
  wellFormed : workspace.tree.WellFormed
  linkFree : workspace.tree.LinkFree
  inside : workspace.tree.get? workspace.directory = some .directory

namespace Workspace.IsPlain

/-- Every path starts in a directory. -/
theorem start
    {workspace : Workspace}
    (plain : workspace.IsPlain)
    (path : Path) :
    workspace.tree.get? (startOf workspace.directory path) = some .directory := by
  obtain ⟨root, parts⟩ := path
  cases root with
  | relative => exact plain.inside
  | absolute => exact get?_nil workspace.tree
  | doubleSlash => exact get?_nil workspace.tree

theorem emitted
    {outputs : List Output}
    {before after : Workspace}
    (plain : before.IsPlain)
    (emitted : EmittedOnly outputs before after) :
    after.IsPlain where
  wellFormed := emitted.wellFormed plain.wellFormed
  linkFree := emitted.linkFree plain.linkFree
  inside := by
    rw [emitted.directory]
    exact emitted.grows.directory plain.inside

end Workspace.IsPlain

/-- What is emitted completely is determined by the outputs. -/
theorem EmittedOnly.sameEntries
    {outputs : List Output}
    {before first second : Workspace}
    (wellFormed : before.tree.WellFormed)
    (toFirst : EmittedOnly outputs before first)
    (toSecond : EmittedOnly outputs before second)
    (firstHolds : first.Holds outputs)
    (secondHolds : second.Holds outputs) :
    first.SameEntries second where
  directory := toFirst.directory.trans toSecond.directory.symm
  entries location := by
    by_cases isOutput : ∃ output ∈ outputs, location = output.location
    · obtain ⟨output, member, rfl⟩ := isOutput
      rw [firstHolds output member, secondHolds output member]
    by_cases isAbove : ∃ output ∈ outputs, IsAncestor location output.location
    · obtain ⟨output, member, above, proper⟩ := isAbove
      have inFirst := firstHolds output member
      have inSecond := secondHolds output member
      rw [(toFirst.wellFormed wellFormed).directory_on_way above proper inFirst,
        (toSecond.wellFormed wellFormed).directory_on_way above proper inSecond]
    · have unchanged :
          ∀ after, EmittedOnly outputs before after →
            after.tree.get? location = before.tree.get? location := by
        intro after emitted
        rcases emitted.changes location with
          same | ⟨output, member, here, _⟩ | ⟨_, _, above⟩
        · exact same
        · exact (isOutput ⟨output, member, here⟩).elim
        · exact (isAbove above).elim
      rw [unchanged first toFirst, unchanged second toSecond]

/-- There is room for a file at the end of a path, once the directories above are made. -/
structure Workspace.HasRoom
    (workspace : Workspace)
    (path : Path) :
    Prop where
  isOpen : workspace.IsOpen path
  noDirectory : workspace.tree.get? (workspace.absolute path) ≠ some .directory

namespace Workspace.HasRoom

/-- There was room where there is room later. -/
theorem of_growsTo
    {before after : Workspace}
    (plain : before.IsPlain)
    (sameDirectory : after.directory = before.directory)
    (grows : GrowsTo before.tree after.tree)
    {path : Path}
    (room : after.HasRoom path) :
    before.HasRoom path where
  isOpen :=
    { takes := room.isOpen.takes
      names := room.isOpen.names
      start := plain.start path
      above := by
        intro upper beginning notAll
        have later := room.isOpen.above upper beginning notAll
        rw [sameDirectory] at later
        exact grows.isOpenAt later }
  noDirectory isDirectory := by
    apply room.noDirectory
    rw [absolute_congr sameDirectory]
    exact grows.directory isDirectory

/-- Room is left by outputs of which none stands above it or below it. -/
theorem emitted
    {outputs : List Output}
    {before after : Workspace}
    (emitted : EmittedOnly outputs before after)
    {path : Path}
    (apart :
      ∀ output ∈ outputs,
        ¬IsAncestor output.location (before.absolute path) ∧
          ¬IsAncestor (before.absolute path) output.location)
    (room : before.HasRoom path) :
    after.HasRoom path where
  isOpen :=
    { takes := room.isOpen.takes
      names := room.isOpen.names
      start := by
        rw [emitted.directory]
        exact emitted.grows.directory room.isOpen.start
      above := by
        intro upper beginning notAll
        rw [emitted.directory]
        rcases emitted.changes (startOf before.directory path ++ upper) with
          same | ⟨output, member, here, _⟩ | ⟨_, added, _⟩
        · rw [IsOpenAt, same]
          exact room.isOpen.above upper beginning notAll
        · refine ((apart output member).1 ?_).elim
          rw [← here]
          exact
            ⟨(List.prefix_append_right_inj _).mpr beginning,
              fun same => notAll (List.append_cancel_left same)⟩
        · exact .inr added }
  noDirectory := by
    rw [absolute_congr emitted.directory]
    rcases emitted.changes (before.absolute path) with
      same | ⟨_, _, _, written⟩ | ⟨_, _, output, member, above⟩
    · rw [same]
      exact room.noDirectory
    · rw [written]
      simp
    · exact ((apart output member).2 above).elim

end Workspace.HasRoom

/-- In a tree without links, the names along which a scan arrives can name entries. -/
theorem FileTree.Scans.isEntryName
    {tree : FileTree}
    (linkFree : tree.LinkFree)
    {followLast : Bool}
    {start : Location}
    {names : List Text}
    (areNames : AreNames names)
    {stop : Stop}
    (scans : Scans tree followLast start names stop) :
    ∀ name ∈ names, IsEntryName name := by
  induction scans with
  | arrive => simp
  | up => exact ((areNames _ List.mem_cons_self).1 rfl).elim
  | stay => exact ((areNames _ List.mem_cons_self).2 rfl).elim
  | missing _ proper => simpa using proper
  | lastLink _ proper => simpa using proper
  | link _ _ next => exact (linkFree _ _ next).elim
  | enter _ proper _ _ _ inductionHypothesis =>
      intro name member
      rcases List.mem_cons.mp member with rfl | inRest
      · exact proper
      · exact
          inductionHypothesis (fun other isRest => areNames other (List.mem_cons_of_mem _ isRest))
            name inRest

theorem FileTree.Walks.isEntryName
    {tree : FileTree}
    (linkFree : tree.LinkFree)
    {followLast : Bool}
    {budget : Nat}
    {start : Location}
    {names : List Text}
    (areNames : AreNames names)
    {place : Place}
    (walks : Walks tree followLast budget start names place) :
    ∀ name ∈ names, IsEntryName name := by
  cases walks with
  | arrive scans => exact scans.isEntryName linkFree areNames
  | follow scans _ => exact scans.isEntryName linkFree areNames

section

variable
    {root : Path}
    (rootNames : AreNames root.parts)

include rootNames

/-- Where a file stands, there is room for it. -/
theorem InPlace.hasRoom
    {workspace : Workspace}
    (plain : workspace.IsPlain)
    {file : Project.File}
    (proper : file.IsProper)
    {location : Location}
    (inPlace : InPlace root file workspace location) :
    workspace.HasRoom (root.append file.names) := by
  have areNames := areNames_append rootNames proper.areNames
  obtain ⟨content, located⟩ := inPlace.leads
  obtain ⟨takes, walks⟩ := locate_eq_ok_iff.mp located
  have here : location = workspace.absolute (root.append file.names) :=
    location_eq_absolute plain.linkFree areNames located
  have found := walks.get?_of_present
  rw [here] at found
  refine ⟨⟨takes, walks.isEntryName plain.linkFree areNames, plain.start _, ?_⟩, ?_⟩
  · intro upper beginning notAll
    exact .inr
      (plain.wellFormed.directory_on_way ((List.prefix_append_right_inj _).mpr beginning)
        (fun same => notAll (List.append_cancel_left same)) found)
  · rw [found]
    simp

/-- A file for which there is room is written. -/
theorem writeProjectFile_of_hasRoom
    {workspace : Workspace}
    (plain : workspace.IsPlain)
    {file : Project.File}
    (proper : file.IsProper)
    (room : workspace.HasRoom (root.append file.names)) :
    ∃ written,
      Host.faultless.writeProjectFile root file workspace =
        (written, .ok (root.append file.names)) := by
  have folderShape :
      (root.append file.names).parts.dropLast = (root.append file.names.dropLast).parts := by
    rw [Path.parts_append, Path.parts_append, List.dropLast_append_of_ne_nil proper.notRoot]
  have beginning :
      (root.append file.names.dropLast).parts <+: (root.append file.names).parts := by
    rw [← folderShape]
    exact List.dropLast_prefix _
  have shorter :
      (root.append file.names.dropLast).parts ≠ (root.append file.names).parts := by
    intro same
    have lengths := congrArg List.length same
    have positive := List.length_pos_iff.mpr proper.notRoot
    rw [Path.parts_append, Path.parts_append, List.length_append, List.length_append,
      List.length_dropLast] at lengths
    omega
  have folderOpen : workspace.IsOpen (root.append file.names.dropLast) :=
    room.isOpen.of_beginning beginning
  have ensured :=
    ensureDirectories_of_isOpen plain.linkFree plain.wellFormed folderOpen
      (room.isOpen.above _ beginning shorter)
  have folders :
      EmittedOnly [file.output workspace root] workspace
        (Host.faultless.ensureDirectories workspace (root.append file.names.dropLast)).1 :=
    (emitted_ensureDirectories rootNames Host.faultless proper plain.linkFree).mono (by simp)
      (List.Subset.refl _)
  obtain ⟨above, leads⟩ := leadsTo_of_ensureDirectories ensured
  cases result : Host.faultless.ensureDirectories workspace (root.append file.names.dropLast) with
  | mk grown outcome =>
      rw [result] at ensured folders leads
      obtain rfl : outcome = .ok () := ensured
      have grownPlain := plain.emitted folders
      have grownRoom : grown.HasRoom (root.append file.names) := by
        refine room.emitted folders ?_
        intro output member
        obtain rfl := List.mem_singleton.mp member
        exact ⟨fun above => above.proper rfl, fun above => above.proper rfl⟩
      have folder :
          grown.tree.get?
              (startOf grown.directory (root.append file.names) ++
                (root.append file.names).parts.dropLast) =
            some .directory := by
        have here : above = grown.absolute (root.append file.names.dropLast) :=
          location_eq_absolute grownPlain.linkFree
            (areNames_append rootNames
              (fun name member => proper.areNames name (List.dropLast_subset _ member)))
            leads
        rw [folderShape, ← leads.get?, here]
        rfl
      obtain ⟨written, wrote⟩ :=
        write_of_isOpen grownPlain.linkFree grownPlain.wellFormed grownRoom.isOpen folder
          grownRoom.noDirectory file.content
      refine ⟨written, ?_⟩
      have plenty :
          Host.faultless.exhaustedBy workspace (root.append file.names.dropLast) = false :=
        rfl
      simp only [Host.writeProjectFile, parent_append root proper.notRoot, plenty,
        Bool.false_eq_true, if_false, result, wrote]

/-- Files are written in order exactly if there is room for each of them. -/
theorem writeProjectFiles_succeeds_iff
    {files : List Project.File}
    (properFiles : ProperFiles files)
    {workspace : Workspace}
    (plain : workspace.IsPlain) :
    (∃ paths, (Host.faultless.writeProjectFiles root files workspace).2 = .ok paths) ↔
      ∀ file ∈ files, workspace.HasRoom (root.append file.names) := by
  constructor
  · rintro ⟨paths, succeeded⟩ file member
    have emitted := emittedOnly_writeProjectFiles rootNames properFiles plain.linkFree
    obtain ⟨location, inPlace⟩ :=
      inPlace_of_writeProjectFiles
        (fun other isFile => (properFiles.proper other isFile).notRoot)
        (Prod.ext rfl succeeded) file member
    have later := inPlace.hasRoom rootNames (plain.emitted emitted) (properFiles.proper file member)
    exact later.of_growsTo plain emitted.directory emitted.grows
  · intro rooms
    induction files generalizing workspace with
    | nil => exact ⟨[], rfl⟩
    | cons file files inductionHypothesis =>
        obtain ⟨apart, restApart⟩ := List.pairwise_cons.mp properFiles.apart
        have proper := properFiles.proper file List.mem_cons_self
        obtain ⟨written, wrote⟩ :=
          writeProjectFile_of_hasRoom rootNames plain proper (rooms file List.mem_cons_self)
        obtain ⟨left, result, ofFile, _⟩ :=
          (emitted_writeProjectFile rootNames Host.faultless proper plain.linkFree).resolve_left
            (by rintro ⟨_, _, failed, _⟩; rw [wrote] at failed; cases failed)
        rw [wrote] at result
        cases result
        have restRooms :
            ∀ other ∈ files, written.HasRoom (root.append other.names) := by
          intro other member
          refine (rooms other (List.mem_cons_of_mem _ member)).emitted ofFile ?_
          intro output isOutput
          obtain rfl := List.mem_singleton.mp isOutput
          have unrelated := (apart other member).append_left (workspace.absolute root)
          rw [Project.File.output, absolute_append, absolute_append]
          exact ⟨fun above => unrelated.1 above.above, fun above => unrelated.2 above.above⟩
        obtain ⟨paths, restWritten⟩ :=
          inductionHypothesis
            ⟨fun other member => properFiles.proper other (List.mem_cons_of_mem _ member),
              restApart⟩
            (plain.emitted ofFile) restRooms
        refine ⟨root.append file.names :: paths, ?_⟩
        rw [(writeProjectFiles_of_ok wrote files).1, restWritten]
        rfl

end

/-- An open target may be used if that is forced or nothing stands below it. -/
theorem checkTarget_of_isOpen
    {workspace : Workspace}
    (plain : workspace.IsPlain)
    {root : Path}
    (isOpen : workspace.IsOpen root)
    (openEnd : workspace.tree.IsOpenAt (workspace.absolute root))
    (force : Bool) :
    Host.faultless.checkTarget workspace root force = .ok () ↔
      force = true ∨ workspace.tree.IsBare (workspace.absolute root) := by
  rw [checkTarget_eq_ok_iff]
  rcases openEnd with absent | isDirectory
  · have bare : workspace.tree.IsBare (workspace.absolute root) :=
      fun below _ => plain.wellFormed.none_below absent below
    simp [find?_of_isOpen plain.linkFree isOpen absent, bare]
  · have leads := isOpen.leadsTo plain.linkFree plain.wellFormed isDirectory
    have found := find?_eq_directory_iff.mpr leads
    have childless :
        workspace.tree.childNames (workspace.absolute root) = [] ↔
          workspace.tree.IsBare (workspace.absolute root) := by
      refine ⟨plain.wellFormed.isBare, fun bare => ?_⟩
      exact (childNames_eq_nil_iff _ _).mpr (fun name => bare [name] (by simp))
    constructor
    · rintro (nothing | ⟨base, leadsToBase, usable⟩)
      · rw [found] at nothing
        cases nothing
      · rwa [leadsToBase.unique leads, childless] at usable
    · intro usable
      exact .inr ⟨_, leads, by rwa [childless]⟩

namespace GenerateCall

/-- There is room for the files of a call, and its target may be used. -/
structure CanRun
    (call : GenerateCall)
    (workspace : Workspace) :
    Prop where
  rooms : ∀ file ∈ call.files, workspace.HasRoom (call.request.targetPath.append file.names)
  usable :
    call.force = true ∨
      workspace.tree.IsBare (workspace.absolute call.request.targetPath)

/-- With room for a file below it, a target is open. -/
theorem checkTarget_iff
    {call : GenerateCall}
    {workspace : Workspace}
    (plain : workspace.IsPlain)
    (rooms :
      ∀ file ∈ call.files, workspace.HasRoom (call.request.targetPath.append file.names)) :
    Host.faultless.checkTarget workspace call.request.targetPath call.force = .ok () ↔
      call.force = true ∨
        workspace.tree.IsBare (workspace.absolute call.request.targetPath) := by
  obtain ⟨file, rest, shape, _⟩ := call.projectFiles.startsAtRoot
  have member : file ∈ call.files := by
    rw [shape]
    exact List.mem_cons_self
  have isOpen := (rooms file member).isOpen
  have beginning :
      call.request.targetPath.parts <+: (call.request.targetPath.append file.names).parts :=
    List.prefix_append _ _
  have shorter :
      call.request.targetPath.parts ≠ (call.request.targetPath.append file.names).parts := by
    rw [Path.parts_append]
    simpa using (call.projectFiles.proper file member).notRoot
  exact
    checkTarget_of_isOpen plain (isOpen.of_beginning beginning)
      (isOpen.above _ beginning shorter) call.force

/-- Without links, a call succeeds exactly if it can run. -/
theorem succeeds_iff
    (call : GenerateCall)
    {workspace : Workspace}
    (plain : workspace.IsPlain) :
    (∃ paths, (call.run workspace).outcome = .ok paths) ↔ call.CanRun workspace := by
  have written :=
    writeProjectFiles_succeeds_iff call.targetNames call.projectFiles.toProperFiles plain
  constructor
  · rintro ⟨paths, succeeded⟩
    obtain ⟨checked, _, allWritten⟩ := written_of_succeeded succeeded
    have rooms := written.mp ⟨paths, allWritten⟩
    exact ⟨rooms, (checkTarget_iff plain rooms).mp checked⟩
  · rintro ⟨rooms, usable⟩
    obtain ⟨paths, allWritten⟩ := written.mpr rooms
    have checked := (checkTarget_iff plain rooms).mpr usable
    rcases call.run_cases workspace with ⟨error, refused, _⟩ | ⟨_, _, outcome⟩
    · rw [checked] at refused
      cases refused
    · exact ⟨paths, outcome.trans allWritten⟩

/-- A call could have run before if it can run later. -/
theorem CanRun.of_growsTo
    {call : GenerateCall}
    {before after : Workspace}
    (plain : before.IsPlain)
    (sameDirectory : after.directory = before.directory)
    (grows : GrowsTo before.tree after.tree)
    (canRun : call.CanRun after) :
    call.CanRun before where
  rooms file member := (canRun.rooms file member).of_growsTo plain sameDirectory grows
  usable := by
    refine canRun.usable.imp_right ?_
    intro bare below further
    rw [absolute_congr sameDirectory] at bare
    exact grows.none_of_none (bare below further)

/-- A call can still run after outputs below an unrelated location. -/
theorem CanRun.emitted
    {call : GenerateCall}
    {outputs : List Output}
    {before after : Workspace}
    (emitted : EmittedOnly outputs before after)
    {base : Location}
    (independent : Path.Unrelated (before.absolute call.request.targetPath) base)
    (below : ∀ output ∈ outputs, base <+: output.location)
    (canRun : call.CanRun before) :
    call.CanRun after where
  rooms := by
    intro file member
    refine (canRun.rooms file member).emitted emitted ?_
    intro output isOutput
    obtain ⟨more, shape⟩ := below output isOutput
    have unrelated := independent.append file.names more
    rw [shape, ← absolute_append] at unrelated
    exact ⟨fun above => unrelated.2 above.above, fun above => unrelated.1 above.above⟩
  usable := by
    refine canRun.usable.imp_right ?_
    intro bare further notHere
    rw [absolute_congr emitted.directory]
    have notAbove :
        ∀ output ∈ outputs,
          ¬before.absolute call.request.targetPath ++ further <+: output.location := by
      intro output isOutput above
      obtain ⟨more, shape⟩ := below output isOutput
      rw [← shape] at above
      exact independent.not_prefix_append more ((List.prefix_append _ _).trans above)
    rcases emitted.changes (before.absolute call.request.targetPath ++ further) with
      same | ⟨output, isOutput, here, _⟩ | ⟨_, _, output, isOutput, above⟩
    · rw [same]
      exact bare further notHere
    · exact (notAbove output isOutput (here ▸ List.prefix_rfl)).elim
    · exact (notAbove output isOutput above.above).elim

/-- The outputs of a call stand below its target. -/
theorem prefix_of_mem_outputs
    {call : GenerateCall}
    {workspace : Workspace}
    {output : Output}
    (member : output ∈ call.outputs workspace) :
    workspace.absolute call.request.targetPath <+: output.location := by
  obtain ⟨file, _, rfl⟩ := List.mem_map.mp member
  rw [Project.File.output, absolute_append]
  exact List.prefix_append _ _

/-- Two calls with unrelated targets that succeed one after the other emit all they have. -/
theorem emitted_both
    {first second : GenerateCall}
    {before : Workspace}
    (plain : before.IsPlain)
    (independent :
      Path.Unrelated (before.absolute first.request.targetPath)
        (before.absolute second.request.targetPath))
    {firstPaths secondPaths : List Path}
    (firstDone : (first.run before).outcome = .ok firstPaths)
    (secondDone : (second.run (first.run before).workspace).outcome = .ok secondPaths) :
    EmittedOnly (first.outputs before ++ second.outputs before) before
        (second.run (first.run before).workspace).workspace ∧
      (second.run (first.run before).workspace).workspace.Holds
        (first.outputs before ++ second.outputs before) := by
  have ofFirst := first.emittedOnly_run plain.linkFree
  have middleLinkFree := ofFirst.linkFree plain.linkFree
  have ofSecond := second.emittedOnly_run middleLinkFree
  have secondHolds := holds_of_succeeded middleLinkFree secondDone
  rw [outputs_congr ofFirst.directory] at ofSecond secondHolds
  refine
    ⟨(ofFirst.mono (List.subset_append_left _ _)).trans
      (ofSecond.mono (List.subset_append_right _ _)), ?_⟩
  intro output member
  rcases List.mem_append.mp member with isFirst | isSecond
  · refine ofSecond.get?_of_some (holds_of_succeeded plain.linkFree firstDone output isFirst) ?_
    intro other isOther same
    obtain ⟨more, shape⟩ := prefix_of_mem_outputs isOther
    refine independent.not_prefix_append more ?_
    rw [shape, ← same]
    exact prefix_of_mem_outputs isFirst
  · exact secondHolds output isSecond

end GenerateCall

open GenerateCall

/--
Without links, two generations into targets of which neither is inside the other
and that succeed one after the other succeed in the other order too, with the same
paths, and end with the same entries.
-/
theorem independent_runs_commute
    {before : Workspace}
    (plain : before.IsPlain)
    (first second : GenerateCall)
    (independent :
      Path.Unrelated (before.absolute first.request.targetPath)
        (before.absolute second.request.targetPath))
    {firstPaths secondPaths : List Path}
    (firstDone : (first.run before).outcome = .ok firstPaths)
    (secondDone : (second.run (first.run before).workspace).outcome = .ok secondPaths) :
    (second.run before).outcome = .ok secondPaths ∧
      (first.run (second.run before).workspace).outcome = .ok firstPaths ∧
        (first.run (second.run before).workspace).workspace.SameEntries
          (second.run (first.run before).workspace).workspace := by
  have ofFirst := first.emittedOnly_run plain.linkFree
  have ofSecond := second.emittedOnly_run plain.linkFree
  -- The second call could have run at once, because the first one made no room for it.
  have secondCan : second.CanRun before :=
    ((second.succeeds_iff (plain.emitted ofFirst)).mp ⟨_, secondDone⟩).of_growsTo plain
      ofFirst.directory ofFirst.grows
  -- The first call can still run afterwards, because the second one takes no room from it.
  have firstCan : first.CanRun (second.run before).workspace :=
    ((first.succeeds_iff plain).mp ⟨_, firstDone⟩).emitted ofSecond independent
      (fun output member => prefix_of_mem_outputs member)
  obtain ⟨paths, secondFirst⟩ := (second.succeeds_iff plain).mpr secondCan
  obtain ⟨others, firstSecond⟩ :=
    (first.succeeds_iff (plain.emitted ofSecond)).mpr firstCan
  obtain rfl : paths = secondPaths :=
    (paths_of_succeeded secondFirst).trans (paths_of_succeeded secondDone).symm
  obtain rfl : others = firstPaths :=
    (paths_of_succeeded firstSecond).trans (paths_of_succeeded firstDone).symm
  obtain ⟨inOrder, heldInOrder⟩ := emitted_both plain independent firstDone secondDone
  obtain ⟨swapped, heldSwapped⟩ :=
    emitted_both plain independent.symm secondFirst firstSecond
  have sameOutputs :
      second.outputs before ++ first.outputs before ⊆
        first.outputs before ++ second.outputs before :=
    List.append_subset.mpr
      ⟨List.subset_append_right _ _, List.subset_append_left _ _⟩
  have sameOutputsBack :
      first.outputs before ++ second.outputs before ⊆
        second.outputs before ++ first.outputs before :=
    List.append_subset.mpr
      ⟨List.subset_append_right _ _, List.subset_append_left _ _⟩
  exact
    ⟨secondFirst, firstSecond,
      EmittedOnly.sameEntries plain.wellFormed (swapped.mono sameOutputs) inOrder
        (heldSwapped.mono sameOutputsBack) heldInOrder⟩

/-- A call into a directory beside the target of `kotlinCall`. -/
def neighbourCall : GenerateCall where
  fields :=
    { sampleFields with
      targetPath := some (.text "way/other".toList)
      language := some (.text "java".toList) }
  request :=
    { sampleRequest with
      targetPath := ⟨.relative, ["way".toList, "other".toList]⟩
      language := .java }
  accepted := rfl
  noParent := by decide
  toolchain := Toolchain.default
  force := true

theorem isPlain_bareWorkspace :
    bareWorkspace.IsPlain where
  wellFormed := wellFormed_of_entries (by decide)
  linkFree := linkFree_bareWorkspace
  inside := rfl

/-- Two targets in one missing directory: either call may be the one that makes it. -/
theorem independent_runs_commute_neighbours :
    ∃ firstPaths secondPaths,
      (kotlinCall.run bareWorkspace).outcome = .ok firstPaths ∧
        (neighbourCall.run (kotlinCall.run bareWorkspace).workspace).outcome =
            .ok secondPaths ∧
          (neighbourCall.run bareWorkspace).outcome = .ok secondPaths ∧
            (kotlinCall.run (neighbourCall.run bareWorkspace).workspace).outcome =
                .ok firstPaths ∧
              (kotlinCall.run (neighbourCall.run bareWorkspace).workspace).workspace.SameEntries
                (neighbourCall.run (kotlinCall.run bareWorkspace).workspace).workspace := by
  obtain ⟨firstPaths, first⟩ := succeeds_kotlinCall
  have aloneOk : (neighbourCall.run bareWorkspace).outcome.isOk = true := by
    rw [run_eq, files_eq_zipWith]
    decide +kernel
  obtain ⟨_, alone⟩ := exists_ok_of_isOk aloneOk
  have ofFirst := kotlinCall.emittedOnly_run linkFree_bareWorkspace
  have canRun : neighbourCall.CanRun (kotlinCall.run bareWorkspace).workspace :=
    ((neighbourCall.succeeds_iff isPlain_bareWorkspace).mp ⟨_, alone⟩).emitted ofFirst
      (by decide) (fun _ member => prefix_of_mem_outputs member)
  obtain ⟨secondPaths, second⟩ :=
    (neighbourCall.succeeds_iff (isPlain_bareWorkspace.emitted ofFirst)).mpr canRun
  exact
    ⟨firstPaths, secondPaths, first, second,
      independent_runs_commute isPlain_bareWorkspace kotlinCall neighbourCall (by decide)
        first second⟩

end ModSkeleton
