import ModSkeleton.Proofs.Generation.Target

namespace ModSkeleton

open FileTree Workspace

/-!
# What a generation may change

Without links and steps up, the outputs of a generation stand where their paths
say, whatever the tree. `Emitted` says that nothing but some outputs was written, and
that nothing else appeared but directories above those that were reached. It holds of
writing one file, hence of writing files in order, on every host: a run writes all of its
outputs, or it stops at one of them (`Host.StopsAt`), of which only a beginning may be left.
Without faults, a generation emits nothing but outputs, whether it succeeds or not.
-/

/-- A location on the way to another one. -/
structure IsAncestor
    (location place : Location) :
    Prop where
  above : location <+: place
  proper : location ≠ place

/-- A file that a generation is to write: where it stands and what it holds. -/
structure Output where
  location : Location
  content : Text.Bytes
  deriving Repr, DecidableEq

/-- A beginning of an output. -/
def Output.cut
    (output : Output)
    (count : Nat) :
    Output :=
  ⟨output.location, output.content.take count⟩

/-- Everything that is emitted is there. -/
def Workspace.Holds
    (workspace : Workspace)
    (outputs : List Output) :
    Prop :=
  ∀ output ∈ outputs, workspace.tree.get? output.location = some (.file output.content)

theorem Workspace.Holds.mono
    {outputs fewer : List Output}
    (subset : fewer ⊆ outputs)
    {workspace : Workspace}
    (holds : workspace.Holds outputs) :
    workspace.Holds fewer :=
  fun output member => holds output (subset member)

/--
Between two workspaces, only some outputs were written, and nothing else was done
but that directories appeared on the way to those that were reached.
-/
structure Emitted
    (written reached : List Output)
    (before after : Workspace) :
    Prop where
  directory : after.directory = before.directory
  wellFormed : before.tree.WellFormed → after.tree.WellFormed
  grows : GrowsTo before.tree after.tree
  changes :
    ∀ location,
      after.tree.get? location = before.tree.get? location ∨
        (∃ output ∈ written,
          location = output.location ∧
            after.tree.get? location = some (.file output.content)) ∨
        before.tree.get? location = none ∧
          after.tree.get? location = some .directory ∧
            ∃ output ∈ reached, IsAncestor location output.location

/-- Only given outputs were written, and they are all that may have been reached. -/
abbrev EmittedOnly
    (outputs : List Output) :
    Workspace → Workspace → Prop :=
  Emitted outputs outputs

namespace Emitted

theorem refl
    (written reached : List Output)
    (workspace : Workspace) :
    Emitted written reached workspace workspace where
  directory := rfl
  wellFormed wellFormed := wellFormed
  grows := .refl _
  changes _ := .inl rfl

theorem mono
    {written reached moreWritten moreReached : List Output}
    (areWritten : written ⊆ moreWritten)
    (areReached : reached ⊆ moreReached)
    {before after : Workspace}
    (emitted : Emitted written reached before after) :
    Emitted moreWritten moreReached before after where
  directory := emitted.directory
  wellFormed := emitted.wellFormed
  grows := emitted.grows
  changes location := by
    rcases emitted.changes location with
      same | ⟨output, member, here⟩ | ⟨absent, added, output, member, above⟩
    · exact .inl same
    · exact .inr (.inl ⟨output, areWritten member, here⟩)
    · exact .inr (.inr ⟨absent, added, output, areReached member, above⟩)

theorem trans
    {written reached : List Output}
    {first second third : Workspace}
    (early : Emitted written reached first second)
    (late : Emitted written reached second third) :
    Emitted written reached first third where
  directory := late.directory.trans early.directory
  wellFormed wellFormed := late.wellFormed (early.wellFormed wellFormed)
  grows := early.grows.trans late.grows
  changes location := by
    rcases late.changes location with same | written | ⟨absent, added⟩
    · rw [same]
      exact early.changes location
    · exact .inr (.inl written)
    · exact .inr (.inr ⟨early.grows.none_of_none absent, added⟩)

/-- Outputs are files, so no link appears. -/
theorem linkFree
    {written reached : List Output}
    {before after : Workspace}
    (emitted : Emitted written reached before after)
    (linkFree : before.tree.LinkFree) :
    after.tree.LinkFree := by
  intro location target found
  rcases emitted.changes location with same | ⟨_, _, _, here⟩ | ⟨_, added, _⟩
  · rw [same] at found
    exact linkFree location target found
  · rw [here] at found
    cases found
  · rw [added] at found
    cases found

/-- What stood before and is no output is as it was. -/
theorem get?_of_some
    {written reached : List Output}
    {before after : Workspace}
    (emitted : Emitted written reached before after)
    {location : Location}
    {entry : Entry}
    (stood : before.tree.get? location = some entry)
    (noOutput : ∀ output ∈ written, location ≠ output.location) :
    after.tree.get? location = some entry := by
  rcases emitted.changes location with same | ⟨output, member, here, _⟩ | ⟨absent, _⟩
  · exact same.trans stood
  · exact (noOutput output member here).elim
  · rw [stood] at absent
    cases absent

/-- One output after another: what was emitted first stands unless it is written over. -/
theorem cons
    {output : Output}
    {written reached : List Output}
    {first second third : Workspace}
    (early : Emitted [output] [output] first second)
    (stood : second.Holds [output])
    (late : Emitted written reached second third)
    (holds : third.Holds written)
    (apart : ∀ other ∈ written, output.location ≠ other.location) :
    Emitted (output :: written) (output :: reached) first third ∧
      third.Holds (output :: written) := by
  refine ⟨(early.mono (by simp) (by simp)).trans (late.mono (by simp) (by simp)), ?_⟩
  intro other member
  rcases List.mem_cons.mp member with rfl | inRest
  · exact late.get?_of_some (stood _ (List.mem_singleton_self _)) apart
  · exact holds other inRest

/-- Directories made on the way to an output are all that it takes to begin with it. -/
theorem of_madeAlong
    {path : Path}
    {before after : Workspace}
    (made : MadeAlong path before after)
    (linkFree : before.tree.LinkFree)
    (areNames : AreNames path.parts)
    {output : Output}
    (above : IsAncestor (before.absolute path) output.location) :
    Emitted [] [output] before after where
  directory := made.directory
  wellFormed := made.wellFormed
  grows := made.adds.growsTo
  changes location := by
    rcases made.adds location with same | ⟨absent, added, upper, beginning, leads⟩
    · exact .inl same
    · have upperNames : AreNames (⟨path.root, upper⟩ : Path).parts :=
        fun name member => areNames name (beginning.subset member)
      have here : location = before.absolute ⟨path.root, upper⟩ := by
        rw [← absolute_congr made.directory]
        exact location_eq_absolute (made.linkFree linkFree) upperNames leads
      have onWay : location <+: before.absolute path := by
        rw [here]
        exact (List.prefix_append_right_inj _).mpr beginning
      refine .inr (.inr ⟨absent, added, output, List.mem_singleton_self output, ?_⟩)
      refine ⟨onWay.trans above.above, ?_⟩
      rintro rfl
      exact above.proper (above.above.eq_of_length_le onWay.length_le)

/-- What is put where a path can be written is an output, and it is there afterwards. -/
theorem of_put
    {before : Workspace}
    (linkFree : before.tree.LinkFree)
    {path : Path}
    (areNames : AreNames path.parts)
    {place : Place}
    (located : before.locate true path = .ok place)
    (writable : IsWritable place)
    (content : Text.Bytes) :
    Emitted [⟨before.absolute path, content⟩] [] before
        (before.put place.location (.file content)) ∧
      (before.put place.location (.file content)).Holds [⟨before.absolute path, content⟩] := by
  have here := location_eq_absolute linkFree areNames located
  have holds := get?_put_of_writable located writable (.file content)
  have wellFormed :
      before.tree.WellFormed →
      (before.put place.location (.file content)).tree.WellFormed :=
    fun wellFormed => wellFormed_put_of_writable wellFormed located writable content
  have grows := growsTo_put_of_writable located writable content
  rw [here] at holds wellFormed grows ⊢
  refine ⟨⟨rfl, wellFormed, grows, ?_⟩, by simpa [Holds] using holds⟩
  intro location
  by_cases isHere : location = before.absolute path
  · subst isHere
    exact .inr (.inl ⟨_, List.mem_singleton_self _, rfl, holds⟩)
  · exact .inl (get?_insert_of_ne before.tree isHere _)

end Emitted

theorem EmittedOnly.mono
    {outputs larger : List Output}
    (subset : outputs ⊆ larger)
    {before after : Workspace}
    (emitted : EmittedOnly outputs before after) :
    EmittedOnly larger before after :=
  Emitted.mono subset subset emitted

/-- The output of a file below a root. -/
def Project.File.output
    (file : Project.File)
    (workspace : Workspace)
    (root : Path) :
    Output :=
  ⟨workspace.absolute (root.append file.names), Text.encode file.content⟩

theorem Project.File.output_congr
    {first second : Workspace}
    (same : first.directory = second.directory)
    (root : Path)
    (file : Project.File) :
    file.output first root = file.output second root := by
  simp only [output, absolute_congr same]

/-- Unrelated files have outputs that stand apart from each other. -/
theorem Project.File.output_apart
    {file other : Project.File}
    (apart : Path.Unrelated file.names other.names)
    (workspace : Workspace)
    (root : Path) :
    (file.output workspace root).location ≠ (other.output workspace root).location ∧
      ¬IsAncestor (file.output workspace root).location
        (other.output workspace root).location := by
  have unrelated := apart.append_left (workspace.absolute root)
  simp only [output, absolute_append]
  exact ⟨fun same => unrelated.1 (same ▸ List.prefix_rfl), fun above => unrelated.1 above.above⟩

/--
What is left of an output that could not be written: nothing new, or a beginning of it if the
device failed while it was written. Then that is what is reported.
-/
inductive Host.Leftover
    (host : Host)
    (path : Path)
    (output : Output)
    (error : GenerateError) :
    List Output → Prop where
  | nothing : Leftover host path output error []
  | beginning
      {tree : FileTree}
      {count : Nat}
      {fault : DeviceFault}
      (failed :
        host.device.writeFile tree output.location output.content = some (count, fault))
      (reported : error = .project (.fileSystem path fault.message)) :
      Leftover host path output error [output.cut count]

theorem Host.Leftover.location
    {host : Host}
    {path : Path}
    {output : Output}
    {error : GenerateError}
    {partly : List Output}
    (leftover : host.Leftover path output error partly) :
    ∀ other ∈ partly, other.location = output.location := by
  intro other member
  cases leftover with
  | nothing => cases member
  | beginning => rw [List.mem_singleton.mp member, Output.cut]

/--
Writing files below a root stopped at one of them: those before it were written, of that one
there may be a leftover, and no other was reached.
-/
structure Host.StopsAt
    (host : Host)
    (root : Path)
    (written : List Project.File)
    (file : Project.File)
    (error : GenerateError)
    (before after : Workspace) :
    Prop where
  attempt :
    ∃ current left, host.writeProjectFile root file current = (left, .error error)
  leaves :
    ∃ partly,
      host.Leftover (root.append file.names) (file.output before root) error partly ∧
        Emitted ((written.map fun other => other.output before root) ++ partly)
            ((written.map fun other => other.output before root) ++ [file.output before root])
            before after ∧
          after.Holds ((written.map fun other => other.output before root) ++ partly)

/-- A run that stops after a file was written stops there with one more file written. -/
theorem Host.StopsAt.cons
    {host : Host}
    {root : Path}
    {first file : Project.File}
    {written : List Project.File}
    {error : GenerateError}
    {before middle after : Workspace}
    (emitted : EmittedOnly [first.output before root] before middle)
    (holds : middle.Holds [first.output before root])
    (apart : ∀ other ∈ written ++ [file], Path.Unrelated first.names other.names)
    (stops : host.StopsAt root written file error middle after) :
    host.StopsAt root (first :: written) file error before after where
  attempt := stops.attempt
  leaves := by
    obtain ⟨partly, leftover, onward, rest⟩ := stops.leaves
    have sameOutput :
        ∀ other : Project.File, other.output middle root = other.output before root :=
      Project.File.output_congr emitted.directory root
    simp only [sameOutput] at leftover onward rest
    refine ⟨partly, leftover, emitted.cons holds onward rest ?_⟩
    intro output member
    rcases List.mem_append.mp member with inWritten | inPartly
    · obtain ⟨other, isOther, rfl⟩ := List.mem_map.mp inWritten
      exact (Project.File.output_apart (apart other (List.mem_append_left _ isOther))
        before root).1
    · rw [leftover.location output inPartly]
      exact (Project.File.output_apart (apart file (by simp)) before root).1

section

variable
    {root : Path}
    (rootNames : AreNames root.parts)

include rootNames

theorem areNames_append
    {names : List Text}
    (areNames : AreNames names) :
    AreNames (root.append names).parts := by
  intro name member
  rcases List.mem_append.mp member with inRoot | inNames
  · exact rootNames name inRoot
  · exact areNames name inNames

/-- The folder of a file is made on the way to it. -/
theorem emitted_ensureDirectories
    (host : Host)
    {file : Project.File}
    (proper : file.IsProper)
    {workspace : Workspace}
    (linkFree : workspace.tree.LinkFree) :
    Emitted [] [file.output workspace root] workspace
      (host.ensureDirectories workspace (root.append file.names.dropLast)).1 := by
  have folderNames : AreNames file.names.dropLast :=
    fun name member => proper.areNames name (List.dropLast_subset file.names member)
  have above :
      IsAncestor (workspace.absolute (root.append file.names.dropLast))
        (file.output workspace root).location := by
    rw [Project.File.output, absolute_append, absolute_append]
    refine ⟨(List.prefix_append_right_inj _).mpr (List.dropLast_prefix file.names), ?_⟩
    intro same
    have shorter := congrArg List.length (List.append_cancel_left same)
    have positive := List.length_pos_iff.mpr proper.notRoot
    rw [List.length_dropLast] at shorter
    omega
  have made := madeAlong_ensureDirectories host workspace (root.append file.names.dropLast)
  exact Emitted.of_madeAlong made linkFree (areNames_append rootNames folderNames) above

/-- Writing one file stops there and may leave a beginning of it, or emits all of it. -/
theorem emitted_writeProjectFile
    (host : Host)
    {file : Project.File}
    (proper : file.IsProper)
    {workspace : Workspace}
    (linkFree : workspace.tree.LinkFree) :
    (∃ left error,
      host.writeProjectFile root file workspace = (left, .error error) ∧
        host.StopsAt root [] file error workspace left) ∨
      ∃ left,
        host.writeProjectFile root file workspace = (left, .ok (root.append file.names)) ∧
          EmittedOnly [file.output workspace root] workspace left ∧
            left.Holds [file.output workspace root] := by
  have folders := emitted_ensureDirectories rootNames host proper linkFree
  rcases writeProjectFile_cases host root proper.notRoot workspace with
    ⟨_, result⟩ | ⟨grown, fault, ensured, result⟩ |
      ⟨grown, left, fault, ensured, failed, result⟩ | ⟨grown, written, ensured, wrote, result⟩
  · exact .inl ⟨_, _, result, ⟨_, _, result⟩, [], .nothing, .refl _ _ workspace, by simp [Holds]⟩
  · rw [ensured] at folders
    exact .inl ⟨_, _, result, ⟨_, _, result⟩, [], .nothing, folders, by simp [Holds]⟩
  · rw [ensured] at folders
    have grownLinkFree := folders.linkFree linkFree
    have areNames := areNames_append rootNames proper.areNames
    rcases write_cases host grown (root.append file.names) file.content with
      ⟨reason, same⟩ | ⟨place, located, writable, ⟨count, reason, asked, same⟩ | same⟩
    · rw [failed] at same
      cases same
      exact .inl ⟨_, _, result, ⟨_, _, result⟩, [], .nothing, folders, by simp [Holds]⟩
    -- The file was opened, so a beginning of the text is there.
    · rw [failed] at same
      cases same
      obtain ⟨writes, holds⟩ :=
        Emitted.of_put grownLinkFree areNames located writable
          ((Text.encode file.content).take count)
      have here := location_eq_absolute grownLinkFree areNames located
      rw [here] at asked
      rw [absolute_congr folders.directory] at writes holds asked
      refine .inl ⟨_, _, result, ⟨_, _, result⟩, [(file.output workspace root).cut count],
        .beginning asked rfl, ?_, holds⟩
      exact (folders.mono (by simp) (by simp)).trans (writes.mono (by simp [Output.cut,
        Project.File.output]) (by simp))
    · rw [failed] at same
      cases same
  · rw [ensured] at folders
    obtain ⟨place, located, writable, rfl⟩ := write_eq_ok wrote
    obtain ⟨writes, holds⟩ :=
      Emitted.of_put (folders.linkFree linkFree) (areNames_append rootNames proper.areNames)
        located writable (Text.encode file.content)
    rw [absolute_congr folders.directory] at writes holds
    refine .inr ⟨_, result, ?_, holds⟩
    exact (folders.mono (by simp) (by simp)).trans (writes.mono (by simp [Project.File.output])
      (by simp))

/-- Writing files in order stops at one of them, or emits them all. -/
theorem emitted_writeProjectFiles
    (host : Host)
    {files : List Project.File}
    (properFiles : ProperFiles files)
    {workspace : Workspace}
    (linkFree : workspace.tree.LinkFree) :
    (∃ error written file later,
      (host.writeProjectFiles root files workspace).2 = .error error ∧
        files = written ++ file :: later ∧
          host.StopsAt root written file error workspace
            (host.writeProjectFiles root files workspace).1) ∨
      (∃ paths, (host.writeProjectFiles root files workspace).2 = .ok paths) ∧
        EmittedOnly (files.map fun file => file.output workspace root) workspace
            (host.writeProjectFiles root files workspace).1 ∧
          (host.writeProjectFiles root files workspace).1.Holds
            (files.map fun file => file.output workspace root) := by
  induction files generalizing workspace with
  | nil => exact .inr ⟨⟨[], rfl⟩, .refl _ _ workspace, by simp [Holds]⟩
  | cons file files inductionHypothesis =>
      obtain ⟨apart, restApart⟩ := List.pairwise_cons.mp properFiles.apart
      have properRest : ProperFiles files :=
        ⟨fun other member => properFiles.proper other (List.mem_cons_of_mem _ member),
          restApart⟩
      rcases emitted_writeProjectFile rootNames host
          (properFiles.proper file List.mem_cons_self) linkFree with
        ⟨left, error, result, stops⟩ | ⟨left, result, emitted, holds⟩
      · rw [(writeProjectFiles_of_error result files).1]
        exact .inl ⟨error, [], file, files, rfl, rfl, stops⟩
      · rw [(writeProjectFiles_of_ok result files).1]
        rcases inductionHypothesis properRest (emitted.linkFree linkFree) with
          ⟨error, written, other, later, failed, rfl, stops⟩ | ⟨⟨paths, succeeded⟩, rest, restHolds⟩
        · refine .inl ⟨error, file :: written, other, later, by rw [failed]; rfl, rfl, ?_⟩
          refine stops.cons emitted holds (fun next member => apart next ?_)
          rcases List.mem_append.mp member with isWritten | isOther
          · exact List.mem_append_left _ isWritten
          · rw [List.mem_singleton.mp isOther]
            exact List.mem_append_right _ List.mem_cons_self
        · have sameOutput :
              ∀ other : Project.File, other.output left root = other.output workspace root :=
            Project.File.output_congr emitted.directory root
          simp only [sameOutput] at rest restHolds
          refine .inr ⟨⟨_, by rw [succeeded]; rfl⟩, emitted.cons holds rest restHolds ?_⟩
          intro output member
          obtain ⟨other, isOther, rfl⟩ := List.mem_map.mp member
          exact (Project.File.output_apart (apart other isOther) workspace root).1

/-- Without faults, files are emitted only, also if writing them stops at one. -/
theorem emittedOnly_writeProjectFiles
    {files : List Project.File}
    (properFiles : ProperFiles files)
    {workspace : Workspace}
    (linkFree : workspace.tree.LinkFree) :
    EmittedOnly (files.map fun file => file.output workspace root) workspace
      (Host.faultless.writeProjectFiles root files workspace).1 := by
  rcases emitted_writeProjectFiles rootNames Host.faultless properFiles linkFree with
    ⟨error, written, file, later, _, rfl, stops⟩ | ⟨_, emitted, _⟩
  · obtain ⟨partly, leftover, emitted, _⟩ := stops.leaves
    cases leftover with
    | nothing => exact emitted.mono (by simp) (by simp)
    | beginning failed _ => cases failed
  · exact emitted

/-- Files that are all written are all there: none is written over another. -/
theorem holds_writeProjectFiles
    {host : Host}
    {files : List Project.File}
    (properFiles : ProperFiles files)
    {workspace : Workspace}
    (linkFree : workspace.tree.LinkFree)
    {paths : List Path}
    (succeeded : (host.writeProjectFiles root files workspace).2 = .ok paths) :
    (host.writeProjectFiles root files workspace).1.Holds
      (files.map fun file => file.output workspace root) := by
  rcases emitted_writeProjectFiles rootNames host properFiles linkFree with
    ⟨error, _, _, _, failed, _⟩ | ⟨_, _, holds⟩
  · rw [failed] at succeeded
    cases succeeded
  · exact holds

end

/-- A target is refused and nothing is done, or files are written in order. -/
theorem emit_cases
    (host : Host)
    (workspace : Workspace)
    (root : Path)
    (files : List Project.File)
    (force : Bool) :
    (∃ error,
      host.checkTarget workspace root force = .error error ∧
        host.emit workspace root files force none = ⟨workspace, .error (.project error), []⟩) ∨
      host.checkTarget workspace root force = .ok () ∧
        (host.emit workspace root files force none).workspace =
            (host.writeProjectFiles root files workspace).1 ∧
          (host.emit workspace root files force none).outcome =
            (host.writeProjectFiles root files workspace).2 := by
  cases checked : host.checkTarget workspace root force with
  | error error => exact .inl ⟨error, rfl, emit_of_target_refused checked files none⟩
  | ok value =>
      rw [emit_of_target_accepted checked files]
      exact .inr ⟨rfl, rfl, rfl⟩

/--
A generation that is asked for: an accepted request whose target path has no step
up, the versions to use, and whether files may be overwritten.
-/
structure GenerateCall where
  fields : Request.Fields
  request : Request
  accepted : Request.ofFields fields = .ok request
  noParent : Path.parentName ∉ request.targetPath.parts
  toolchain : Toolchain
  force : Bool

namespace GenerateCall

/-- Do what a call asks for. -/
def run
    (call : GenerateCall)
    (workspace : Workspace) :
    Generation :=
  generate workspace call.request.brief call.toolchain.settings call.force none

/-- The files that a call renders; proofs go by `files_eq` and never evaluate them. -/
@[irreducible]
def files
    (call : GenerateCall) :
    List Project.File :=
  (Project.render call.request.brief call.toolchain.settings).toOption.getD []

/-- The outputs of a call, whether it comes to write them or not. -/
def outputs
    (call : GenerateCall)
    (workspace : Workspace) :
    List Output :=
  call.files.map fun file => file.output workspace call.request.targetPath

theorem files_eq
    (call : GenerateCall) :
    call.files = Project.filesOf call.request call.toolchain := by
  unfold files
  rw [Project.render_eq]
  exact Option.getD_some

theorem names_files
    (call : GenerateCall) :
    call.files.map Project.File.names = Project.fileNames call.request := by
  rw [files_eq]
  exact Project.names_filesOf _ _ (Request.named_of_ofFields call.accepted)

theorem files_eq_zipWith
    (call : GenerateCall) :
    call.files =
      List.zipWith Project.File.mk (Project.fileNames call.request)
        ((Project.filesOf call.request call.toolchain).map Project.File.content) := by
  rw [files_eq]
  exact Project.filesOf_eq_zipWith _ _ (Request.named_of_ofFields call.accepted)

/-- Every call renders to seven files. -/
theorem render_eq_files
    (call : GenerateCall) :
    Project.render call.request.brief call.toolchain.settings = .ok call.files ∧
      call.files.length = 7 := by
  rw [files_eq]
  exact ⟨Project.render_eq _ _, Project.length_filesOf _ _⟩

theorem outputs_congr
    {first second : Workspace}
    (same : first.directory = second.directory)
    (call : GenerateCall) :
    call.outputs first = call.outputs second :=
  List.map_congr_left (fun file _ => Project.File.output_congr same _ file)

theorem targetNames
    (call : GenerateCall) :
    AreNames call.request.targetPath.parts :=
  Request.areNames_of_ofFields call.accepted call.noParent

theorem projectFiles
    (call : GenerateCall) :
    ProjectFiles call.files := by
  rw [files_eq]
  exact projectFiles_filesOf (Request.named_of_ofFields call.accepted) call.toolchain

theorem run_eq
    (call : GenerateCall)
    (workspace : Workspace) :
    call.run workspace =
      Host.faultless.emit workspace call.request.targetPath call.files call.force none := by
  rw [run, generate_eq, files_eq]

/-- A call is refused and does nothing, or writes its files in order. -/
theorem run_cases
    (call : GenerateCall)
    (workspace : Workspace) :
    (∃ error,
      Host.faultless.checkTarget workspace call.request.targetPath call.force = .error error ∧
        call.run workspace = ⟨workspace, .error (.project error), []⟩) ∨
      Host.faultless.checkTarget workspace call.request.targetPath call.force = .ok () ∧
        (call.run workspace).workspace =
            (Host.faultless.writeProjectFiles call.request.targetPath call.files workspace).1 ∧
          (call.run workspace).outcome =
            (Host.faultless.writeProjectFiles call.request.targetPath call.files workspace).2 := by
  rw [run_eq]
  exact emit_cases Host.faultless workspace call.request.targetPath call.files call.force

/-- A call emits its outputs only, whether it succeeds or not. -/
theorem emittedOnly_run
    (call : GenerateCall)
    {workspace : Workspace}
    (linkFree : workspace.tree.LinkFree) :
    EmittedOnly (call.outputs workspace) workspace (call.run workspace).workspace := by
  rcases call.run_cases workspace with ⟨error, _, refused⟩ | ⟨_, left, _⟩
  · rw [refused]
    exact .refl _ _ workspace
  · rw [left, outputs]
    exact emittedOnly_writeProjectFiles call.targetNames call.projectFiles.toProperFiles linkFree

/-- A call that succeeds was not refused, and wrote all of its files. -/
theorem written_of_succeeded
    {call : GenerateCall}
    {workspace : Workspace}
    {paths : List Path}
    (succeeded : (call.run workspace).outcome = .ok paths) :
    Host.faultless.checkTarget workspace call.request.targetPath call.force = .ok () ∧
      (call.run workspace).workspace =
          (Host.faultless.writeProjectFiles call.request.targetPath call.files workspace).1 ∧
        (Host.faultless.writeProjectFiles call.request.targetPath call.files workspace).2 =
          .ok paths := by
  rcases call.run_cases workspace with ⟨error, _, refused⟩ | ⟨checked, left, outcome⟩
  · rw [refused] at succeeded
    cases succeeded
  · exact ⟨checked, left, outcome.symm.trans succeeded⟩

/-- A call that succeeds reports the paths of its files in order. -/
theorem paths_of_succeeded
    {call : GenerateCall}
    {workspace : Workspace}
    {paths : List Path}
    (succeeded : (call.run workspace).outcome = .ok paths) :
    paths = call.files.map fun file => call.request.targetPath.append file.names :=
  (writeProjectFiles_of_outcome_ok call.projectFiles.proper
    (written_of_succeeded succeeded).2.2).2

/-- The outputs of a call that succeeds are there. -/
theorem holds_of_succeeded
    {call : GenerateCall}
    {workspace : Workspace}
    (linkFree : workspace.tree.LinkFree)
    {paths : List Path}
    (succeeded : (call.run workspace).outcome = .ok paths) :
    (call.run workspace).workspace.Holds (call.outputs workspace) := by
  obtain ⟨_, left, allWritten⟩ := written_of_succeeded succeeded
  rw [left, outputs]
  exact holds_writeProjectFiles call.targetNames call.projectFiles.toProperFiles linkFree
    allWritten

end GenerateCall

end ModSkeleton
