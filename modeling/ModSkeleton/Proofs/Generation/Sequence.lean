import ModSkeleton.Proofs.Generation.Emission

namespace ModSkeleton

open FileTree Workspace

/-!
# Sequences of generations

One call after another, each succeeding, failing half-way or being refused, into
targets that may be equal or nested. Every call keeps what is there, so a run as a
whole emits nothing but the outputs of its calls, and what a call has written
stands until a later one has an output in the same place.
-/

namespace GenerateCall

/-- Do what calls ask for, one after another. -/
def runAll
    (calls : List GenerateCall)
    (workspace : Workspace) :
    Workspace :=
  calls.foldl (fun current call => (call.run current).workspace) workspace

/-- The outputs of all calls of a sequence. -/
def allOutputs
    (calls : List GenerateCall)
    (workspace : Workspace) :
    List Output :=
  calls.flatMap fun call => call.outputs workspace

theorem runAll_append
    (earlier later : List GenerateCall)
    (workspace : Workspace) :
    runAll (earlier ++ later) workspace = runAll later (runAll earlier workspace) :=
  List.foldl_append

theorem runAll_nil
    (workspace : Workspace) :
    runAll [] workspace = workspace :=
  rfl

theorem runAll_cons
    (call : GenerateCall)
    (later : List GenerateCall)
    (workspace : Workspace) :
    runAll (call :: later) workspace = runAll later (call.run workspace).workspace := by
  rw [runAll, List.foldl_cons, runAll]

theorem allOutputs_congr
    {first second : Workspace}
    (same : first.directory = second.directory)
    (calls : List GenerateCall) :
    allOutputs calls first = allOutputs calls second := by
  simp only [allOutputs, outputs_congr same]

/-- A run emits only outputs of its calls. -/
theorem emittedOnly_runAll
    (calls : List GenerateCall)
    {workspace : Workspace}
    (linkFree : workspace.tree.LinkFree) :
    EmittedOnly (allOutputs calls workspace) workspace (runAll calls workspace) := by
  induction calls generalizing workspace with
  | nil => exact .refl _ _ workspace
  | cons call calls inductionHypothesis =>
      have ofCall := call.emittedOnly_run linkFree
      have ofRest := inductionHypothesis (ofCall.linkFree linkFree)
      rw [allOutputs_congr ofCall.directory] at ofRest
      rw [runAll_cons, allOutputs, List.flatMap_cons]
      exact (ofCall.mono (List.subset_append_left _ _)).trans
        (ofRest.mono (List.subset_append_right _ _))

/-- What a call has written stands as long as no later call has an output there. -/
theorem get?_runAll_of_written
    (earlier : List GenerateCall)
    {call : GenerateCall}
    {later : List GenerateCall}
    {before : Workspace}
    (linkFree : before.tree.LinkFree)
    {paths : List Path}
    (succeeded : (call.run (runAll earlier before)).outcome = .ok paths)
    {output : Output}
    (isOutput : output ∈ call.outputs before)
    (notLater : ∀ other ∈ allOutputs later before, output.location ≠ other.location) :
    (runAll (earlier ++ call :: later) before).tree.get? output.location =
      some (.file output.content) := by
  have upTo := emittedOnly_runAll earlier linkFree
  have ofCall := call.emittedOnly_run (upTo.linkFree linkFree)
  rw [← outputs_congr upTo.directory] at isOutput
  have written := holds_of_succeeded (upTo.linkFree linkFree) succeeded output isOutput
  have afterwards := emittedOnly_runAll later (ofCall.linkFree (upTo.linkFree linkFree))
  rw [runAll_append, runAll_cons]
  refine afterwards.get?_of_some written ?_
  rwa [allOutputs_congr (ofCall.directory.trans upTo.directory)]

end GenerateCall

open GenerateCall

/--
In a sequence of generations without links and steps up, each of which renders to
seven files, no call takes an entry away or changes its kind; every entry that
appears is an output of a call or a directory above one; a file in no output's
place is as it was before; and a file that a call reported stands as it was
rendered unless a later call has an output in its place.
-/
theorem runAll_keeps_files
    {before : Workspace}
    (linkFree : before.tree.LinkFree)
    (calls : List GenerateCall) :
    (∀ call ∈ calls,
        Project.render call.request.brief call.toolchain.settings = .ok call.files ∧
          call.files.length = 7) ∧
      (∀ earlier call later,
        calls = earlier ++ call :: later →
        GrowsTo (runAll earlier before).tree (runAll (earlier ++ [call]) before).tree) ∧
        (∀ location entry,
          before.tree.get? location = none →
          (runAll calls before).tree.get? location = some entry →
          ∃ call ∈ calls, ∃ output ∈ call.outputs before,
            location = output.location ∧ entry = .file output.content ∨
              IsAncestor location output.location ∧ entry = .directory) ∧
          (∀ location,
            (∀ call ∈ calls, ∀ output ∈ call.outputs before, location ≠ output.location) →
            ∀ content,
              (runAll calls before).tree.get? location = some (.file content) ↔
                before.tree.get? location = some (.file content)) ∧
            ∀ earlier call later,
              calls = earlier ++ call :: later →
              ∀ paths,
                (call.run (runAll earlier before)).outcome = .ok paths →
                ∀ path ∈ paths,
                  (∀ other ∈ later, ∀ output ∈ other.outputs before,
                    before.absolute path ≠ output.location) →
                  ∃ file ∈ call.files,
                    path = call.request.targetPath.append file.names ∧
                      (runAll calls before).tree.get? (before.absolute path) =
                        some (.file (Text.encode file.content)) := by
  have whole := emittedOnly_runAll calls linkFree
  refine ⟨fun call _ => call.render_eq_files, ?_, ?_, ?_, ?_⟩
  · rintro earlier call later -
    have upTo := emittedOnly_runAll earlier linkFree
    rw [runAll_append, runAll_cons, runAll_nil]
    exact (call.emittedOnly_run (upTo.linkFree linkFree)).grows
  · intro location entry absent present
    rcases whole.changes location with
      same | ⟨output, member, here, written⟩ | ⟨_, added, output, member, above⟩
    · rw [same, absent] at present
      cases present
    · obtain ⟨call, isCall, isOutput⟩ := List.mem_flatMap.mp member
      rw [written] at present
      cases present
      exact ⟨call, isCall, output, isOutput, .inl ⟨here, rfl⟩⟩
    · obtain ⟨call, isCall, isOutput⟩ := List.mem_flatMap.mp member
      rw [added] at present
      cases present
      exact ⟨call, isCall, output, isOutput, .inr ⟨above, rfl⟩⟩
  · intro location noOutput content
    rcases whole.changes location with
      same | ⟨output, member, here, _⟩ | ⟨absent, added, _⟩
    · rw [same]
    · obtain ⟨call, isCall, isOutput⟩ := List.mem_flatMap.mp member
      exact (noOutput call isCall output isOutput here).elim
    · rw [absent, added]
      simp
  · rintro earlier call later rfl paths succeeded path reported notLater
    rw [paths_of_succeeded succeeded] at reported
    obtain ⟨file, isFile, rfl⟩ := List.mem_map.mp reported
    refine ⟨file, isFile, rfl, ?_⟩
    have isOutput :
        file.output before call.request.targetPath ∈ call.outputs before :=
      List.mem_map_of_mem isFile
    refine get?_runAll_of_written earlier linkFree succeeded isOutput ?_
    intro output member
    obtain ⟨other, isLater, isOther⟩ := List.mem_flatMap.mp member
    exact notLater other isLater output isOther

/-- The call for a project in Kotlin. -/
def kotlinCall : GenerateCall where
  fields := sampleFields
  request := sampleRequest
  accepted := ofFields_sampleFields
  noParent := by decide
  toolchain := Toolchain.default
  force := false

/-- The forced call for the same project in the other language. -/
def javaCall : GenerateCall where
  fields := { sampleFields with language := some (.text "java".toList) }
  request := { sampleRequest with language := .java }
  accepted := rfl
  noParent := by decide
  toolchain := Toolchain.default
  force := true

/-- A workspace without entries. -/
def bareWorkspace : Workspace where
  tree := FileTree.empty
  directory := []

theorem linkFree_bareWorkspace :
    bareWorkspace.tree.LinkFree :=
  linkFree_of_entries (by decide)

theorem succeeds_kotlinCall :
    ∃ paths, (kotlinCall.run bareWorkspace).outcome = .ok paths := by
  refine exists_ok_of_isOk ?_
  rw [run_eq, files_eq_zipWith]
  decide +kernel

/-- The path of the entry point in Kotlin. -/
def kotlinEntryPoint : Path :=
  sampleRequest.targetPath.append (Project.entryPointNames sampleRequest)

/-- The entry point in Kotlin survives a forced call for the project in Java. -/
theorem runAll_keeps_files_stale_entry_point :
    bareWorkspace.tree.LinkFree ∧
      ∃ file ∈ kotlinCall.files,
        kotlinEntryPoint = sampleRequest.targetPath.append file.names ∧
          (runAll [kotlinCall, javaCall] bareWorkspace).tree.get?
              (bareWorkspace.absolute kotlinEntryPoint) =
            some (.file (Text.encode file.content)) := by
  have reported :
      kotlinEntryPoint ∈
        kotlinCall.files.map fun file => kotlinCall.request.targetPath.append file.names := by
    have isName :
        Project.entryPointNames sampleRequest ∈ kotlinCall.files.map Project.File.names := by
      rw [names_files]
      exact List.mem_append_right _ (.tail _ (.head _))
    obtain ⟨file, member, same⟩ := List.mem_map.mp isName
    refine List.mem_map.mpr ⟨file, member, ?_⟩
    rw [same]
    rfl
  have notLater :
      ∀ output ∈ javaCall.outputs bareWorkspace,
        bareWorkspace.absolute kotlinEntryPoint ≠ output.location := by
    have apart :
        ∀ names ∈ Project.fileNames javaCall.request,
          bareWorkspace.absolute kotlinEntryPoint ≠
            bareWorkspace.absolute (javaCall.request.targetPath.append names) := by
      decide +kernel
    intro output member
    obtain ⟨file, isFile, rfl⟩ := List.mem_map.mp member
    refine apart file.names ?_
    rw [← names_files]
    exact List.mem_map_of_mem isFile
  obtain ⟨paths, outcome⟩ := succeeds_kotlinCall
  obtain ⟨_, _, _, _, stands⟩ :=
    runAll_keeps_files linkFree_bareWorkspace [kotlinCall, javaCall]
  rw [← paths_of_succeeded outcome] at reported
  refine ⟨linkFree_bareWorkspace, ?_⟩
  exact
    stands [] kotlinCall [javaCall] rfl paths (by rwa [runAll_nil]) kotlinEntryPoint
      reported (by simpa using notLater)

end ModSkeleton
