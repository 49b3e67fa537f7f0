import ModSkeleton.Proofs.Generation.Target

namespace ModSkeleton

open FileTree Workspace

/-!
# Generating again

A file that was written stands in place: its folder is there, and its path leads
to a file, through links or not. That outlives everything that is written later,
so writing the same files again goes to the same places and makes nothing new.
Where links let two files end up in one place, the content of the later one stands
after either run. And what was written first keeps the target from being empty.
-/

/-- Two workspaces with one working directory that hold the same entries. -/
structure Workspace.SameEntries
    (first second : Workspace) :
    Prop where
  directory : first.directory = second.directory
  entries : ∀ location, first.tree.get? location = second.tree.get? location

/-- A file that was just written is where its path leads. -/
theorem Workspace.locate_of_write
    {host : Host}
    {before after : Workspace}
    {path : Path}
    {content : Text}
    (wrote : host.write before path content = (after, .ok ())) :
    ∃ location,
      after = before.put location (.file (Text.encode content)) ∧
        GrowsTo before.tree after.tree ∧
          after.locate true path =
            .ok (.present location (.file (Text.encode content))) := by
  obtain ⟨place, located, writable, rfl⟩ := write_eq_ok wrote
  have grows := growsTo_put_of_writable located writable (Text.encode content)
  have holds := get?_put_of_writable located writable (.file (Text.encode content))
  obtain ⟨takes, walks⟩ := locate_eq_ok_iff.mp located
  refine ⟨place.location, rfl, grows, locate_eq_ok_iff.mpr ⟨takes, ?_⟩⟩
  cases place with
  | missing parent name => exact walks.fill grows (by simp) holds trivial
  | present location entry =>
      obtain ⟨later, _, walksLater⟩ := walks.grow grows
      have same := walksLater.get?_of_present.symm.trans holds
      cases same
      exact walksLater

/-- A file of a project stands in place, at a location. -/
structure InPlace
    (root : Path)
    (file : Project.File)
    (workspace : Workspace)
    (location : Location) :
    Prop where
  folder : ∃ above, workspace.LeadsTo (root.append file.names.dropLast) above
  leads :
    ∃ content,
      workspace.locate true (root.append file.names) =
        .ok (.present location (.file content))

theorem InPlace.grow
    {before after : Workspace}
    (sameDirectory : after.directory = before.directory)
    (grows : GrowsTo before.tree after.tree)
    {root : Path}
    {file : Project.File}
    {location : Location}
    (inPlace : InPlace root file before location) :
    InPlace root file after location where
  folder := by
    obtain ⟨above, leads⟩ := inPlace.folder
    exact ⟨above, leads.grow grows sameDirectory⟩
  leads := by
    obtain ⟨content, located⟩ := inPlace.leads
    obtain ⟨takes, walks⟩ := locate_eq_ok_iff.mp located
    obtain ⟨later, kind, walksLater⟩ := walks.grow grows
    cases kind with
    | file _ new =>
        refine ⟨new, locate_eq_ok_iff.mpr ⟨takes, ?_⟩⟩
        rwa [sameDirectory]

theorem InPlace.get?
    {root : Path}
    {file : Project.File}
    {workspace : Workspace}
    {location : Location}
    (inPlace : InPlace root file workspace location) :
    ∃ content, workspace.tree.get? location = some (.file content) := by
  obtain ⟨content, located⟩ := inPlace.leads
  exact ⟨content, (locate_eq_ok_iff.mp located).2.get?_of_present⟩

/--
Between two workspaces, a file was written at a location: it stands in place there,
and elsewhere nothing has changed except that directories were made.
-/
structure PlacedAt
    (root : Path)
    (file : Project.File)
    (before after : Workspace)
    (location : Location) :
    Prop where
  directory : after.directory = before.directory
  grows : GrowsTo before.tree after.tree
  inPlace : InPlace root file after location
  holds : after.tree.get? location = some (.file (Text.encode file.content))
  elsewhere :
    ∀ other, other ≠ location →
      after.tree.get? other = before.tree.get? other ∨
        before.tree.get? other = none ∧ after.tree.get? other = some .directory

/-- Writing one file successfully places it. -/
theorem placedAt_of_writeProjectFile
    {host : Host}
    {root path : Path}
    {file : Project.File}
    (notRoot : file.names ≠ [])
    {before after : Workspace}
    (result : host.writeProjectFile root file before = (after, .ok path)) :
    ∃ location, PlacedAt root file before after location := by
  rcases writeProjectFile_cases host root notRoot before with
    ⟨_, failed⟩ | ⟨_, _, _, failed⟩ | ⟨_, _, _, _, _, failed⟩ |
      ⟨grown, written, ensured, wrote, succeeded⟩
  · rw [failed] at result
    cases result
  · rw [failed] at result
    cases result
  · rw [failed] at result
    cases result
  · rw [succeeded] at result
    cases result
    have made := madeAlong_ensureDirectories host before (root.append file.names.dropLast)
    obtain ⟨above, leads⟩ :
        ∃ above, (host.ensureDirectories before (root.append file.names.dropLast)).1.LeadsTo
          (root.append file.names.dropLast) above :=
      leadsTo_of_ensureDirectories (by rw [ensured])
    rw [ensured] at made leads
    obtain ⟨location, rfl, grows, located⟩ := locate_of_write wrote
    refine
      ⟨location,
        { directory := made.directory
          grows := made.adds.growsTo.trans grows
          inPlace := ⟨⟨above, leads.grow grows rfl⟩, _, located⟩
          holds := (locate_eq_ok_iff.mp located).2.get?_of_present
          elsewhere := ?_ }⟩
    intro other different
    have unchanged := get?_insert_of_ne grown.tree different (.file (Text.encode file.content))
    rcases made.adds other with same | ⟨absent, added, _⟩
    · exact .inl (unchanged.trans same)
    · exact .inr ⟨absent, unchanged.trans added⟩

/-- Writing files in order succeeds by writing the first one and then the others. -/
theorem writeProjectFiles_cons_ok
    {host : Host}
    {root : Path}
    {file : Project.File}
    {files : List Project.File}
    {before after : Workspace}
    {paths : List Path}
    (wrote : host.writeProjectFiles root (file :: files) before = (after, .ok paths)) :
    ∃ middle path others,
      host.writeProjectFile root file before = (middle, .ok path) ∧
        host.writeProjectFiles root files middle = (after, .ok others) ∧
          paths = path :: others := by
  cases result : host.writeProjectFile root file before with
  | mk middle outcome =>
      cases outcome with
      | error error =>
          rw [(writeProjectFiles_of_error result files).1] at wrote
          cases wrote
      | ok path =>
          rw [(writeProjectFiles_of_ok result files).1] at wrote
          cases later : host.writeProjectFiles root files middle with
          | mk last outcome =>
              rw [later] at wrote
              cases outcome with
              | error error => cases wrote
              | ok others =>
                  cases wrote
                  exact ⟨middle, path, others, rfl, later, rfl⟩

/-- Writing files successfully keeps every entry with its kind. -/
theorem growsTo_of_writeProjectFiles
    {host : Host}
    {root : Path}
    {files : List Project.File}
    (notRoot : ∀ file ∈ files, file.names ≠ [])
    {before after : Workspace}
    {paths : List Path}
    (wrote : host.writeProjectFiles root files before = (after, .ok paths)) :
    after.directory = before.directory ∧ GrowsTo before.tree after.tree := by
  induction files generalizing before paths with
  | nil =>
      cases wrote
      exact ⟨rfl, .refl _⟩
  | cons file files inductionHypothesis =>
      obtain ⟨middle, path, others, first, rest, _⟩ := writeProjectFiles_cons_ok wrote
      obtain ⟨_, placed⟩ :=
        placedAt_of_writeProjectFile (notRoot file List.mem_cons_self) first
      obtain ⟨sameDirectory, grows⟩ :=
        inductionHypothesis
          (fun other member => notRoot other (List.mem_cons_of_mem _ member)) rest
      exact ⟨sameDirectory.trans placed.directory, placed.grows.trans grows⟩

/-- Files that were all written all stand in place. -/
theorem inPlace_of_writeProjectFiles
    {host : Host}
    {root : Path}
    {files : List Project.File}
    (notRoot : ∀ file ∈ files, file.names ≠ [])
    {before after : Workspace}
    {paths : List Path}
    (wrote : host.writeProjectFiles root files before = (after, .ok paths)) :
    ∀ file ∈ files, ∃ location, InPlace root file after location := by
  induction files generalizing before paths with
  | nil => simp
  | cons file files inductionHypothesis =>
      have restNotRoot : ∀ other ∈ files, other.names ≠ [] :=
        fun other member => notRoot other (List.mem_cons_of_mem _ member)
      obtain ⟨middle, path, others, first, rest, _⟩ := writeProjectFiles_cons_ok wrote
      obtain ⟨location, placed⟩ :=
        placedAt_of_writeProjectFile (notRoot file List.mem_cons_self) first
      obtain ⟨sameDirectory, grows⟩ := growsTo_of_writeProjectFiles restNotRoot rest
      intro other member
      rcases List.mem_cons.mp member with rfl | inRest
      · exact ⟨location, placed.inPlace.grow sameDirectory grows⟩
      · exact inductionHypothesis restNotRoot rest other inRest

end ModSkeleton
