import ModSkeleton.Proofs.Path.Components
import ModSkeleton.Proofs.Project.Outlines
import ModSkeleton.Proofs.Request.Names

namespace ModSkeleton.Project

open ModSkeleton.Path Template

/-!
# Names of the files of a project

The files of a project have seven paths, of which two depend on the request: the
mixin configuration is named after the mod id, and the entry point stands in the
folders of the package. None of them goes up or has a NUL in it, and none stands
in the place of another or on the way to it.
-/

theorem isComponent_of_isWord
    {text : Text}
    (word : Text.IsWord text) :
    IsComponent text where
  notEmpty := word.notEmpty
  notCurrent := by
    rintro rfl
    exact word.noDot (by decide)
  notParent := by
    rintro rfl
    exact word.noDot (by decide)
  noSlash := word.noSlash
  noNull := word.noNull

theorem isComponent_append
    {word ending : Text}
    (isWord : Text.IsWord word)
    (long : 2 ≤ ending.length)
    (clean : '/' ∉ ending ∧ '\x00' ∉ ending) :
    IsComponent (word ++ ending) := by
  have length : 3 ≤ (word ++ ending).length := by
    have positive := List.length_pos_iff.mpr isWord.notEmpty
    rw [List.length_append]
    omega
  refine ⟨?_, ?_, ?_, ?_, ?_⟩
  · intro isEmpty
    rw [isEmpty] at length
    cases length
  · intro isCurrent
    rw [isCurrent] at length
    exact absurd length (by decide)
  · intro isParent
    rw [isParent] at length
    exact absurd length (by decide)
  · rw [List.mem_append]
    rintro (inWord | inEnding)
    · exact isWord.noSlash inWord
    · exact clean.1 inEnding
  · rw [List.mem_append]
    rintro (inWord | inEnding)
    · exact isWord.noNull inWord
    · exact clean.2 inEnding

/-- The directory of the resources of a project. -/
def resources : List Text :=
  ["src".toList, "main".toList, "resources".toList]

/-- The names of the mixin configuration. -/
def mixinsName
    (request : Request) :
    Text :=
  request.modId ++ ".mixins.json".toList

/-- The names that lead to the entry point. -/
def entryPointNames
    (request : Request) :
    List Text :=
  ["src".toList, "main".toList, request.language.sourceDir] ++ request.packageSegments ++
    [request.className ++ '.' :: request.language.extension]

/-- The names of the files that every project has. -/
def fixedNames : List (List Text) :=
  [["build.gradle".toList],
   ["settings.gradle".toList],
   ["gradle.properties".toList],
   [".gitignore".toList],
   resources ++ ["fabric.mod.json".toList]]

/-- The names of the files of a project, in order. -/
def fileNames
    (request : Request) :
    List (List Text) :=
  fixedNames ++ [resources ++ [mixinsName request], entryPointNames request]

theorem isComponent_mixinsName
    {request : Request}
    (named : request.Named) :
    IsComponent (mixinsName request) :=
  isComponent_append named.modId (by decide) (by decide)

theorem isComponent_entryPointNames
    {request : Request}
    (named : request.Named) :
    ∀ part ∈ entryPointNames request, IsComponent part := by
  have folders :
      ∀ part ∈ ["src".toList, "main".toList, request.language.sourceDir],
        IsComponent part := by
    cases request.language <;> decide
  have extension :
      2 ≤ ('.' :: request.language.extension).length ∧
        '/' ∉ '.' :: request.language.extension ∧
          '\x00' ∉ '.' :: request.language.extension := by
    cases request.language <;> decide
  intro part member
  rw [entryPointNames, List.mem_append, List.mem_append] at member
  rcases member with (isFolder | inPackage) | isLast
  · exact folders part isFolder
  · exact isComponent_of_isWord (named.packageWords part inPackage)
  · obtain rfl := List.mem_singleton.mp isLast
    exact isComponent_append named.className extension.1 extension.2

/-- All names of the files of a project name entries of directories. -/
theorem isComponent_fileNames
    {request : Request}
    (named : request.Named) :
    ∀ names ∈ fileNames request, ∀ part ∈ names, IsComponent part := by
  have fixed : ∀ names ∈ fixedNames, ∀ part ∈ names, IsComponent part := by
    decide
  have folders : ∀ part ∈ resources, IsComponent part := by
    decide
  intro names member part inNames
  rcases List.mem_append.mp member with isFixed | isOwn
  · exact fixed names isFixed part inNames
  · rcases List.mem_cons.mp isOwn with rfl | isLast
    · rcases List.mem_append.mp inNames with isFolder | isName
      · exact folders part isFolder
      · obtain rfl := List.mem_singleton.mp isName
        exact isComponent_mixinsName named
    · obtain rfl := List.mem_singleton.mp isLast
      exact isComponent_entryPointNames named part inNames

/-- The first file of a project stands right inside of its root. -/
theorem fileNames_eq_cons
    (request : Request) :
    ∃ others, fileNames request = ["build.gradle".toList] :: others :=
  ⟨_, rfl⟩

theorem ne_nil_of_mem_fileNames
    {request : Request}
    {names : List Text}
    (member : names ∈ fileNames request) :
    names ≠ [] := by
  have fixed : ∀ names ∈ fixedNames, names ≠ [] := by
    decide
  rcases List.mem_append.mp member with isFixed | isOwn
  · exact fixed names isFixed
  · rcases List.mem_cons.mp isOwn with rfl | isLast
    · simp
    · obtain rfl := List.mem_singleton.mp isLast
      simp [entryPointNames]

/-- The mixin configuration is never named like the metadata, whatever the mod id. -/
theorem mixinsName_ne
    (request : Request) :
    "fabric.mod.json".toList ≠ mixinsName request := by
  intro same
  have ending : ".mixins.json".toList <:+ "fabric.mod.json".toList := by
    rw [same]
    exact List.suffix_append _ _
  exact absurd ending (by decide)

theorem fixedNames_cases
    {names : List Text}
    (member : names ∈ fixedNames) :
    (∃ first later, names = first :: later ∧ first ≠ "src".toList) ∨
      names = resources ++ ["fabric.mod.json".toList] := by
  simp only [fixedNames, List.mem_cons, List.not_mem_nil, or_false] at member
  rcases member with rfl | rfl | rfl | rfl | rfl
  case inr.inr.inr.inr => exact .inr rfl
  all_goals exact .inl ⟨_, _, rfl, by decide⟩

/-- No file of a project stands in the place of another or on the way to it. -/
theorem pairwise_unrelated_fileNames
    (request : Request) :
    (fileNames request).Pairwise Unrelated := by
  have fixed : fixedNames.Pairwise Unrelated := by
    decide
  have otherSource : "resources".toList ≠ request.language.sourceDir := by
    cases request.language <;> decide
  -- In the resources, names differ; elsewhere, the directories do.
  have entryApart : ∀ last, Unrelated (resources ++ [last]) (entryPointNames request) := by
    intro last
    exact (unrelated_of_ne otherSource _ _).append_left ["src".toList, "main".toList]
  rw [fileNames, List.pairwise_append]
  refine ⟨fixed, ?_, ?_⟩
  · rw [List.pairwise_pair]
    exact entryApart _
  · intro names isFixed other isOwn
    have startsInSource : ∃ later, other = "src".toList :: later := by
      rcases List.mem_cons.mp isOwn with rfl | isLast
      · exact ⟨_, rfl⟩
      · obtain rfl := List.mem_singleton.mp isLast
        exact ⟨_, rfl⟩
    rcases fixedNames_cases isFixed with ⟨first, later, rfl, notSource⟩ | rfl
    · obtain ⟨otherLater, rfl⟩ := startsInSource
      exact unrelated_of_ne notSource _ _
    · rcases List.mem_cons.mp isOwn with rfl | isLast
      · exact (unrelated_of_ne (mixinsName_ne request) [] []).append_left resources
      · obtain rfl := List.mem_singleton.mp isLast
        exact entryApart _

section

variable
    (request : Request)
    (toolchain : Toolchain)

theorem filled_fixedOutputs :
    ∀ output ∈ fixedOutputs, filled request toolchain output = output := by
  intro output member
  have outline : outlineOf request.language output = [.text output] :=
    outlineOf_outputs _ _ (List.mem_append_left _ (List.mem_map_of_mem member))
  rw [filled, outline]
  simp [Chunk.fill]

theorem components_fixedOutputs :
    fixedOutputs.map Path.components = fixedNames := by
  decide

theorem filled_mixins_output :
    filled request toolchain mixinsOutput =
      "src/main/resources/".toList ++ mixinsName request := by
  have outline :=
    outlineOf_outputs request.language _ (List.mem_append_right _ List.mem_cons_self)
  rw [filled, outline]
  simp only [List.flatMap_cons, List.flatMap_nil, Chunk.fill,
    (prints_contextOf request toolchain).modId, mixinsName, List.append_nil]

theorem filled_entryPointOutput :
    filled request toolchain entryPointOutput =
      "src/main/".toList ++ request.language.sourceDir ++ '/' :: request.packagePath ++
        '/' :: (request.className ++ '.' :: request.language.extension) := by
  have outline :=
    outlineOf_outputs request.language _
      (List.mem_append_right _ (List.mem_cons_of_mem _ List.mem_cons_self))
  rw [filled, outline]
  have prints := prints_contextOf request toolchain
  simp only [List.flatMap_cons, List.flatMap_nil, Chunk.fill, prints.sourceDir,
    prints.packagePath, prints.className, prints.extension, List.append_nil,
    List.append_assoc, List.cons_append, List.nil_append]

theorem components_entryPoint
    (named : request.Named) :
    Path.components (filled request toolchain entryPointOutput) = entryPointNames request := by
  have joined :
      filled request toolchain entryPointOutput =
        Text.joinWith ['/'] (entryPointNames request) := by
    rw [filled_entryPointOutput, entryPointNames, named.packagePath,
      Text.joinWith_append _ (by simp) (by simp),
      Text.joinWith_append _ (by simp) named.packageSome]
    simp [Text.joinWith]
  rw [joined]
  apply components_joinWith
  intro part member
  exact (isComponent_entryPointNames named part member).isPart

theorem components_mixins
    (named : request.Named) :
    Path.components (filled request toolchain mixinsOutput) =
      resources ++ [mixinsName request] := by
  have joined :
      filled request toolchain mixinsOutput =
        Text.joinWith ['/'] (resources ++ [mixinsName request]) := by
    have folders : Text.joinWith ['/'] resources ++ ['/'] = "src/main/resources/".toList := by
      decide
    rw [filled_mixins_output, Text.joinWith_append _ (by simp [resources]) (by simp), folders]
    rfl
  rw [joined]
  apply components_joinWith
  intro part member
  exact (isComponent_fileNames named _ (by simp [fileNames]) part member).isPart

/-- The files of a project have the names they are meant to have. -/
theorem names_filesOf
    (named : request.Named) :
    (filesOf request toolchain).map File.names = fileNames request := by
  have outputs :
      (filesOf request toolchain).map File.names =
        (fixedOutputs ++ [mixinsOutput, entryPointOutput]).map
          (fun output => Path.components (filled request toolchain output)) := by
    have sameOutputs :
        (items request.language).map Item.output =
          fixedOutputs ++ [mixinsOutput, entryPointOutput] :=
      rfl
    rw [← sameOutputs, filesOf, List.map_map, List.map_map]
    rfl
  have fixed :
      fixedOutputs.map (fun output => Path.components (filled request toolchain output)) =
        fixedNames := by
    rw [← components_fixedOutputs]
    apply List.map_congr_left
    intro output member
    rw [filled_fixedOutputs request toolchain output member]
  rw [outputs, List.map_append, fixed, List.map_cons, List.map_cons,
    components_mixins request toolchain named, components_entryPoint request toolchain named]
  rfl

/-- Where the files of a project go is known without rendering what they hold. -/
theorem filesOf_eq_zipWith
    (named : request.Named) :
    filesOf request toolchain =
      List.zipWith File.mk (fileNames request)
        ((filesOf request toolchain).map File.content) := by
  rw [← names_filesOf request toolchain named, List.zipWith_map, List.zipWith_self]
  exact (List.map_id' _).symm

end

end ModSkeleton.Project
