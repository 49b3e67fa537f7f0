import ModSkeleton.Proofs.Project.Resources
import ModSkeleton.Proofs.Template.Reading

namespace ModSkeleton.Project

open Template

/-!
# Data flow into a project

What a project is rendered to depends on a request and a toolchain only where its
templates say so. The target path is read nowhere. The name of the mod is read once by
the build script and once by the metadata, quoted each time, and nowhere else; so a name
is never taken for a part of a template. In Java, no template reads the versions that
belong to Kotlin.
-/

/-- The name by which templates read the name of the mod. -/
def modNameWord : Text :=
  "mod_name".toList

/-- The names by which templates read the versions that belong to Kotlin. -/
def kotlinWords : List Text :=
  ["kotlin_version".toList, "fabric_kotlin_version".toList]

/-- The names of the templates that read the name of the mod. -/
def namedTemplates : List Text :=
  ["common/build.gradle.j2".toList, "common/fabric.mod.json.j2".toList]

/-- Another name of the mod shows only where the name of the mod is read. -/
theorem agreeOutside_modName
    (request : Request)
    (toolchain : Toolchain)
    (name : Text) :
    (contextOf request toolchain).AgreeOutside [modNameWord]
      (contextOf { request with modName := name } toolchain) :=
  Context.agreeOutside_of_without rfl

/-- Other versions for Kotlin show only where such versions are read. -/
theorem agreeOutside_kotlin
    (request : Request)
    (toolchain : Toolchain)
    (versions : KotlinVersions) :
    (contextOf request toolchain).AgreeOutside kotlinWords
      (contextOf request { toolchain with kotlin := versions }) :=
  Context.agreeOutside_of_without rfl

/-- Only two templates read the name of the mod. -/
theorem avoids_modName_source
    (language : Language)
    {pair : Text × Text}
    (member : pair ∈ sources) :
    pair.1 ∈ namedTemplates ∨
      (outlineOf language pair.2).all (Chunk.avoids [modNameWord]) = true := by
  have checked :=
    outlineOf_source
      (fun name outline =>
        namedTemplates.contains name || outline.all (Chunk.avoids [modNameWord]))
      language (by cases language <;> decide +kernel) member
  exact (Bool.or_eq_true_iff.mp checked).imp_left List.contains_iff_mem.mp

/-- In Java, no template reads the versions that belong to Kotlin. -/
theorem avoids_kotlin_source
    {pair : Text × Text}
    (member : pair ∈ sources) :
    (outlineOf .java pair.2).all (Chunk.avoids kotlinWords) = true :=
  outlineOf_source (fun _ outline => outline.all (Chunk.avoids kotlinWords)) .java
    (by decide +kernel) member

/-- The path of no item reads any of this. -/
theorem avoids_output
    {language : Language}
    {item : Item}
    (member : item ∈ items language) :
    (outlineOf language item.output).all (Chunk.avoids [modNameWord]) = true ∧
      (outlineOf language item.output).all (Chunk.avoids kotlinWords) = true := by
  constructor
  · exact outlineOf_output (·.all (Chunk.avoids [modNameWord])) (by decide) member
  · exact outlineOf_output (·.all (Chunk.avoids kotlinWords)) (by decide) member

/-- The build script reads the name of the mod once. -/
theorem readsOnce_buildScript
    (language : Language) :
    Chunk.readsOnce .groovyString modNameWord (outlineOf language buildScript) = true := by
  rw [outlineOf_of_hasOutlines hasOutlines_buildScript]
  cases language <;> decide

/-- The metadata reads the name of the mod once. -/
theorem readsOnce_metadata
    (language : Language) :
    Chunk.readsOnce .jsonString modNameWord (outlineOf language metadata) = true := by
  rw [outlineOf_of_hasOutlines hasOutlines_metadata]
  cases language <;> decide

/-- A source is filled with the same text where what differs is not read. -/
theorem filled_congr
    {first second : Request}
    {firstToolchain secondToolchain : Toolchain}
    (language : first.language = second.language)
    {hidden : List Text}
    (agree :
      (contextOf first firstToolchain).AgreeOutside hidden
        (contextOf second secondToolchain))
    {source : Text}
    (avoids : (outlineOf first.language source).all (Chunk.avoids hidden) = true) :
    filled first firstToolchain source = filled second secondToolchain source := by
  rw [filled, filled, ← language]
  exact Chunk.flatMap_fill_congr agree avoids

/-- Two lists of files have the same content under names where the same content stands. -/
theorem contentAt?_map_congr
    {items : List Item}
    {first second : Item → File}
    {names : List Text}
    (sameNames : ∀ item ∈ items, (first item).names = (second item).names)
    (sameContent :
      ∀ item ∈ items, (first item).names = names → (first item).content = (second item).content) :
    contentAt? (items.map first) names = contentAt? (items.map second) names := by
  induction items with
  | nil => rfl
  | cons item later inductionHypothesis =>
      have headNames := sameNames item List.mem_cons_self
      have rest :=
        inductionHypothesis (fun other member => sameNames other (List.mem_cons_of_mem _ member))
          (fun other member => sameContent other (List.mem_cons_of_mem _ member))
      unfold contentAt? at rest ⊢
      by_cases isHere : (first item).names = names
      · rw [List.map_cons, List.map_cons, List.find?_cons_of_pos (by simpa using isHere),
          List.find?_cons_of_pos (by simpa [← headNames] using isHere)]
        exact congrArg some (sameContent item List.mem_cons_self isHere)
      · rw [List.map_cons, List.map_cons, List.find?_cons_of_neg (by simpa using isHere),
          List.find?_cons_of_neg (by simpa [← headNames] using isHere)]
        exact rest

/-- A file that reads the name of the mod is the build script or the metadata. -/
theorem names_of_namedTemplate
    (request : Request)
    (toolchain : Toolchain)
    {item : Item}
    (member : item ∈ items request.language)
    (named : item.template ∈ namedTemplates) :
    (item.file request toolchain).names = ["build.gradle".toList] ∨
      (item.file request toolchain).names = resources ++ ["fabric.mod.json".toList] := by
  have known :
      ∀ item ∈ items request.language, item.template ∈ namedTemplates →
        item.output ∈ fixedOutputs ∧
          (Path.components item.output = ["build.gradle".toList] ∨
            Path.components item.output = resources ++ ["fabric.mod.json".toList]) := by
    cases request.language <;> decide
  obtain ⟨fixed, names⟩ := known item member named
  rw [← filled_fixedOutputs request toolchain item.output fixed] at names
  exact names

section

variable
    (request : Request)
    (toolchain : Toolchain)

/-- Another target path makes no difference. -/
theorem filesOf_targetPath
    (path : Path) :
    filesOf { request with targetPath := path } toolchain = filesOf request toolchain :=
  rfl

/-- In Java, other versions for Kotlin make no difference. -/
theorem filesOf_kotlin
    (isJava : request.language = .java)
    (versions : KotlinVersions) :
    filesOf request { toolchain with kotlin := versions } = filesOf request toolchain := by
  have agree := agreeOutside_kotlin request toolchain versions
  unfold filesOf
  apply List.map_congr_left
  intro item member
  have source := avoids_kotlin_source (mem_sources_of_mem_items member)
  rw [← isJava] at source
  simp only [Item.file, filled_congr rfl agree (avoids_output member).2,
    filled_congr rfl agree source]

/-- Another name of the mod leaves all paths as they are. -/
theorem names_file_modName
    (name : Text)
    {item : Item}
    (member : item ∈ items request.language) :
    (item.file request toolchain).names =
      (item.file { request with modName := name } toolchain).names := by
  have agree := agreeOutside_modName request toolchain name
  have sameLanguage :
      request.language = ({ request with modName := name } : Request).language :=
    rfl
  simp only [Item.file, filled_congr sameLanguage agree (avoids_output member).1]

/-- Another name of the mod leaves the files that do not read it as they are. -/
theorem content_file_modName
    (name : Text)
    {item : Item}
    (member : item ∈ items request.language)
    (unnamed : item.template ∉ namedTemplates) :
    (item.file request toolchain).content =
      (item.file { request with modName := name } toolchain).content := by
  have agree := agreeOutside_modName request toolchain name
  have sameLanguage :
      request.language = ({ request with modName := name } : Request).language :=
    rfl
  rcases avoids_modName_source request.language (mem_sources_of_mem_items member) with
    named | avoids
  · exact (unnamed named).elim
  · exact filled_congr sameLanguage agree avoids

/-- A source that reads the name of the mod once has it quoted between two texts. -/
theorem exists_filled_around
    {filter : Filter}
    {source : Text}
    (once : Chunk.readsOnce filter modNameWord (outlineOf request.language source) = true) :
    ∃ before after,
      ∀ name,
        filled { request with modName := name } toolchain source =
          before ++ filter.ofText name ++ after := by
  obtain ⟨before, after, around⟩ :=
    Chunk.exists_fill_around once (contextOf request toolchain)
  refine ⟨before, after, ?_⟩
  intro name
  have filledAround := around _ (agreeOutside_modName request toolchain name)
  have newName :
      Chunk.textOf (contextOf { request with modName := name } toolchain) modNameWord = name :=
    (prints_contextOf { request with modName := name } toolchain).modName
  rw [newName] at filledAround
  exact filledAround

end

/--
Files that differ from those of a project by the name of the mod alone: it stands, quoted,
between two fixed texts of the build script and of the metadata.
-/
structure Renamed
    (script metadata : Text × Text)
    (base : List File)
    (name : Text)
    (files : List File) :
    Prop where
  names : files.map File.names = base.map File.names
  script :
    contentAt? files ["build.gradle".toList] = some (script.1 ++ Groovy.quote name ++ script.2)
  metadata :
    contentAt? files (resources ++ ["fabric.mod.json".toList]) =
      some (metadata.1 ++ Json.writeText name ++ metadata.2)
  others :
    ∀ names,
      names ≠ ["build.gradle".toList] →
      names ≠ resources ++ ["fabric.mod.json".toList] →
      contentAt? files names = contentAt? base names

/-- Every name of the mod gives the same project but for the two places of the name. -/
theorem exists_renamed
    {request : Request}
    (named : request.Named)
    (toolchain : Toolchain) :
    ∃ script metadata,
      ∀ name,
        Renamed script metadata (filesOf request toolchain) name
          (filesOf { request with modName := name } toolchain) := by
  obtain ⟨scriptBefore, scriptAfter, script⟩ :=
    exists_filled_around request toolchain (readsOnce_buildScript request.language)
  obtain ⟨metadataBefore, metadataAfter, metadata⟩ :=
    exists_filled_around request toolchain (readsOnce_metadata request.language)
  refine ⟨(scriptBefore, scriptAfter), (metadataBefore, metadataAfter), ?_⟩
  intro name
  have stillNamed : ({ request with modName := name } : Request).Named := named.of_same rfl rfl
  refine
    { names := ?_
      script := ?_
      metadata := ?_
      others := ?_ }
  · unfold filesOf
    rw [List.map_map, List.map_map]
    apply List.map_congr_left
    intro item member
    exact (names_file_modName request toolchain name member).symm
  · rw [contentAt?_buildScript stillNamed, script]
    rfl
  · rw [contentAt?_metadata stillNamed, metadata]
    rfl
  · intro names notScript notMetadata
    refine (contentAt?_map_congr ?_ ?_).symm
    · intro item member
      exact names_file_modName request toolchain name member
    · intro item member isHere
      apply content_file_modName request toolchain name member
      intro isNamed
      rcases names_of_namedTemplate request toolchain member isNamed with isScript | isMetadata
      · exact notScript (isHere.symm.trans isScript)
      · exact notMetadata (isHere.symm.trans isMetadata)

/--
The data of an accepted request and a toolchain flow openly into the project. The target
path makes no difference to it. The name of the mod shows quoted at one place of the build
script and of the metadata, with the same texts around it whatever the name, and nowhere
else. In Java, the versions that belong to Kotlin make no difference.
-/
theorem render_data_flow
    {fields : Request.Fields}
    {request : Request}
    (accepted : Request.ofFields fields = .ok request)
    (toolchain : Toolchain) :
    (∀ path : Path,
      render ({ request with targetPath := path } : Request).brief toolchain.settings =
        render request.brief toolchain.settings) ∧
      (∃ base script metadata,
        render request.brief toolchain.settings = .ok base ∧
          ∀ name, ∃ files,
            render ({ request with modName := name } : Request).brief toolchain.settings =
                .ok files ∧
              Renamed script metadata base name files) ∧
        (request.language = .java →
          ∀ versions : KotlinVersions,
            render request.brief ({ toolchain with kotlin := versions } : Toolchain).settings =
              render request.brief toolchain.settings) := by
  refine ⟨?_, ?_, ?_⟩
  · intro path
    rw [render_eq, render_eq, filesOf_targetPath]
  · obtain ⟨script, metadata, renamed⟩ :=
      exists_renamed (Request.named_of_ofFields accepted) toolchain
    refine ⟨_, script, metadata, render_eq request toolchain, ?_⟩
    intro name
    exact ⟨_, render_eq { request with modName := name } toolchain, renamed name⟩
  · intro isJava versions
    rw [render_eq, render_eq, filesOf_kotlin request toolchain isJava]

/-- A name that looks like parts of a template and ends in a quote. -/
def directiveName : Text :=
  "\x7b\x7b mod_id \x7d\x7d\x7b% if kotlin %\x7d'".toList

/-- A name that looks like parts of a template stands in the project as it is, but quoted. -/
theorem render_data_flow_directives :
    Request.ofFields (namedFields nearToken) = .ok (namedRequest nearToken) ∧
      (namedRequest nearToken).language = .java ∧
        render (namedRequest nearToken).brief
            ({ Toolchain.default with kotlin := ⟨['1'], ['2']⟩ } : Toolchain).settings =
          render (namedRequest nearToken).brief Toolchain.default.settings ∧
        ∃ script metadata base files,
          render (namedRequest directiveName).brief Toolchain.default.settings = .ok files ∧
            Renamed script metadata base directiveName files := by
  have accepted : Request.ofFields (namedFields nearToken) = .ok (namedRequest nearToken) :=
    rfl
  obtain ⟨_, ⟨base, script, metadata, _, renamed⟩, kotlin⟩ :=
    render_data_flow accepted Toolchain.default
  obtain ⟨files, rendered, isRenamed⟩ := renamed directiveName
  exact
    ⟨accepted, rfl, kotlin rfl ⟨['1'], ['2']⟩, script, metadata, base, files, rendered,
      isRenamed⟩

end ModSkeleton.Project
