import ModSkeleton.Proofs.Json.Layout
import ModSkeleton.Proofs.Project.Names

namespace ModSkeleton.Project

open Template

/-!
# Documents of a project

Two files of a project are documents: the metadata of the mod and its mixin
configuration. Each of them is the indented layout of a value, so that reading it
gives the value back, whatever the request holds. Versions that templates print
between quotes without escaping have to be plain for this.
-/

/-- What a mod depends on: the adapter for Kotlin only if it is written in Kotlin. -/
def dependencies
    (request : Request)
    (toolchain : Toolchain) :
    List (Text × Json.Value) :=
  [("fabricloader".toList, .text (">=".toList ++ toolchain.loaderVersion)),
   ("minecraft".toList, .text ('~' :: toolchain.minecraftVersion)),
   ("java".toList, .text (">=".toList ++ Text.decimal toolchain.javaVersion))] ++
  (match request.language with
   | .java => []
   | .kotlin =>
       [("fabric-language-kotlin".toList,
         .text (">=".toList ++ toolchain.kotlin.fabricKotlin))]) ++
  [("fabric-api".toList, .text ['*'])]

/-- The metadata of a mod. -/
def metadataDocument
    (request : Request)
    (toolchain : Toolchain) :
    Json.Value :=
  .object
    [("schemaVersion".toList, .int 1),
     ("id".toList, .text request.modId),
     ("version".toList, .text "$\x7bversion\x7d".toList),
     ("name".toList, .text request.modName),
     ("description".toList, .text []),
     ("authors".toList, .list []),
     ("contact".toList, .object []),
     ("license".toList, .text "CC0-1.0".toList),
     ("environment".toList, .text ['*']),
     ("entrypoints".toList, .object [("main".toList, .list [.text request.mainClass])]),
     ("mixins".toList, .list [.text (mixinsName request)]),
     ("depends".toList, .object (dependencies request toolchain))]

/-- The mixin configuration of a mod. -/
def mixinsDocument
    (request : Request)
    (toolchain : Toolchain) :
    Json.Value :=
  .object
    [("required".toList, .bool true),
     ("package".toList, .text (request.package ++ ".mixin".toList)),
     ("compatibilityLevel".toList,
       .text ("JAVA_".toList ++ Text.decimal toolchain.javaVersion)),
     ("mixins".toList, .list []),
     ("client".toList, .list []),
     ("injectors".toList, .object [("defaultRequire".toList, .int 1)])]

/-- A plain version is written as a range without escapes. -/
theorem writeText_atLeast
    {version : Text}
    (plain : Json.IsPlain version) :
    Json.writeText (">=".toList ++ version) = '"' :: (">=".toList ++ version ++ ['"']) :=
  Json.writeText_of_isPlain (Json.IsPlain.append (by decide) plain)

section

variable
    (request : Request)
    (toolchain : Toolchain)

theorem isIntegral_metadataDocument :
    (metadataDocument request toolchain).isIntegral = true := by
  unfold metadataDocument dependencies
  cases request.language <;> rfl

set_option maxRecDepth 8000 in
/-- The mixin configuration is laid out over indented lines. -/
theorem filled_mixins :
    filled request toolchain mixins =
      (mixinsDocument request toolchain).layout .indented 0 ++ ['\n'] := by
  have level : Json.IsPlain ("JAVA_".toList ++ Text.decimal toolchain.javaVersion) :=
    Json.IsPlain.append (by decide) (Json.isPlain_decimal _)
  have prints := prints_contextOf request toolchain
  rw [filled, outlineOf_of_hasOutlines hasOutlines_mixins, mixinsOutline]
  simp only [List.flatMap_cons, List.flatMap_nil, Chunk.fill, Filter.ofText, prints.package,
    prints.javaVersion]
  simp only [mixinsDocument, Json.Value.layout, Json.Value.layoutMembers,
    Json.writeText_of_isPlain level, List.append_assoc, List.cons_append, List.nil_append]
  -- Both sides are now the same characters, cut into pieces in two ways.
  repeat rw [String.toList_ofList]
  rfl

set_option maxRecDepth 8000 in
/-- The metadata is laid out over indented lines. -/
theorem filled_metadata
    (plainLoader : Json.IsPlain toolchain.loaderVersion)
    (plainKotlin :
      request.language = .kotlin → Json.IsPlain toolchain.kotlin.fabricKotlin) :
    filled request toolchain metadata =
      (metadataDocument request toolchain).layout .indented 0 ++ ['\n'] := by
  have loader := writeText_atLeast plainLoader
  have java := writeText_atLeast (Json.isPlain_decimal toolchain.javaVersion)
  have prints := prints_contextOf request toolchain
  rw [filled, outlineOf_of_hasOutlines hasOutlines_metadata]
  cases language : request.language with
  | java =>
      simp only [metadataOutline, List.flatMap_cons, List.flatMap_nil, List.cons_append,
        List.nil_append, List.append_nil, Chunk.fill, Filter.ofText, prints.modId,
        prints.modName, prints.mainClass, prints.loaderVersion, prints.minecraftDependency,
        prints.javaVersion]
      simp only [metadataDocument, dependencies, language, Json.Value.layout,
        Json.Value.layoutMembers, Json.Value.layoutItems, loader, java, List.append_assoc,
        List.cons_append, List.nil_append]
      repeat rw [String.toList_ofList]
      rfl
  | kotlin =>
      have adapter := writeText_atLeast (plainKotlin language)
      simp only [metadataOutline, List.flatMap_cons, List.flatMap_nil, List.cons_append,
        List.nil_append, List.append_nil, Chunk.fill, Filter.ofText, prints.modId,
        prints.modName, prints.mainClass, prints.loaderVersion, prints.minecraftDependency,
        prints.javaVersion, prints.fabricKotlinVersion]
      simp only [metadataDocument, dependencies, language, Json.Value.layout,
        Json.Value.layoutMembers, Json.Value.layoutItems, loader, java, adapter,
        List.append_assoc, List.cons_append, List.nil_append]
      repeat rw [String.toList_ofList]
      rfl

end

/-- The content of the first file with given names. -/
def contentAt?
    (files : List File)
    (names : List Text) :
    Option Text :=
  (files.find? fun file => file.names = names).map File.content

theorem contentAt?_of_mem
    {files : List File}
    (apart : (files.map File.names).Pairwise Path.Unrelated)
    {file : File}
    (member : file ∈ files) :
    contentAt? files file.names = some file.content := by
  obtain ⟨before, after, rfl⟩ := List.mem_iff_append.mp member
  rw [List.map_append, List.map_cons, List.pairwise_append] at apart
  have noneBefore : before.find? (fun other => other.names = file.names) = none := by
    rw [List.find?_eq_none]
    intro other early sameNames
    have unrelated :=
      apart.2.2 other.names (List.mem_map_of_mem early) file.names List.mem_cons_self
    have same : other.names = file.names := of_decide_eq_true sameNames
    exact unrelated.1 (same ▸ List.prefix_rfl)
  rw [contentAt?, List.find?_append, noneBefore, Option.none_or,
    List.find?_cons_of_pos (by simp), Option.map_some]

/-- A file of a project is found under its names. -/
theorem contentAt?_filesOf
    {request : Request}
    (named : request.Named)
    (toolchain : Toolchain)
    {item : Item}
    (member : item ∈ items request.language)
    {names : List Text}
    (leads : Path.components (filled request toolchain item.output) = names) :
    contentAt? (filesOf request toolchain) names =
      some (filled request toolchain item.source) := by
  have apart := pairwise_unrelated_fileNames request
  rw [← names_filesOf request toolchain named] at apart
  have isFile : item.file request toolchain ∈ filesOf request toolchain :=
    List.mem_map_of_mem member
  have found := contentAt?_of_mem apart isFile
  simp only [Item.file, leads] at found
  exact found

/-- The files of fixed names that every project has, with the templates they come from. -/
def fixedFiles : List (List Text × Text) :=
  [(["build.gradle".toList], buildScript),
   (["settings.gradle".toList], buildSettings),
   (["gradle.properties".toList], buildProperties),
   ([".gitignore".toList], ignoredFiles),
   (resources ++ ["fabric.mod.json".toList], metadata)]

/-- The item of the mixin configuration. -/
def mixinsItem : Item :=
  ⟨"common/mixins.json.j2".toList, mixinsOutput⟩

theorem source_mixinsItem :
    mixinsItem.source = mixins :=
  source_of_mem (List.mem_of_getElem? (rfl : sources[5]? = _))

section

variable
    {request : Request}
    (named : request.Named)
    (toolchain : Toolchain)

include named

/-- A file of fixed names is found under these, by the place of its item. -/
theorem contentAt?_of_place
    (index : Nat)
    {item : Item}
    (member : commonItems[index]? = some item)
    (fixed : fixedOutputs[index]? = some item.output)
    {source : Text}
    (isSource : sources[index]? = some (item.template, source))
    {names : List Text}
    (leads : Path.components item.output = names) :
    contentAt? (filesOf request toolchain) names =
      some (filled request toolchain source) := by
  have inItems : item ∈ items request.language :=
    List.mem_append_left _ (List.mem_of_getElem? member)
  rw [← filled_fixedOutputs request toolchain _ (List.mem_of_getElem? fixed)] at leads
  rw [contentAt?_filesOf named toolchain inItems leads,
    source_of_mem (List.mem_of_getElem? isSource)]

/-- All files of fixed names are found under these. -/
theorem contentAt?_fixedFiles :
    ∀ pair ∈ fixedFiles,
      contentAt? (filesOf request toolchain) pair.1 =
        some (filled request toolchain pair.2) := by
  intro pair member
  simp only [fixedFiles, List.mem_cons, List.not_mem_nil, or_false] at member
  rcases member with rfl | rfl | rfl | rfl | rfl
  · exact contentAt?_of_place named toolchain 0 rfl rfl rfl (by decide)
  · exact contentAt?_of_place named toolchain 1 rfl rfl rfl (by decide)
  · exact contentAt?_of_place named toolchain 2 rfl rfl rfl (by decide)
  · exact contentAt?_of_place named toolchain 3 rfl rfl rfl (by decide)
  · exact contentAt?_of_place named toolchain 4 rfl rfl rfl (by decide)

theorem contentAt?_metadata :
    contentAt? (filesOf request toolchain) (resources ++ ["fabric.mod.json".toList]) =
      some (filled request toolchain metadata) :=
  contentAt?_fixedFiles named toolchain (resources ++ ["fabric.mod.json".toList], metadata)
    (List.mem_of_getElem? (rfl : fixedFiles[4]? = _))

theorem contentAt?_mixins :
    contentAt? (filesOf request toolchain) (resources ++ [mixinsName request]) =
      some (filled request toolchain mixins) := by
  have member : mixinsItem ∈ items request.language :=
    List.mem_of_getElem? (rfl : (items request.language)[5]? = some mixinsItem)
  have leads := components_mixins request toolchain named
  rw [contentAt?_filesOf named toolchain member leads, source_mixinsItem]

end

/--
Rendering an accepted request gives documents that are read back as the metadata
and the mixin configuration they were made from. The metadata names the mixin
configuration by the name of its file.
-/
theorem read?_rendered_documents
    {fields : Request.Fields}
    {request : Request}
    (accepted : Request.ofFields fields = .ok request)
    {toolchain : Toolchain}
    (plainLoader : Json.IsPlain toolchain.loaderVersion)
    (plainKotlin :
      request.language = .kotlin → Json.IsPlain toolchain.kotlin.fabricKotlin) :
    ∃ files,
      render request.brief toolchain.settings = .ok files ∧
        (contentAt? files (resources ++ ["fabric.mod.json".toList])).bind Json.read? =
          some (metadataDocument request toolchain) ∧
        (contentAt? files (resources ++ [mixinsName request])).bind Json.read? =
          some (mixinsDocument request toolchain) := by
  have named := Request.named_of_ofFields accepted
  have lineEnd : Json.IsGap ['\n'] := by
    decide
  refine ⟨_, render_eq request toolchain, ?_, ?_⟩
  · rw [contentAt?_metadata named, Option.bind_some,
      filled_metadata request toolchain plainLoader plainKotlin]
    exact Json.read?_layout _ (isIntegral_metadataDocument request toolchain) lineEnd
  · rw [contentAt?_mixins named, Option.bind_some, filled_mixins request toolchain]
    exact Json.read?_layout _ rfl lineEnd

/-- Values of a request whose name has quotes, line ends and directives of templates in it. -/
def quotedFields : Request.Fields where
  targetPath := some (.text "mod".toList)
  modId := some (.text "sample_mod".toList)
  modName := some (.text "\"Sample\"\\\n\x7b\x7b mod_id \x7d\x7d".toList)
  language := some (.text "kotlin".toList)
  mainClass := none

/-- The request with these values. -/
def quotedRequest : Request where
  targetPath := ⟨.relative, ["mod".toList]⟩
  modId := "sample_mod".toList
  modName := "\"Sample\"\\\n\x7b\x7b mod_id \x7d\x7d".toList
  language := .kotlin
  mainClass := MainClass.default

/-- The documents of a project with such a name are read back. -/
theorem read?_rendered_documents_quoted :
    Request.ofFields quotedFields = .ok quotedRequest ∧
      ∃ files,
        render quotedRequest.brief Toolchain.default.settings = .ok files ∧
          (contentAt? files (resources ++ ["fabric.mod.json".toList])).bind Json.read? =
            some (metadataDocument quotedRequest Toolchain.default) ∧
          (contentAt? files (resources ++ [mixinsName quotedRequest])).bind Json.read? =
            some (mixinsDocument quotedRequest Toolchain.default) := by
  have accepted : Request.ofFields quotedFields = .ok quotedRequest := rfl
  have plainLoader : Json.IsPlain Toolchain.default.loaderVersion := by
    decide
  have plainKotlin : Json.IsPlain Toolchain.default.kotlin.fabricKotlin := by
    decide
  exact ⟨accepted, read?_rendered_documents accepted plainLoader fun _ => plainKotlin⟩

end ModSkeleton.Project
