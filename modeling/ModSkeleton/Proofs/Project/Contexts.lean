import ModSkeleton.Project.Render
import ModSkeleton.Proofs.FileTree.Growth
import ModSkeleton.Proofs.Template.Outline

namespace ModSkeleton.Project

open Template

/-!
# Contexts of projects

The templates of a project are rendered in one context. It binds every name that they may
print, and the only one that they test; what each name prints is a fact of the request or
of the toolchain (`prints_contextOf`).
-/

/-- The names that the context of a project binds to texts. -/
def textNames : List Text :=
  ["minecraft_version", "minecraft_dependency", "yarn_mappings", "loader_version",
   "fabric_version", "loom_version", "mod_version", "kotlin_version",
   "fabric_kotlin_version", "mod_id", "mod_name", "main_class", "package",
   "package_path", "class_name", "maven_group", "archives_base_name", "source_dir",
   "extension"].map String.toList

/-- The other names that a project may print. -/
def otherNames : List Text :=
  ["java_version".toList]

/-- The only test that the templates of a project make. -/
def tests
    (language : Language)
    (word : Text) :
    Option Bool :=
  if word = "kotlin".toList then some (language == .kotlin) else none

/-- The context in which the project of a request is rendered with a toolchain. -/
def contextOf
    (request : Request)
    (toolchain : Toolchain) :
    Context :=
  [("minecraft_version".toList, .text toolchain.minecraftVersion),
   ("minecraft_dependency".toList, .text ('~' :: toolchain.minecraftVersion)),
   ("yarn_mappings".toList, .text toolchain.yarnMappings),
   ("loader_version".toList, .text toolchain.loaderVersion),
   ("fabric_version".toList, .text toolchain.fabricVersion),
   ("loom_version".toList, .text toolchain.loomVersion),
   ("java_version".toList, .int toolchain.javaVersion),
   ("mod_version".toList, .text toolchain.modVersion),
   ("kotlin_version".toList, .text toolchain.kotlin.kotlin),
   ("fabric_kotlin_version".toList, .text toolchain.kotlin.fabricKotlin),
   ("mod_id".toList, .text request.modId),
   ("mod_name".toList, .text request.modName),
   ("main_class".toList, .text request.mainClass),
   ("package".toList, .text request.package),
   ("package_path".toList, .text request.packagePath),
   ("class_name".toList, .text request.className),
   ("maven_group".toList, .text request.mavenGroup),
   ("archives_base_name".toList, .text request.archivesBaseName),
   ("kotlin".toList, .bool (request.language == .kotlin)),
   ("source_dir".toList, .text request.language.sourceDir),
   ("extension".toList, .text request.language.extension)]

section

variable
    (request : Request)
    (toolchain : Toolchain)

/-- A request and a toolchain always have a context. -/
theorem context_eq :
    context request.brief toolchain.settings = .ok (contextOf request toolchain) := by
  unfold context
  rw [Brief.names_brief]
  rfl

theorem nodup_names_contextOf :
    ((contextOf request toolchain).map Prod.fst).Nodup := by
  have names :
      (contextOf request toolchain).map Prod.fst =
        (contextOf ⟨⟨.relative, []⟩, [], [], .java, []⟩ .default).map Prod.fst :=
    rfl
  rw [names]
  decide

/-- What stands in the context of a project is what its name is bound to. -/
theorem lookup_contextOf
    {word : Text}
    {value : Json.Value}
    (member : (word, value) ∈ contextOf request toolchain) :
    (contextOf request toolchain).lookup word = some value :=
  lookup_of_nodup (nodup_names_contextOf request toolchain) member

/-- The name of an entry of a context that is a text. -/
def textName? : Text × Json.Value → Option Text
  | (word, .text _) => some word
  | _ => none

/-- The context of a project binds the names that templates use. -/
theorem binds_contextOf :
    (contextOf request toolchain).Binds textNames otherNames where
  texts := by
    have names : textNames = (contextOf request toolchain).filterMap textName? := rfl
    intro word member
    rw [names] at member
    obtain ⟨⟨name, value⟩, inContext, isText⟩ := List.mem_filterMap.mp member
    cases value with
    | text text =>
        cases isText
        exact ⟨text, lookup_contextOf request toolchain inContext⟩
    | _ => cases isText
  others := by
    intro word member
    obtain rfl := List.mem_singleton.mp member
    have inContext :
        ("java_version".toList, .int toolchain.javaVersion) ∈ contextOf request toolchain :=
      List.mem_of_getElem? (rfl : (contextOf request toolchain)[6]? = _)
    exact ⟨_, lookup_contextOf request toolchain inContext⟩

/-- Whether a project is in Kotlin is what its templates test. -/
theorem decides_contextOf :
    (contextOf request toolchain).Decides (tests request.language) := by
  intro word answer tested
  unfold tests at tested
  split at tested
  case isTrue isKotlin =>
    cases tested
    have inContext :
        (word, .bool (request.language == .kotlin)) ∈ contextOf request toolchain := by
      rw [isKotlin]
      exact List.mem_of_getElem? (rfl : (contextOf request toolchain)[18]? = _)
    exact ⟨_, lookup_contextOf request toolchain inContext, rfl⟩
  case isFalse => cases tested

theorem lookup_ownName_contextOf :
    (contextOf request toolchain).lookup Builtin.ownName = none :=
  rfl

/-- The text of a name is the printed value that stands in the context of a project. -/
theorem textOf_contextOf
    {word : Text}
    {value : Json.Value}
    (member : (word, value) ∈ contextOf request toolchain) :
    Chunk.textOf (contextOf request toolchain) word = value.display := by
  rw [Chunk.textOf, lookup_contextOf request toolchain member]
  rfl

/-- What the names that a project may print stand for. -/
structure Prints
    (request : Request)
    (toolchain : Toolchain)
    (text : Text → Text) :
    Prop where
  minecraftVersion : text "minecraft_version".toList = toolchain.minecraftVersion
  minecraftDependency :
    text "minecraft_dependency".toList = '~' :: toolchain.minecraftVersion
  yarnMappings : text "yarn_mappings".toList = toolchain.yarnMappings
  loaderVersion : text "loader_version".toList = toolchain.loaderVersion
  fabricVersion : text "fabric_version".toList = toolchain.fabricVersion
  loomVersion : text "loom_version".toList = toolchain.loomVersion
  javaVersion : text "java_version".toList = Text.decimal toolchain.javaVersion
  modVersion : text "mod_version".toList = toolchain.modVersion
  kotlinVersion : text "kotlin_version".toList = toolchain.kotlin.kotlin
  fabricKotlinVersion : text "fabric_kotlin_version".toList = toolchain.kotlin.fabricKotlin
  modId : text "mod_id".toList = request.modId
  modName : text "mod_name".toList = request.modName
  mainClass : text "main_class".toList = request.mainClass
  package : text "package".toList = request.package
  packagePath : text "package_path".toList = request.packagePath
  className : text "class_name".toList = request.className
  mavenGroup : text "maven_group".toList = request.mavenGroup
  archivesBaseName : text "archives_base_name".toList = request.archivesBaseName
  sourceDir : text "source_dir".toList = request.language.sourceDir
  extension : text "extension".toList = request.language.extension

/-- The context of a project prints its names as what they stand for. -/
theorem prints_contextOf :
    Prints request toolchain (Chunk.textOf (contextOf request toolchain)) := by
  have entry (index : Nat) {word : Text} {value : Json.Value}
      (stands : (contextOf request toolchain)[index]? = some (word, value)) :
      Chunk.textOf (contextOf request toolchain) word = value.display :=
    textOf_contextOf request toolchain (List.mem_of_getElem? stands)
  exact
    { minecraftVersion := entry 0 rfl
      minecraftDependency := entry 1 rfl
      yarnMappings := entry 2 rfl
      loaderVersion := entry 3 rfl
      fabricVersion := entry 4 rfl
      loomVersion := entry 5 rfl
      javaVersion := (entry 6 rfl).trans (Json.Value.display_int _)
      modVersion := entry 7 rfl
      kotlinVersion := entry 8 rfl
      fabricKotlinVersion := entry 9 rfl
      modId := entry 10 rfl
      modName := entry 11 rfl
      mainClass := entry 12 rfl
      package := entry 13 rfl
      packagePath := entry 14 rfl
      className := entry 15 rfl
      mavenGroup := entry 16 rfl
      archivesBaseName := entry 17 rfl
      sourceDir := entry 19 rfl
      extension := entry 20 rfl }

end

end ModSkeleton.Project
