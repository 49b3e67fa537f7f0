import ModSkeleton.Proofs.Project.Contexts

namespace ModSkeleton.Project

open Template

/-!
# Outlines of the bundled templates

Every bundled template has an outline in either language, and so has the path of every item.
The outlines are written out here, and it is checked once for each template that they are
its own (`hasOutlines_sources`, `hasOutlines_outputs`); what is said about templates later
on is said about their outlines. Their slots take names that the context of a project binds.
-/

/--
Whether a source has an outline in either language that a project can fill, and names that
are written in ASCII only.
-/
def isUsable
    (source : Text) :
    Bool :=
  match Node.parse source with
  | .ok nodes =>
      (Node.namesIn nodes).all Text.isAscii &&
        [Language.java, .kotlin].all fun language =>
          (Node.outlineAll? (tests language) nodes).any
            (·.all (·.uses textNames otherNames))
  | .error _ => false

/-- The outline of a source in a language. -/
def outlineOf
    (language : Language)
    (source : Text) :
    List Chunk :=
  (outlineOf? (tests language) source).getD []

/-- Whether a source with names in ASCII only has given outlines in the two languages. -/
def hasOutlines
    (outlines : Language → List Chunk)
    (source : Text) :
    Bool :=
  match Node.parse source with
  | .ok nodes =>
      (Node.namesIn nodes).all Text.isAscii &&
        [Language.java, .kotlin].all fun language =>
          Node.outlineAll? (tests language) nodes == some (outlines language)
  | .error _ => false

/-- Whether outlines use nothing but the names of a project. -/
def areUsable
    (outlines : Language → List Chunk) :
    Bool :=
  [Language.java, .kotlin].all fun language =>
    (outlines language).all (·.uses textNames otherNames)

section

variable
    {outlines : Language → List Chunk}
    {source : Text}
    (has : hasOutlines outlines source = true)

include has

theorem parse_of_hasOutlines :
    ∃ nodes,
      Node.parse source = .ok nodes ∧
        (Node.namesIn nodes).all Text.isAscii = true ∧
          ∀ language, Node.outlineAll? (tests language) nodes = some (outlines language) := by
  unfold hasOutlines at has
  split at has
  case h_1 nodes parsed =>
    obtain ⟨ascii, inLanguages⟩ := Bool.and_eq_true_iff.mp has
    refine ⟨nodes, parsed, ascii, ?_⟩
    intro language
    exact eq_of_beq
      (List.all_eq_true.mp inLanguages language (by cases language <;> simp))
  case h_2 => cases has

/-- A source with given outlines has these and no others. -/
theorem outlineOf_of_hasOutlines
    (language : Language) :
    outlineOf language source = outlines language := by
  obtain ⟨nodes, parsed, _, outlined⟩ := parse_of_hasOutlines has
  simp only [outlineOf, outlineOf?, parsed, outlined language, Option.getD_some]

/-- A source whose outlines use the names of a project is usable. -/
theorem isUsable_of_hasOutlines
    (usable : areUsable outlines = true) :
    isUsable source = true := by
  obtain ⟨nodes, parsed, ascii, outlined⟩ := parse_of_hasOutlines has
  simp only [isUsable, parsed, ascii, outlined, Option.any_some, Bool.true_and]
  exact usable

end

/--
Lines given as strings, with their characters. Unification finds the characters of
a string that is written out, where evaluating `String.toList` would decode its
bytes one by one.
-/
inductive Spelled : List String → List Text → Prop where
  | nil : Spelled [] []
  | cons
      {text : Text}
      {strings : List String}
      {texts : List Text}
      (later : Spelled strings texts) :
      Spelled (String.ofList text :: strings) (text :: texts)

theorem Spelled.map_toList
    {strings : List String}
    {texts : List Text}
    (spelled : Spelled strings texts) :
    strings.map String.toList = texts := by
  induction spelled with
  | nil => rfl
  | cons _ inductionHypothesis =>
      rw [List.map_cons, inductionHypothesis, String.toList_ofList]

/-! ## The templates of files -/

/-- The outline of the build script. -/
def buildScriptOutline
    (language : Language) :
    List Chunk :=
  [.text "plugins \x7b\n\tid 'fabric-loom' version '".toList,
   .slot "loom_version".toList,
   .text "'\n".toList] ++
  (match language with
   | .java => []
   | .kotlin =>
       [.text "\tid 'org.jetbrains.kotlin.jvm' version '".toList,
        .slot "kotlin_version".toList,
        .text "'\n".toList]) ++
  [.text
     ("\tid 'maven-publish'\n\x7d\n\nversion = project.mod_version\n".toList ++
       "group = project.maven_group\ndescription = ".toList),
   .filtered .groovyString "mod_name".toList [],
   .text
     ("\n\nbase \x7b\n\tarchivesName = project.archives_base_name\n\x7d\n\n".toList ++
       "repositories \x7b\n\x7d\n\nloom \x7b\n\tmods \x7b\n\t\t".toList),
   .filtered .groovyString "mod_id".toList [],
   .text
     (" \x7b\n\t\t\tsourceSet sourceSets.main\n\t\t\x7d\n\t\x7d\n\x7d\n\n".toList ++
       "dependencies \x7b\n".toList ++
       "\tminecraft \"com.mojang:minecraft:${project.minecraft_version}\"\n".toList ++
       "\tmappings \"net.fabricmc:yarn:${project.yarn_mappings}:v2\"\n".toList ++
       "\tmodImplementation \"net.fabricmc:fabric-loader:${project.loader_version}\"\n".toList ++
       "\tmodImplementation ".toList ++
       "\"net.fabricmc.fabric-api:fabric-api:${project.fabric_version}\"\n".toList)] ++
  (match language with
   | .java => []
   | .kotlin =>
       [.text
          ("\tmodImplementation ".toList ++
            "\"net.fabricmc:fabric-language-kotlin:".toList ++
            "${project.fabric_kotlin_version}\"\n".toList)]) ++
  [.text
     ("\x7d\n\nprocessResources \x7b\n".toList ++
       "\tinputs.property \"version\", project.version\n\n".toList ++
       "\tfilesMatching(\"fabric.mod.json\") \x7b\n\t\tfilter \x7b line -> ".toList ++
       "line.replace('${version}', project.version.toString()) \x7d\n\t\x7d\n\x7d\n\n".toList ++
       "tasks.withType(JavaCompile).configureEach \x7b\n\tit.options.release = ".toList),
   .slot "java_version".toList,
   .text "\n\x7d\n".toList] ++
  (match language with
   | .java => []
   | .kotlin =>
       [.text "\nkotlin \x7b\n\tjvmToolchain(".toList,
        .slot "java_version".toList,
        .text ")\n\x7d\n".toList]) ++
  [.text
     "\njava \x7b\n\twithSourcesJar()\n\n\tsourceCompatibility = JavaVersion.VERSION_".toList,
   .slot "java_version".toList,
   .text "\n\ttargetCompatibility = JavaVersion.VERSION_".toList,
   .slot "java_version".toList,
   .text
     ("\n\x7d\n\njar \x7b\n\tfrom(\"LICENSE\") \x7b\n\t\t".toList ++
       "rename \x7b \"${it}_$\x7bproject.base.archivesName.get()\x7d\" \x7d\n".toList ++
       "\t\x7d\n\x7d\n".toList)]

/-- The outline of the settings. -/
def buildSettingsOutline : List Chunk :=
  [.text
     ("pluginManagement \x7b\n\trepositories \x7b\n\t\tmaven \x7b\n".toList ++
       "\t\t\tname = 'Fabric'\n\t\t\turl = 'https://maven.fabricmc.net/'\n\t\t\x7d\n".toList ++
       "\t\tmavenCentral()\n\t\tgradlePluginPortal()\n\t\x7d\n\x7d\n\n".toList ++
       "rootProject.name = ".toList),
   .filtered .groovyString "mod_id".toList [],
   .text ['\n']]

/-- The outline of the properties. -/
def buildPropertiesOutline
    (language : Language) :
    List Chunk :=
  [.text
     ("# Done to increase the memory available to gradle.\n".toList ++
       "org.gradle.jvmargs=-Xmx1G\norg.gradle.parallel=true\n\n".toList ++
       "# Fabric Properties\nminecraft_version=".toList),
   .slot "minecraft_version".toList,
   .text "\nyarn_mappings=".toList,
   .slot "yarn_mappings".toList,
   .text "\nloader_version=".toList,
   .slot "loader_version".toList,
   .text "\n\n# Mod Properties\nmod_version=".toList,
   .slot "mod_version".toList,
   .text "\nmaven_group=".toList,
   .slot "maven_group".toList,
   .text "\narchives_base_name=".toList,
   .slot "archives_base_name".toList,
   .text "\n\n# Dependencies\nfabric_version=".toList,
   .slot "fabric_version".toList,
   .text ['\n']] ++
  (match language with
   | .java => []
   | .kotlin =>
       [.text "fabric_kotlin_version=".toList,
        .slot "fabric_kotlin_version".toList,
        .text ['\n']]) ++
  [.text []]

/-- The outline of the list of ignored files. -/
def ignoredFilesOutline : List Chunk :=
  [.text
     ("# gradle\n\n.gradle/\nbuild/\nout/\nclasses/\n\n# eclipse\n\n*.launch\n\n".toList ++
       "# idea\n\n.idea/\n*.iml\n*.ipr\n*.iws\n\n".toList ++
       "# vscode\n\n.settings/\n.vscode/\nbin/\n.classpath\n.project\n\n".toList ++
       "# macos\n\n*.DS_Store\n\n# fabric\n\nrun/\n\n".toList ++
       "# java\n\nhs_err_*.log\nreplay_*.log\n*.hprof\n*.jfr\n".toList)]

/-- The outline of the metadata. -/
def metadataOutline
    (language : Language) :
    List Chunk :=
  [.text "\x7b\n  \"schemaVersion\": 1,\n  \"id\": ".toList,
   .filtered .jsonString "mod_id".toList [],
   .text ",\n  \"version\": \"$\x7bversion\x7d\",\n  \"name\": ".toList,
   .filtered .jsonString "mod_name".toList [],
   .text
     (",\n  \"description\": \"\",\n  \"authors\": [],\n  \"contact\": \x7b\x7d".toList ++
       ",\n  \"license\": \"CC0-1.0\",\n  \"environment\": \"*\"".toList ++
       ",\n  \"entrypoints\": \x7b\n    \"main\": [\n      ".toList),
   .filtered .jsonString "main_class".toList [],
   .text "\n    ]\n  \x7d,\n  \"mixins\": [\n    ".toList,
   .filtered .jsonString "mod_id".toList ".mixins.json".toList,
   .text "\n  ],\n  \"depends\": \x7b\n    \"fabricloader\": \">=".toList,
   .slot "loader_version".toList,
   .text "\",\n    \"minecraft\": ".toList,
   .filtered .jsonString "minecraft_dependency".toList [],
   .text ",\n    \"java\": \">=".toList,
   .slot "java_version".toList,
   .text "\",\n".toList] ++
  (match language with
   | .java => []
   | .kotlin =>
       [.text "    \"fabric-language-kotlin\": \">=".toList,
        .slot "fabric_kotlin_version".toList,
        .text "\",\n".toList]) ++
  [.text "    \"fabric-api\": \"*\"\n  \x7d\n\x7d\n".toList]

/-- The outline of the mixin configuration. -/
def mixinsOutline : List Chunk :=
  [.text "\x7b\n  \"required\": true,\n  \"package\": ".toList,
   .filtered .jsonString "package".toList ".mixin".toList,
   .text ",\n  \"compatibilityLevel\": \"JAVA_".toList,
   .slot "java_version".toList,
   .text
     ("\",\n  \"mixins\": [],\n  \"client\": []".toList ++
       ",\n  \"injectors\": \x7b\n    \"defaultRequire\": 1\n  \x7d\n\x7d\n".toList)]

/-- The beginning of the declaration of the mod id in an entry point. -/
def declarationStart : Text :=
  "MOD_ID = \"".toList

/-- The outline of the entry point in a language. -/
def entryPointOutline : Language → List Chunk
  | .java =>
      [.text "package ".toList,
       .slot "package".toList,
       .text
         (";\n\nimport net.fabricmc.api.ModInitializer;\n\nimport org.slf4j.Logger;\n".toList ++
           "import org.slf4j.LoggerFactory;\n\npublic class ".toList),
       .slot "class_name".toList] ++
      [.text
         (" implements ModInitializer \x7b\n\tpublic static final String ".toList ++
           declarationStart),
       .slot "mod_id".toList,
       .text
         ('"' ::
           (";\n\tpublic static final Logger LOGGER = LoggerFactory.getLogger(MOD_ID);".toList ++
             "\n\n\t@Override\n\tpublic void onInitialize() \x7b\n\t\t".toList ++
             "LOGGER.info(\"Hello Fabric world!\");\n\t\x7d\n\x7d\n".toList))]
  | .kotlin =>
      [.text "package ".toList,
       .slot "package".toList,
       .text
         ("\n\nimport net.fabricmc.api.ModInitializer\nimport org.slf4j.LoggerFactory".toList ++
           "\n\nclass ".toList),
       .slot "class_name".toList] ++
      [.text
         (" : ModInitializer \x7b\n\tprivate val logger = ".toList ++
           "LoggerFactory.getLogger(MOD_ID)\n\n\toverride fun onInitialize() \x7b\n".toList ++
           "\t\tlogger.info(\"Hello Fabric world!\")\n\t\x7d\n\n\tcompanion object ".toList ++
           "\x7b\n\t\tconst val ".toList ++ declarationStart),
       .slot "mod_id".toList,
       .text ('"' :: "\n\t\x7d\n\x7d\n".toList)]

/-- The template of the entry point in a language. -/
def entryPointSource : Language → Text
  | .java => javaEntryPoint
  | .kotlin => kotlinEntryPoint

theorem hasOutlines_buildScript :
    hasOutlines buildScriptOutline buildScript = true := by
  unfold buildScript buildScriptOutline
  rw [Spelled.map_toList (by repeat' constructor)]
  repeat rw [String.toList_ofList]
  decide +kernel

theorem hasOutlines_buildSettings :
    hasOutlines (fun _ => buildSettingsOutline) buildSettings = true := by
  unfold buildSettings buildSettingsOutline
  rw [Spelled.map_toList (by repeat' constructor)]
  repeat rw [String.toList_ofList]
  decide +kernel

theorem hasOutlines_buildProperties :
    hasOutlines buildPropertiesOutline buildProperties = true := by
  unfold buildProperties buildPropertiesOutline
  rw [Spelled.map_toList (by repeat' constructor)]
  repeat rw [String.toList_ofList]
  decide +kernel

theorem hasOutlines_ignoredFiles :
    hasOutlines (fun _ => ignoredFilesOutline) ignoredFiles = true := by
  unfold ignoredFiles ignoredFilesOutline
  rw [Spelled.map_toList (by repeat' constructor)]
  repeat rw [String.toList_ofList]
  decide +kernel

theorem hasOutlines_metadata :
    hasOutlines metadataOutline metadata = true := by
  unfold metadata metadataOutline
  rw [Spelled.map_toList (by repeat' constructor)]
  repeat rw [String.toList_ofList]
  decide +kernel

theorem hasOutlines_mixins :
    hasOutlines (fun _ => mixinsOutline) mixins = true := by
  unfold mixins mixinsOutline
  rw [Spelled.map_toList (by repeat' constructor)]
  repeat rw [String.toList_ofList]
  decide +kernel

theorem hasOutlines_javaEntryPoint :
    hasOutlines (fun _ => entryPointOutline .java) javaEntryPoint = true := by
  unfold javaEntryPoint entryPointOutline declarationStart
  rw [Spelled.map_toList (by repeat' constructor)]
  repeat rw [String.toList_ofList]
  decide +kernel

theorem hasOutlines_kotlinEntryPoint :
    hasOutlines (fun _ => entryPointOutline .kotlin) kotlinEntryPoint = true := by
  unfold kotlinEntryPoint entryPointOutline declarationStart
  rw [Spelled.map_toList (by repeat' constructor)]
  repeat rw [String.toList_ofList]
  decide +kernel

theorem outlineOf_entryPoint
    (language : Language) :
    outlineOf language (entryPointSource language) = entryPointOutline language := by
  cases language with
  | java => exact outlineOf_of_hasOutlines hasOutlines_javaEntryPoint _
  | kotlin => exact outlineOf_of_hasOutlines hasOutlines_kotlinEntryPoint _

/-- The bundled templates under their names, with their outlines. -/
def sourceOutlines : List (Text × Text × (Language → List Chunk)) :=
  [("common/build.gradle.j2".toList, buildScript, buildScriptOutline),
   ("common/settings.gradle.j2".toList, buildSettings, fun _ => buildSettingsOutline),
   ("common/gradle.properties.j2".toList, buildProperties, buildPropertiesOutline),
   ("common/gitignore.j2".toList, ignoredFiles, fun _ => ignoredFilesOutline),
   ("common/fabric.mod.json.j2".toList, metadata, metadataOutline),
   ("common/mixins.json.j2".toList, mixins, fun _ => mixinsOutline),
   ("java/Entrypoint.java.j2".toList, javaEntryPoint, fun _ => entryPointOutline .java),
   ("kotlin/Entrypoint.kt.j2".toList, kotlinEntryPoint, fun _ => entryPointOutline .kotlin)]

/-- These outlines are those of the templates. -/
theorem hasOutlines_sources :
    ∀ entry ∈ sourceOutlines, hasOutlines entry.2.2 entry.2.1 = true := by
  simp only [sourceOutlines, List.forall_mem_cons, List.not_mem_nil, false_implies, implies_true,
    and_true]
  exact
    ⟨hasOutlines_buildScript, hasOutlines_buildSettings, hasOutlines_buildProperties,
      hasOutlines_ignoredFiles, hasOutlines_metadata, hasOutlines_mixins,
      hasOutlines_javaEntryPoint, hasOutlines_kotlinEntryPoint⟩

/-- Every template is listed. -/
theorem exists_source
    {pair : Text × Text}
    (member : pair ∈ sources) :
    ∃ entry ∈ sourceOutlines, (entry.1, entry.2.1) = pair := by
  have same : sources = sourceOutlines.map fun entry => (entry.1, entry.2.1) := rfl
  rw [same] at member
  exact List.mem_map.mp member

/-- What holds of the listed outlines holds of the outlines of all templates. -/
theorem outlineOf_source
    (check : Text → List Chunk → Bool)
    (language : Language)
    (all : ∀ entry ∈ sourceOutlines, check entry.1 (entry.2.2 language) = true)
    {pair : Text × Text}
    (member : pair ∈ sources) :
    check pair.1 (outlineOf language pair.2) = true := by
  obtain ⟨entry, listed, rfl⟩ := exists_source member
  rw [outlineOf_of_hasOutlines (hasOutlines_sources entry listed)]
  exact all entry listed

/-- Every bundled template is usable. -/
theorem isUsable_sources :
    ∀ pair ∈ sources, isUsable pair.2 = true := by
  have usable : ∀ entry ∈ sourceOutlines, areUsable entry.2.2 = true := by
    decide +kernel
  intro pair member
  obtain ⟨entry, listed, rfl⟩ := exists_source member
  exact isUsable_of_hasOutlines (hasOutlines_sources entry listed) (usable entry listed)

/-! ## The templates of paths -/

/-- The paths of items that do not depend on the request. -/
def fixedOutputs : List Text :=
  ["build.gradle".toList, "settings.gradle".toList, "gradle.properties".toList,
   ".gitignore".toList, "src/main/resources/fabric.mod.json".toList]

/-- The path of the mixin configuration, with a slot for the mod id. -/
def mixinsOutput : Text :=
  "src/main/resources/{{ mod_id }}.mixins.json".toList

/-- The paths of all items with their outlines. -/
def outputOutlines : List (Text × List Chunk) :=
  fixedOutputs.map (fun output => (output, [.text output])) ++
    [(mixinsOutput,
       [.text "src/main/resources/".toList, .slot "mod_id".toList,
        .text ".mixins.json".toList]),
     (entryPointOutput,
       [.text "src/main/".toList, .slot "source_dir".toList, .text ['/'],
        .slot "package_path".toList, .text ['/'], .slot "class_name".toList, .text ['.'],
        .slot "extension".toList, .text []])]

theorem hasOutlines_outputs :
    ∀ pair ∈ outputOutlines, hasOutlines (fun _ => pair.2) pair.1 = true := by
  unfold outputOutlines fixedOutputs mixinsOutput entryPointOutput
  repeat rw [String.toList_ofList]
  decide +kernel

theorem outlineOf_outputs
    (language : Language) :
    ∀ pair ∈ outputOutlines, outlineOf language pair.1 = pair.2 :=
  fun pair listed => outlineOf_of_hasOutlines (hasOutlines_outputs pair listed) language

/-- The path of every item is listed. -/
theorem exists_output
    {language : Language}
    {item : Item}
    (member : item ∈ items language) :
    ∃ pair ∈ outputOutlines, pair.1 = item.output := by
  have listed : ∀ item ∈ items language, item.output ∈ outputOutlines.map Prod.fst := by
    cases language <;> decide
  exact List.mem_map.mp (listed item member)

/-- What holds of the listed outlines holds of the outlines of the paths of all items. -/
theorem outlineOf_output
    (check : List Chunk → Bool)
    (all : ∀ pair ∈ outputOutlines, check pair.2 = true)
    {language : Language}
    {item : Item}
    (member : item ∈ items language) :
    check (outlineOf language item.output) = true := by
  obtain ⟨pair, listed, sameOutput⟩ := exists_output member
  rw [← sameOutput, outlineOf_outputs language pair listed]
  exact all pair listed

theorem isUsable_outputs
    (language : Language) :
    ∀ item ∈ items language, isUsable item.output = true := by
  have usable : ∀ pair ∈ outputOutlines, areUsable (fun _ => pair.2) = true := by
    decide
  intro item member
  obtain ⟨pair, listed, sameOutput⟩ := exists_output member
  rw [← sameOutput]
  exact isUsable_of_hasOutlines (hasOutlines_outputs pair listed) (usable pair listed)

end ModSkeleton.Project
