import ModSkeleton.Template.Library

namespace ModSkeleton.Project

/-!
# Bundled templates

The sources of the templates that a project is rendered from, as lists of lines.
Lines that depend on the language stand between directives on lines of their own.
-/

/-- The Gradle build script. -/
def buildScript : Text :=
  Text.ofLines <| List.map String.toList
    ["plugins \x7b",
     "\tid 'fabric-loom' version '{{ loom_version }}'",
     "{% if kotlin %}",
     "\tid 'org.jetbrains.kotlin.jvm' version '{{ kotlin_version }}'",
     "{% endif %}",
     "\tid 'maven-publish'",
     "\x7d",
     "",
     "version = project.mod_version",
     "group = project.maven_group",
     "description = {{ mod_name|groovy_string }}",
     "",
     "base \x7b",
     "\tarchivesName = project.archives_base_name",
     "\x7d",
     "",
     "repositories \x7b",
     "\x7d",
     "",
     "loom \x7b",
     "\tmods \x7b",
     "\t\t{{ mod_id|groovy_string }} \x7b",
     "\t\t\tsourceSet sourceSets.main",
     "\t\t\x7d",
     "\t\x7d",
     "\x7d",
     "",
     "dependencies \x7b",
     "\tminecraft \"com.mojang:minecraft:${project.minecraft_version}\"",
     "\tmappings \"net.fabricmc:yarn:${project.yarn_mappings}:v2\"",
     "\tmodImplementation \"net.fabricmc:fabric-loader:${project.loader_version}\"",
     "\tmodImplementation \"net.fabricmc.fabric-api:fabric-api:${project.fabric_version}\"",
     "{% if kotlin %}",
     "\tmodImplementation \"net.fabricmc:fabric-language-kotlin:${project.fabric_kotlin_version}\"",
     "{% endif %}",
     "\x7d",
     "",
     "processResources \x7b",
     "\tinputs.property \"version\", project.version",
     "",
     "\tfilesMatching(\"fabric.mod.json\") \x7b",
     "\t\tfilter \x7b line -> line.replace('${version}', project.version.toString()) \x7d",
     "\t\x7d",
     "\x7d",
     "",
     "tasks.withType(JavaCompile).configureEach \x7b",
     "\tit.options.release = {{ java_version }}",
     "\x7d",
     "{% if kotlin %}",
     "",
     "kotlin \x7b",
     "\tjvmToolchain({{ java_version }})",
     "\x7d",
     "{% endif %}",
     "",
     "java \x7b",
     "\twithSourcesJar()",
     "",
     "\tsourceCompatibility = JavaVersion.VERSION_{{ java_version }}",
     "\ttargetCompatibility = JavaVersion.VERSION_{{ java_version }}",
     "\x7d",
     "",
     "jar \x7b",
     "\tfrom(\"LICENSE\") \x7b",
     "\t\trename \x7b \"${it}_$\x7bproject.base.archivesName.get()\x7d\" \x7d",
     "\t\x7d",
     "\x7d"]

/-- The Gradle settings. -/
def buildSettings : Text :=
  Text.ofLines <| List.map String.toList
    ["pluginManagement \x7b",
     "\trepositories \x7b",
     "\t\tmaven \x7b",
     "\t\t\tname = 'Fabric'",
     "\t\t\turl = 'https://maven.fabricmc.net/'",
     "\t\t\x7d",
     "\t\tmavenCentral()",
     "\t\tgradlePluginPortal()",
     "\t\x7d",
     "\x7d",
     "",
     "rootProject.name = {{ mod_id|groovy_string }}"]

/-- The Gradle properties. -/
def buildProperties : Text :=
  Text.ofLines <| List.map String.toList
    ["# Done to increase the memory available to gradle.",
     "org.gradle.jvmargs=-Xmx1G",
     "org.gradle.parallel=true",
     "",
     "# Fabric Properties",
     "minecraft_version={{ minecraft_version }}",
     "yarn_mappings={{ yarn_mappings }}",
     "loader_version={{ loader_version }}",
     "",
     "# Mod Properties",
     "mod_version={{ mod_version }}",
     "maven_group={{ maven_group }}",
     "archives_base_name={{ archives_base_name }}",
     "",
     "# Dependencies",
     "fabric_version={{ fabric_version }}",
     "{% if kotlin %}",
     "fabric_kotlin_version={{ fabric_kotlin_version }}",
     "{% endif %}"]

/-- The list of files that version control ignores. -/
def ignoredFiles : Text :=
  Text.ofLines <| List.map String.toList
    ["# gradle",
     "",
     ".gradle/",
     "build/",
     "out/",
     "classes/",
     "",
     "# eclipse",
     "",
     "*.launch",
     "",
     "# idea",
     "",
     ".idea/",
     "*.iml",
     "*.ipr",
     "*.iws",
     "",
     "# vscode",
     "",
     ".settings/",
     ".vscode/",
     "bin/",
     ".classpath",
     ".project",
     "",
     "# macos",
     "",
     "*.DS_Store",
     "",
     "# fabric",
     "",
     "run/",
     "",
     "# java",
     "",
     "hs_err_*.log",
     "replay_*.log",
     "*.hprof",
     "*.jfr"]

/-- The metadata of the mod. -/
def metadata : Text :=
  Text.ofLines <| List.map String.toList
    ["\x7b",
     "  \"schemaVersion\": 1,",
     "  \"id\": {{ mod_id|json_string }},",
     "  \"version\": \"${version}\",",
     "  \"name\": {{ mod_name|json_string }},",
     "  \"description\": \"\",",
     "  \"authors\": [],",
     "  \"contact\": \x7b\x7d,",
     "  \"license\": \"CC0-1.0\",",
     "  \"environment\": \"*\",",
     "  \"entrypoints\": \x7b",
     "    \"main\": [",
     "      {{ main_class|json_string }}",
     "    ]",
     "  \x7d,",
     "  \"mixins\": [",
     "    \x7b\x7b (mod_id ~ \".mixins.json\")|json_string \x7d\x7d",
     "  ],",
     "  \"depends\": \x7b",
     "    \"fabricloader\": \">={{ loader_version }}\",",
     "    \"minecraft\": {{ minecraft_dependency|json_string }},",
     "    \"java\": \">={{ java_version }}\",",
     "{% if kotlin %}",
     "    \"fabric-language-kotlin\": \">={{ fabric_kotlin_version }}\",",
     "{% endif %}",
     "    \"fabric-api\": \"*\"",
     "  \x7d",
     "\x7d"]

/-- The mixin configuration. -/
def mixins : Text :=
  Text.ofLines <| List.map String.toList
    ["\x7b",
     "  \"required\": true,",
     "  \"package\": \x7b\x7b (package ~ \".mixin\")|json_string \x7d\x7d,",
     "  \"compatibilityLevel\": \"JAVA_{{ java_version }}\",",
     "  \"mixins\": [],",
     "  \"client\": [],",
     "  \"injectors\": \x7b",
     "    \"defaultRequire\": 1",
     "  \x7d",
     "\x7d"]

/-- The entry point in Java. -/
def javaEntryPoint : Text :=
  Text.ofLines <| List.map String.toList
    ["package {{ package }};",
     "",
     "import net.fabricmc.api.ModInitializer;",
     "",
     "import org.slf4j.Logger;",
     "import org.slf4j.LoggerFactory;",
     "",
     "public class {{ class_name }} implements ModInitializer \x7b",
     "\tpublic static final String MOD_ID = \"{{ mod_id }}\";",
     "\tpublic static final Logger LOGGER = LoggerFactory.getLogger(MOD_ID);",
     "",
     "\t@Override",
     "\tpublic void onInitialize() \x7b",
     "\t\tLOGGER.info(\"Hello Fabric world!\");",
     "\t\x7d",
     "\x7d"]

/-- The entry point in Kotlin. -/
def kotlinEntryPoint : Text :=
  Text.ofLines <| List.map String.toList
    ["package {{ package }}",
     "",
     "import net.fabricmc.api.ModInitializer",
     "import org.slf4j.LoggerFactory",
     "",
     "class {{ class_name }} : ModInitializer \x7b",
     "\tprivate val logger = LoggerFactory.getLogger(MOD_ID)",
     "",
     "\toverride fun onInitialize() \x7b",
     "\t\tlogger.info(\"Hello Fabric world!\")",
     "\t\x7d",
     "",
     "\tcompanion object \x7b",
     "\t\tconst val MOD_ID = \"{{ mod_id }}\"",
     "\t\x7d",
     "\x7d"]

/-- The sources of all bundled templates under their names. -/
def sources : List (Text × Text) :=
  [("common/build.gradle.j2".toList, buildScript),
   ("common/settings.gradle.j2".toList, buildSettings),
   ("common/gradle.properties.j2".toList, buildProperties),
   ("common/gitignore.j2".toList, ignoredFiles),
   ("common/fabric.mod.json.j2".toList, metadata),
   ("common/mixins.json.j2".toList, mixins),
   ("java/Entrypoint.java.j2".toList, javaEntryPoint),
   ("kotlin/Entrypoint.kt.j2".toList, kotlinEntryPoint)]

/-- Where the bundled templates are installed. -/
def installedAt : Location :=
  ["modgen".toList, "scaffolder".toList, "templates".toList]

/-- The library of the bundled templates. -/
def bundled : Template.Library :=
  Template.Library.ofFilesAt installedAt sources

end ModSkeleton.Project
