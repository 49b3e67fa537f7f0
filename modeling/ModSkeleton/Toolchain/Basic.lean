import ModSkeleton.Toolchain.JavaVersion

namespace ModSkeleton

/-!
# Toolchains

The versions of the tools that a generated project is built with.
`Toolchain.ofFields` checks given values and reports every issue in the order of
the fields, those of the Kotlin section last.
-/

/-- Versions that only Kotlin projects use. -/
structure KotlinVersions where
  kotlin : Text
  fabricKotlin : Text
  deriving Repr, DecidableEq

/-- The versions a project is built with. -/
structure Toolchain where
  minecraftVersion : Text
  yarnMappings : Text
  loaderVersion : Text
  fabricVersion : Text
  loomVersion : Text
  javaVersion : Int
  modVersion : Text
  kotlin : KotlinVersions
  deriving Repr, DecidableEq

namespace Toolchain

/-- The toolchain of a project unless another is asked for. -/
def default : Toolchain where
  minecraftVersion := "1.20.4".toList
  yarnMappings := "1.20.4+build.3".toList
  loaderVersion := "0.15.6".toList
  fabricVersion := "0.95.4+1.20.4".toList
  loomVersion := "1.5-SNAPSHOT".toList
  javaVersion := JavaVersion.minimum
  modVersion := "1.0.0".toList
  kotlin := ⟨"1.9.22".toList, "1.10.17+kotlin.1.9.22".toList⟩

/-- What holds of a toolchain that passed the checks. -/
structure Valid (toolchain : Toolchain) : Prop where
  javaVersion : JavaVersion.minimum ≤ toolchain.javaVersion

/-- The Kotlin section with the given values, or what is wrong with them. -/
def kotlinOfFields
    (members : List (Text × Json.Value)) :
    Except (List LocatedIssue) KotlinVersions :=
  let kotlin :=
    Issue.checkOr default.kotlin.kotlin Issue.checkText
      (members.lookup "kotlin_version".toList)
  let fabricKotlin :=
    Issue.checkOr default.kotlin.fabricKotlin Issue.checkText
      (members.lookup "fabric_kotlin_version".toList)
  match kotlin, fabricKotlin with
  | .ok kotlin, .ok fabricKotlin => .ok { kotlin, fabricKotlin }
  | _, _ =>
      .error
        (Issue.locate ["kotlin".toList, "kotlin_version".toList] kotlin ++
          Issue.locate ["kotlin".toList, "fabric_kotlin_version".toList] fabricKotlin)

/-- The Kotlin section of given values. -/
def kotlinOfField :
    Option Json.Value → Except (List LocatedIssue) KotlinVersions
  | none => .ok default.kotlin
  | some (.object members) => kotlinOfFields members
  | some _ => .error [⟨["kotlin".toList], .notSection⟩]

/-- The toolchain with the given values, or everything that is wrong with them. -/
def ofFields
    (members : List (Text × Json.Value)) :
    Except (List LocatedIssue) Toolchain :=
  let version (name : String) (fallback : Text) : Except Issue Text :=
    Issue.checkOr fallback Issue.checkText (members.lookup name.toList)
  let minecraftVersion := version "minecraft_version" default.minecraftVersion
  let yarnMappings := version "yarn_mappings" default.yarnMappings
  let loaderVersion := version "loader_version" default.loaderVersion
  let fabricVersion := version "fabric_version" default.fabricVersion
  let loomVersion := version "loom_version" default.loomVersion
  let javaVersion :=
    Issue.checkOr default.javaVersion JavaVersion.check
      (members.lookup "java_version".toList)
  let modVersion := version "mod_version" default.modVersion
  let kotlin := kotlinOfField (members.lookup "kotlin".toList)
  match minecraftVersion, yarnMappings, loaderVersion, fabricVersion, loomVersion,
      javaVersion, modVersion, kotlin with
  | .ok minecraftVersion, .ok yarnMappings, .ok loaderVersion, .ok fabricVersion,
      .ok loomVersion, .ok javaVersion, .ok modVersion, .ok kotlin =>
      .ok { minecraftVersion, yarnMappings, loaderVersion, fabricVersion, loomVersion,
            javaVersion, modVersion, kotlin }
  | _, _, _, _, _, _, _, _ =>
      .error
        (Issue.locate ["minecraft_version".toList] minecraftVersion ++
          Issue.locate ["yarn_mappings".toList] yarnMappings ++
          Issue.locate ["loader_version".toList] loaderVersion ++
          Issue.locate ["fabric_version".toList] fabricVersion ++
          Issue.locate ["loom_version".toList] loomVersion ++
          Issue.locate ["java_version".toList] javaVersion ++
          Issue.locate ["mod_version".toList] modVersion ++
          match kotlin with
          | .ok _ => []
          | .error issues => issues)

end Toolchain

end ModSkeleton
