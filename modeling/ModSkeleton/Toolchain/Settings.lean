import ModSkeleton.Toolchain.Basic

namespace ModSkeleton

/-!
# Settings

Settings are what templates see of a toolchain: every version as a value. The
settings of a toolchain may be overridden one by one without being checked, so
an overridden version can be any value at all. `Settings.context` names the
values as templates do.
-/

/-- The Kotlin section of settings: its two versions, or a value that has none. -/
inductive KotlinSettings where
  | versions (kotlin fabricKotlin : Json.Value)
  | other (value : Json.Value)
  deriving Repr

/-- The versions a project is built with, as values that need not be checked. -/
structure Settings where
  minecraftVersion : Json.Value
  yarnMappings : Json.Value
  loaderVersion : Json.Value
  fabricVersion : Json.Value
  loomVersion : Json.Value
  javaVersion : Json.Value
  modVersion : Json.Value
  kotlin : KotlinSettings
  deriving Repr

namespace Toolchain

/-- The settings of a toolchain. -/
def settings
    (toolchain : Toolchain) :
    Settings where
  minecraftVersion := .text toolchain.minecraftVersion
  yarnMappings := .text toolchain.yarnMappings
  loaderVersion := .text toolchain.loaderVersion
  fabricVersion := .text toolchain.fabricVersion
  loomVersion := .text toolchain.loomVersion
  javaVersion := .int toolchain.javaVersion
  modVersion := .text toolchain.modVersion
  kotlin := .versions (.text toolchain.kotlin.kotlin) (.text toolchain.kotlin.fabricKotlin)

end Toolchain

namespace Settings

/-- The settings with one of them overridden; unknown names change nothing. -/
def override
    (settings : Settings)
    (name : Text)
    (value : Json.Value) :
    Settings :=
  if name = "minecraft_version".toList then { settings with minecraftVersion := value }
  else if name = "yarn_mappings".toList then { settings with yarnMappings := value }
  else if name = "loader_version".toList then { settings with loaderVersion := value }
  else if name = "fabric_version".toList then { settings with fabricVersion := value }
  else if name = "loom_version".toList then { settings with loomVersion := value }
  else if name = "java_version".toList then { settings with javaVersion := value }
  else if name = "mod_version".toList then { settings with modVersion := value }
  else if name = "kotlin".toList then { settings with kotlin := .other value }
  else settings

/-- The settings with some of them overridden, later values over earlier ones. -/
def overrideAll
    (settings : Settings)
    (members : List (Text × Json.Value)) :
    Settings :=
  members.foldl (fun current member => current.override member.1 member.2) settings

/-- The constraint on the game version: the given release and its patches. -/
def minecraftDependency
    (settings : Settings) :
    Text :=
  '~' :: settings.minecraftVersion.display

/-- The values of settings under the names that templates use. -/
def context
    (settings : Settings) :
    Except Json.WrongKind (List (Text × Json.Value)) :=
  match settings.kotlin with
  | .other value => .error (.of value "kotlin_version")
  | .versions kotlin fabricKotlin =>
      .ok
        [("minecraft_version".toList, settings.minecraftVersion),
         ("minecraft_dependency".toList, .text settings.minecraftDependency),
         ("yarn_mappings".toList, settings.yarnMappings),
         ("loader_version".toList, settings.loaderVersion),
         ("fabric_version".toList, settings.fabricVersion),
         ("loom_version".toList, settings.loomVersion),
         ("java_version".toList, settings.javaVersion),
         ("mod_version".toList, settings.modVersion),
         ("kotlin_version".toList, kotlin),
         ("fabric_kotlin_version".toList, fabricKotlin)]

/-- The settings given by checked fields and overrides on top of them. -/
def ofFields
    (fields overrides : List (Text × Json.Value)) :
    Except (List LocatedIssue) Settings :=
  match Toolchain.ofFields fields with
  | .ok toolchain => .ok (toolchain.settings.overrideAll overrides)
  | .error issues => .error issues

end Settings

end ModSkeleton
