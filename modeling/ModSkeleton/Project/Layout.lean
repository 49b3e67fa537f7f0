import ModSkeleton.Language
import ModSkeleton.Project.Bundled

namespace ModSkeleton.Project

/-!
# Layout of a project

A project is made of items. An item names the template of a file and gives, as a
template again, the path of the file below the root of the project. Six items
are common to all projects; the last one is the entry point in the chosen
language.
-/

/-- A file of a project: the name of its template and a template for its path. -/
structure Item where
  template : Text
  output : Text
  deriving Repr, DecidableEq

/-- The items that every project has. -/
def commonItems : List Item :=
  [⟨"common/build.gradle.j2".toList, "build.gradle".toList⟩,
   ⟨"common/settings.gradle.j2".toList, "settings.gradle".toList⟩,
   ⟨"common/gradle.properties.j2".toList, "gradle.properties".toList⟩,
   ⟨"common/gitignore.j2".toList, ".gitignore".toList⟩,
   ⟨"common/fabric.mod.json.j2".toList, "src/main/resources/fabric.mod.json".toList⟩,
   ⟨"common/mixins.json.j2".toList, "src/main/resources/{{ mod_id }}.mixins.json".toList⟩]

/-- The path of the entry point. -/
def entryPointOutput : Text :=
  "src/main/{{ source_dir }}/{{ package_path }}/{{ class_name }}.{{ extension }}".toList

/-- The template of the entry point in a language. -/
def entryPointTemplate : Language → Text
  | .java => "java/Entrypoint.java.j2".toList
  | .kotlin => "kotlin/Entrypoint.kt.j2".toList

/-- The items of a project in a language. -/
def items
    (language : Language) :
    List Item :=
  commonItems ++ [⟨entryPointTemplate language, entryPointOutput⟩]

/-- A project has seven items in either language. -/
theorem length_items
    (language : Language) :
    (items language).length = 7 :=
  rfl

end ModSkeleton.Project
