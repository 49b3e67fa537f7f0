import ModSkeleton.Proofs.Request.Resolution
import ModSkeleton.Proofs.Workspace.RealPath

namespace ModSkeleton

open Workspace

/-!
# Derived mod ids

A mod id that is not given is derived from the target path: its last component if that names
an entry, and otherwise the name of the directory that the path leads to. In a tree without
links both are one thing, the last name of the path when it is made absolute and its dots are
cancelled, whatever stands in the tree (`derivedModId_lexical`).
-/

namespace Request

/-- The last name of where a path text leads from a directory; empty if that is the root. -/
def lexicalId
    (directory : Location)
    (text : Text) :
    Text :=
  (Path.reduced (Path.absoluteText directory text)).getLastD []

/-- A component that names an entry is the last name of where the path leads. -/
theorem lexicalId_of_name
    {directory : Location}
    (areComponents : ∀ name ∈ directory, Path.IsComponent name)
    {text : Text}
    (isName : isNameless (Path.parse text).name = false) :
    lexicalId directory text = (Path.parse text).name := by
  have shape : (Path.parse text).name = (Path.components text).getLastD [] := rfl
  rw [shape] at isName ⊢
  rw [lexicalId, Path.reduced_absoluteText areComponents]
  by_cases none : Path.components text = []
  · rw [none] at isName
    cases isName
  · obtain ⟨front, last, split⟩ : ∃ front last, Path.components text = front ++ [last] :=
      ⟨_, _, (List.dropLast_concat_getLast none).symm⟩
    rw [split, List.getLastD_concat] at isName
    simp only [isNameless, Bool.or_eq_false_iff, List.isEmpty_eq_false_iff,
      beq_eq_false_iff_ne] at isName
    obtain ⟨⟨notEmpty, notDot⟩, notParent⟩ := isName
    have notCurrent : last ≠ Path.currentName := notDot
    have added : ∀ names, Path.stepTo names last = names ++ [last] := by
      intro names
      simp [Path.stepTo, notEmpty, notCurrent, notParent]
    rw [split, List.foldl_append, List.foldl_cons, List.foldl_nil, added, List.getLastD_concat,
      List.getLastD_concat]

/--
A working directory that has been removed has no path any more. So it has to be there where a
mod id is derived from a real path that begins in it.
-/
def BeginsSomewhere
    (workspace : Workspace)
    (text : Text) :
    Prop :=
  isNameless (Path.parse text).name = true →
  Path.rootOf text = .relative →
  workspace.tree.get? workspace.directory = some .directory

/-- The mod id that a path text stands for is the last name of where it leads lexically. -/
theorem derivedModId_parse
    (host : Host)
    {workspace : Workspace}
    (linkFree : workspace.tree.LinkFree)
    (areComponents : ∀ name ∈ workspace.directory, Path.IsComponent name)
    {text : Text}
    (begins : BeginsSomewhere workspace text)
    (noNull : '\x00' ∉ text) :
    derivedModId host workspace (Path.parse text) =
      .ok (lexicalId workspace.directory text) := by
  unfold derivedModId
  cases nameless : isNameless (Path.parse text).name with
  | true =>
      have areParts : ∀ part ∈ (Path.parse text).parts, Path.IsPart part :=
        fun _ member => Path.isPart_of_mem_components member
      have real :=
        RealPath.realPath_of_linkFree areParts (nullFree_parse noNull) linkFree areComponents
          host (begins nameless)
      rw [if_pos rfl, real, lexicalId, Path.reduced_absoluteText areComponents]
      rfl
  | false =>
      rw [if_neg Bool.false_ne_true, lexicalId_of_name areComponents nameless]

/--
In a tree without links, options without a mod id, with a path without NUL, are resolved by
the last name of their path when it is appended to the working directory, unless it is
absolute, and its empty components and dots are cancelled; by the empty id if that is the
root. A slash, or a slash and a dot, behind any component of the path changes nothing.
-/
theorem derivedModId_lexical
    (host : Host)
    {workspace : Workspace}
    (linkFree : workspace.tree.LinkFree)
    (areComponents : ∀ name ∈ workspace.directory, Path.IsComponent name)
    (given : TextOptions)
    (begins : BeginsSomewhere workspace given.targetPath)
    (noNull : '\x00' ∉ given.targetPath)
    (absent : given.modId = none ∨ given.modId = some []) :
    derivedModId host workspace (Path.parse given.targetPath) =
        .ok (lexicalId workspace.directory given.targetPath) ∧
      ResolvesBy host workspace given (lexicalId workspace.directory given.targetPath) ∧
        ∀ front back,
          given.targetPath = front ++ back →
          Path.EndsComponent front back →
          ∀ extra ∈ Path.insertions,
            derivedModId host workspace (Path.parse (front ++ extra ++ back)) =
                .ok (lexicalId workspace.directory given.targetPath) ∧
              ResolvesBy host workspace { given with targetPath := front ++ extra ++ back }
                (lexicalId workspace.directory given.targetPath) := by
  have derived := derivedModId_parse host linkFree areComponents begins noNull
  have resolves : ∀ other : TextOptions,
      other.modId = given.modId →
      derivedModId host workspace (Path.parse other.targetPath) =
        .ok (lexicalId workspace.directory given.targetPath) →
      ResolvesBy host workspace other (lexicalId workspace.directory given.targetPath) := by
    intro other sameId found
    have otherAbsent : other.modId = none ∨ other.modId = some [] := by
      rwa [sameId]
    exact resolvesBy_of_idOf ((idOf_of_absent host workspace otherAbsent).trans found)
  refine ⟨derived, resolves given rfl derived, ?_⟩
  intro front back split ends extra isInsertion
  have inserted :
      derivedModId host workspace (Path.parse (front ++ extra ++ back)) =
        .ok (lexicalId workspace.directory given.targetPath) := by
    rw [Path.parse_insert ends isInsertion, ← split, derived]
  exact ⟨inserted, resolves _ rfl inserted⟩

/-- A workspace with a file in its working directory. -/
def filedWorkspace : Workspace where
  tree :=
    ((FileTree.empty.insert ["home".toList] .directory).insert
        ["home".toList, "my_mod".toList] .directory).insert
      ["home".toList, "my_mod".toList, "lost".toList] (.file [])
  directory := ["home".toList, "my_mod".toList]

/-- Options for the working directory, by a path that goes on behind the file and back. -/
def returningOptions : TextOptions where
  targetPath := ".//lost/..//".toList
  modName := some "Sample".toList
  modId := none
  useKotlin := .null
  mainClass := none

/-- The request that they stand for. -/
def returningRequest : Request where
  targetPath := ⟨.relative, ["lost".toList, "..".toList]⟩
  modId := "my_mod".toList
  modName := "Sample".toList
  language := .java
  mainClass := MainClass.default

/-- The name of the working directory is derived, with a dot inserted or without. -/
theorem derivedModId_lexical_returning :
    filedWorkspace.tree.LinkFree ∧
      resolve .faultless filedWorkspace returningOptions.options = .ok returningRequest ∧
        resolve .faultless filedWorkspace
            { returningOptions with targetPath := ".//lost/./..//".toList }.options =
          .ok returningRequest := by
  have linkFree : filedWorkspace.tree.LinkFree :=
    FileTree.linkFree_of_entries (by decide)
  obtain ⟨_, resolves, inserted⟩ :=
    derivedModId_lexical .faultless linkFree (by decide) returningOptions
      (fun _ _ => by decide +kernel) (by decide) (.inl rfl)
  have isName :
      lexicalId filedWorkspace.directory returningOptions.targetPath = "my_mod".toList := by
    decide
  rw [isName] at resolves inserted
  have ends : Path.EndsComponent ".//lost".toList "/..//".toList :=
    ⟨⟨".//los".toList, 't', rfl, by decide⟩, .inr ⟨"..//".toList, rfl⟩⟩
  obtain ⟨_, resolvesInserted⟩ := inserted _ _ rfl ends "/.".toList (by decide)
  refine ⟨linkFree, (resolves.succeeds _).mpr ?_, (resolvesInserted.succeeds _).mpr ?_⟩
  · exact ⟨"Sample".toList, ⟨rfl, by decide⟩, rfl, rfl, rfl⟩
  · exact ⟨"Sample".toList, ⟨rfl, by decide⟩, rfl, rfl, rfl⟩

end Request

end ModSkeleton
