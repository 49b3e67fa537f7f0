import ModSkeleton.Proofs.Path.Lexical
import ModSkeleton.Proofs.Workspace.Writing
import ModSkeleton.Workspace.Real

namespace ModSkeleton.RealPath

open Workspace

/-!
# Real paths without links

Without links, going along a path text never stops at a link, so it is a fold over the pieces
of the text (`follow_of_linkFree`). What is reached may still begin by leading up; from the
working directory it leads where the text leads by its names alone (`foldl_stepTo_step`). So
every path without NUL has a real path, on every host and whatever stands in the tree, if
there is a working directory for it to begin in (`realPath_of_linkFree`).
-/

/-- Go along one piece of a path text where no link stands. -/
def step
    (path : Path)
    (piece : Text) :
    Path :=
  if piece = [] ∨ piece = Path.currentName then path
  else if piece = Path.parentName then up path
  else path.append [piece]

/-- What is reached along the pieces of a path text without NUL: only parts, without NUL. -/
structure Proper
    (path : Path) :
    Prop where
  areParts : ∀ part ∈ path.parts, Path.IsPart part
  nullFree : NullFree path

theorem Proper.append
    {path : Path}
    (proper : Proper path)
    {piece : Text}
    (isPart : Path.IsPart piece)
    (noNull : '\x00' ∉ piece) :
    Proper (path.append [piece]) where
  areParts := by
    intro part member
    rcases List.mem_append.mp member with inPath | isPiece
    · exact proper.areParts part inPath
    · rwa [List.mem_singleton.mp isPiece]
  nullFree := by
    apply proper.nullFree.append
    intro name member
    rwa [List.mem_singleton.mp member]

/-- The ways in which one leads up from a path. -/
theorem up_cases
    (path : Path) :
    (path.parts = [] ∧ path.root ≠ .relative ∧ up path = path) ∨
      ((path.parts = [] ∨ ∃ front, path.parts = front ++ [Path.parentName]) ∧
        up path = path.append [Path.parentName]) ∨
      ∃ front last,
        path.parts = front ++ [last] ∧ last ≠ Path.parentName ∧ up path = path.parent := by
  unfold up
  cases shape : path.parts.getLast? with
  | none =>
      have none : path.parts = [] := List.getLast?_eq_none_iff.mp shape
      cases root : path.root with
      | relative => exact .inr (.inl ⟨.inl none, rfl⟩)
      | absolute => exact .inl ⟨none, nofun, rfl⟩
      | doubleSlash => exact .inl ⟨none, nofun, rfl⟩
  | some last =>
      obtain ⟨front, split⟩ := List.getLast?_eq_some_iff.mp shape
      by_cases leadsUp : last = Path.parentName
      · subst last
        exact .inr (.inl ⟨.inr ⟨front, split⟩, by simp⟩)
      · exact .inr (.inr ⟨front, last, split, leadsUp, by simp [leadsUp]⟩)

theorem isPart_parentName :
    Path.IsPart Path.parentName :=
  ⟨by decide, by decide, by decide⟩

theorem Proper.up
    {path : Path}
    (proper : Proper path) :
    Proper (up path) := by
  rcases up_cases path with ⟨_, _, same⟩ | ⟨_, further⟩ | ⟨_, _, _, _, above⟩
  · rwa [same]
  · rw [further]
    exact proper.append isPart_parentName (by decide)
  · rw [above]
    exact
      { areParts := fun part member => proper.areParts part (List.dropLast_subset _ member)
        nullFree := fun part member => proper.nullFree part (List.dropLast_subset _ member) }

theorem Proper.step
    {path : Path}
    (proper : Proper path)
    {piece : Text}
    (noSlash : '/' ∉ piece)
    (noNull : '\x00' ∉ piece) :
    Proper (step path piece) := by
  unfold RealPath.step
  split
  case isTrue => exact proper
  case isFalse moves =>
    split
    case isTrue => exact proper.up
    case isFalse =>
      obtain ⟨notEmpty, notCurrent⟩ := not_or.mp moves
      exact proper.append ⟨notEmpty, notCurrent, noSlash⟩ noNull

theorem root_step
    (path : Path)
    (piece : Text) :
    (step path piece).root = path.root := by
  unfold step
  split
  case isTrue => rfl
  case isFalse =>
    split
    case isTrue =>
      rcases up_cases path with ⟨_, _, same⟩ | ⟨_, further⟩ | ⟨_, _, _, _, above⟩
      · rw [same]
      · rw [further]
        rfl
      · rw [above]
        rfl
    case isFalse => rfl

/-- One piece further, the names lead one piece further from where the path begins. -/
theorem foldl_stepTo_step
    {path : Path}
    (proper : Proper path)
    {base : List Text}
    (atRoot : path.root ≠ .relative → base = [])
    (piece : Text) :
    (step path piece).parts.foldl Path.stepTo base =
      Path.stepTo (path.parts.foldl Path.stepTo base) piece := by
  have added (name : Text) :
      (path.append [name]).parts.foldl Path.stepTo base =
        Path.stepTo (path.parts.foldl Path.stepTo base) name := by
    rw [Path.parts_append, List.foldl_append, List.foldl_cons, List.foldl_nil]
  unfold step
  split
  case isTrue stays => rw [Path.stepTo, if_pos stays]
  case isFalse moves =>
    split
    case isTrue leadsUp =>
      subst leadsUp
      rcases up_cases path with
        ⟨none, notRelative, same⟩ | ⟨_, further⟩ | ⟨front, last, split, notParent, above⟩
      · rw [same, none, atRoot notRelative]
        rfl
      · rw [further, added]
      · have isPart := proper.areParts last (by simp [split])
        have kept : front.foldl Path.stepTo base ++ [last] = path.parts.foldl Path.stepTo base := by
          rw [split, List.foldl_append, List.foldl_cons, List.foldl_nil, Path.stepTo,
            if_neg (not_or.mpr ⟨isPart.notEmpty, isPart.notCurrent⟩), if_neg notParent]
        rw [above, ← kept, Path.stepTo, if_neg moves, if_pos rfl, List.dropLast_concat, Path.parent,
          split, List.dropLast_concat]
    case isFalse => exact added piece

section

variable
    {pieces : List Text}
    (noSlash : ∀ piece ∈ pieces, '/' ∉ piece)
    (noNull : ∀ piece ∈ pieces, '\x00' ∉ piece)

include noSlash noNull

theorem Proper.foldl_step
    {path : Path}
    (proper : Proper path) :
    Proper (pieces.foldl RealPath.step path) := by
  induction pieces generalizing path with
  | nil => exact proper
  | cons piece rest inductionHypothesis =>
      have next :=
        proper.step (noSlash piece List.mem_cons_self) (noNull piece List.mem_cons_self)
      exact
        inductionHypothesis
          (fun other member => noSlash other (List.mem_cons_of_mem _ member))
          (fun other member => noNull other (List.mem_cons_of_mem _ member)) next

/-- The names of what is reached lead where the pieces lead. -/
theorem foldl_stepTo_foldl_step
    {path : Path}
    (proper : Proper path)
    {base : List Text}
    (atRoot : path.root ≠ .relative → base = []) :
    (pieces.foldl step path).parts.foldl Path.stepTo base =
      pieces.foldl Path.stepTo (path.parts.foldl Path.stepTo base) := by
  induction pieces generalizing path with
  | nil => rfl
  | cons piece rest inductionHypothesis =>
      have next :=
        proper.step (noSlash piece List.mem_cons_self) (noNull piece List.mem_cons_self)
      have nextRoot : (step path piece).root ≠ .relative → base = [] := by
        rwa [root_step]
      rw [List.foldl_cons, List.foldl_cons, ← foldl_stepTo_step proper atRoot]
      exact
        inductionHypothesis
          (fun other member => noSlash other (List.mem_cons_of_mem _ member))
          (fun other member => noNull other (List.mem_cons_of_mem _ member)) next nextRoot

end

section

variable
    {workspace : Workspace}
    (linkFree : workspace.tree.LinkFree)
    (host : Host)

include linkFree

/-- Where no links stand, no path without NUL leads to one. -/
theorem linkAt?_of_linkFree
    {path : Path}
    (nullFree : NullFree path) :
    linkAt? host workspace path = .ok none := by
  unfold linkAt?
  split
  case h_1 location target located =>
    have found := (locate_eq_ok_iff.mp (locate_of_host located)).2.get?_of_present
    exact (linkFree _ _ found).elim
  case h_2 failed =>
    obtain ⟨_, isSystem⟩ := locate_fault_of_host nullFree failed
    cases isSystem
  case h_3 => rfl

/-- Without links, every piece of a path text is gone along by itself. -/
theorem follow_of_linkFree
    (enter : Path → Text → Known → Except RealPathFault (Reached × Known))
    {pieces : List Text}
    (noSlash : ∀ piece ∈ pieces, '/' ∉ piece)
    (noNull : ∀ piece ∈ pieces, '\x00' ∉ piece)
    {path : Path}
    (proper : Proper path)
    (known : Known) :
    follow host workspace enter path pieces known =
      .ok (.path (pieces.foldl step path), known) := by
  induction pieces generalizing path with
  | nil => rfl
  | cons piece rest inductionHypothesis =>
      have next :=
        proper.step (noSlash piece List.mem_cons_self) (noNull piece List.mem_cons_self)
      have onward :=
        inductionHypothesis
          (fun other member => noSlash other (List.mem_cons_of_mem _ member))
          (fun other member => noNull other (List.mem_cons_of_mem _ member)) next
      rw [List.foldl_cons, ← onward, follow]
      unfold step at next ⊢
      split
      case isTrue => rfl
      case isFalse moves =>
        rw [if_neg moves] at next
        split
        case isTrue => rfl
        case isFalse notParent =>
          rw [if_neg notParent] at next
          simp only [linkAt?_of_linkFree linkFree host next.nullFree]

/-- Without links, looking up is never given up for too many of them. -/
theorem walk_ne_tooManyLinks
    {followLast : Bool}
    {budget : Nat}
    {location : Location}
    {names : List Text} :
    FileTree.walk workspace.tree followLast budget location names ≠ .error .tooManyLinks := by
  intro failed
  rw [FileTree.walk.eq_def] at failed
  cases scanned : workspace.tree.scan followLast location names with
  | error fault =>
      simp only [scanned] at failed
      cases failed
      rcases FileTree.scan_fault scanned with impossible | impossible | impossible
      all_goals cases impossible
  | ok stop =>
      obtain ⟨_, rfl⟩ := (FileTree.scan_eq_ok_iff.mp scanned).arrived_of_linkFree linkFree
      simp only [scanned] at failed
      cases failed

/-- Without links, a path without NUL is not looked up for another reason than too many of them. -/
theorem locate_fault_of_linkFree
    {path : Path}
    (nullFree : NullFree path)
    {fault : AccessFault}
    (failed : host.locate workspace true path = .error fault) :
    ∃ reported, fault = .system reported ∧ reported ≠ .tooManyLinks := by
  obtain ⟨reported, rfl⟩ := locate_fault_of_host nullFree failed
  refine ⟨reported, rfl, ?_⟩
  rintro rfl
  rcases locate_cases host workspace true path with ⟨_, refused⟩ | same
  · rw [refused] at failed
    cases failed
  · rw [same, locate, FileTree.locate] at failed
    split at failed
    case isTrue => cases failed
    case isFalse =>
      split at failed
      case isTrue => cases failed
      case isFalse =>
        split at failed
        case h_1 => cases failed
        case h_2 walked =>
          cases failed
          exact walk_ne_tooManyLinks linkFree walked

end

/-- The text of what is reached has its names and its starting point. -/
theorem text_path
    {path : Path}
    (areParts : ∀ part ∈ path.parts, Path.IsPart part) :
    Path.components (Reached.path path).text = path.parts ∧
      Path.rootOf (Reached.path path).text = path.root := by
  by_cases isEmpty : path = ⟨.relative, []⟩
  · rw [isEmpty]
    exact ⟨rfl, rfl⟩
  · rw [Reached.text, if_neg isEmpty]
    exact ⟨Path.components_toText areParts path.root, Path.rootOf_toText areParts path.root⟩

/-- What is reached, made absolute, is where its names lead from where it begins. -/
theorem absolute_text_path
    {workspace : Workspace}
    {path : Path}
    (areParts : ∀ part ∈ path.parts, Path.IsPart part)
    (notDouble : path.root ≠ .doubleSlash)
    (begins :
      path.root = .relative → workspace.tree.get? workspace.directory = some .directory) :
    absolute workspace (Reached.path path).text =
      .ok
        ⟨.absolute,
          path.parts.foldl Path.stepTo
            (if path.root = .relative then workspace.directory else [])⟩ := by
  obtain ⟨components, root⟩ := text_path areParts
  unfold absolute
  simp only [root, Path.foldl_stepTo_components, components]
  cases shape : path.root with
  | relative => simp [begins shape]
  | absolute => simp
  | doubleSlash => exact (notDouble shape).elim

/-- Where the pieces of a path text are gone along from: no name has been met yet. -/
def startOf
    (path : Path) :
    Path :=
  ⟨if path.root = .relative then .relative else .absolute, []⟩

/-- What is reached along a path where no link stands. -/
def reachedAlong
    (path : Path) :
    Path :=
  (Text.splitOn '/' path.toText).foldl step (startOf path)

section

variable
    {path : Path}
    (areParts : ∀ part ∈ path.parts, Path.IsPart part)
    (nullFree : NullFree path)

theorem proper_startOf
    (path : Path) :
    Proper (startOf path) :=
  ⟨fun _ member => (List.not_mem_nil member).elim, fun _ member => (List.not_mem_nil member).elim⟩

include nullFree in
theorem noNull_of_mem_splitOn
    {piece : Text}
    (member : piece ∈ Text.splitOn '/' path.toText) :
    '\x00' ∉ piece :=
  fun inPiece => (nullFree_iff path).mp nullFree (Text.subset_of_mem_splitOn member inPiece)

include nullFree in
theorem proper_reachedAlong :
    Proper (reachedAlong path) :=
  Proper.foldl_step (fun _ member => Text.not_mem_of_mem_splitOn member)
    (fun _ member => noNull_of_mem_splitOn nullFree member) (proper_startOf path)

theorem root_reachedAlong
    (path : Path) :
    (reachedAlong path).root = if path.root = .relative then .relative else .absolute := by
  have kept (pieces : List Text) (start : Path) :
      (pieces.foldl step start).root = start.root := by
    induction pieces generalizing start with
    | nil => rfl
    | cons piece rest inductionHypothesis =>
        rw [List.foldl_cons, inductionHypothesis, root_step]
  exact kept _ _

include areParts nullFree

/-- The names of what is reached lead where those of the path lead. -/
theorem foldl_stepTo_reachedAlong
    {base : List Text}
    (atRoot : path.root ≠ .relative → base = []) :
    (reachedAlong path).parts.foldl Path.stepTo base = path.parts.foldl Path.stepTo base := by
  have startAtRoot : (startOf path).root ≠ .relative → base = [] := by
    intro notRelative
    apply atRoot
    intro relative
    exact notRelative (if_pos relative)
  rw [reachedAlong,
    foldl_stepTo_foldl_step (fun _ member => Text.not_mem_of_mem_splitOn member)
      (fun _ member => noNull_of_mem_splitOn nullFree member) (proper_startOf path) startAtRoot,
    Path.foldl_stepTo_components, Path.components_toText areParts]
  rfl

/-- Without links, going along the text of a path ends at what is reached along it. -/
theorem goAlong_of_linkFree
    {workspace : Workspace}
    (linkFree : workspace.tree.LinkFree)
    (host : Host)
    (depth : Nat) :
    goAlong host workspace depth ⟨.relative, []⟩ path.toText [] =
      .ok (.path (reachedAlong path), []) := by
  have start :
      (if path.toText.head? = some '/' then (⟨.absolute, []⟩ : Path) else ⟨.relative, []⟩) =
        startOf path := by
    have relative := Path.rootOf_eq_relative_iff path.toText
    rw [Path.rootOf_toText areParts] at relative
    unfold startOf
    by_cases slash : path.toText.head? = some '/'
    · rw [if_pos slash, if_neg (fun isRelative => relative.mp isRelative slash)]
    · rw [if_neg slash, if_pos (relative.mpr slash)]
  rw [goAlong.eq_def]
  simp only [start]
  exact
    follow_of_linkFree linkFree host _ (fun _ member => Text.not_mem_of_mem_splitOn member)
      (fun _ member => noNull_of_mem_splitOn nullFree member) (proper_startOf path) []

/--
Without links, a path without NUL has a real path on every host, if there is a working
directory for it to begin in: the one where its names lead by themselves.
-/
theorem realPath_of_linkFree
    {workspace : Workspace}
    (linkFree : workspace.tree.LinkFree)
    (areComponents : ∀ name ∈ workspace.directory, Path.IsComponent name)
    (host : Host)
    (begins :
      path.root = .relative → workspace.tree.get? workspace.directory = some .directory) :
    host.realPath workspace path =
      .ok
        ⟨.absolute,
          path.parts.foldl Path.stepTo
            (if path.root = .relative then workspace.directory else [])⟩ := by
  have root := root_reachedAlong path
  have notDouble : (reachedAlong path).root ≠ .doubleSlash := by
    rw [root]
    split
    case isTrue => nofun
    case isFalse => nofun
  have sameStart : (reachedAlong path).root = .relative ↔ path.root = .relative := by
    rw [root]
    simp
  have reached :=
    absolute_text_path (proper_reachedAlong nullFree).areParts notDouble
      (fun relative => begins (sameStart.mp relative))
  simp only [sameStart] at reached
  rw [foldl_stepTo_reachedAlong areParts nullFree (fun notRelative => if_neg notRelative)]
    at reached
  have realNullFree :
      NullFree
        ⟨.absolute,
          path.parts.foldl Path.stepTo
            (if path.root = .relative then workspace.directory else [])⟩ := by
    intro name member
    rcases Path.mem_of_mem_foldl_stepTo member with inBase | inPath
    · split at inBase
      case isTrue => exact (areComponents name inBase).noNull
      case isFalse => exact (List.not_mem_nil inBase).elim
    · exact nullFree name inPath
  simp only [Host.realPath, goAlong_of_linkFree areParts nullFree linkFree, reached]
  split
  case h_1 failed =>
    obtain ⟨_, same, notLinks⟩ := locate_fault_of_linkFree linkFree host realNullFree failed
    cases same
    exact (notLinks rfl).elim
  case h_2 failed =>
    obtain ⟨_, isSystem, _⟩ := locate_fault_of_linkFree linkFree host realNullFree failed
    cases isSystem
  case h_3 => rfl

end

end ModSkeleton.RealPath
