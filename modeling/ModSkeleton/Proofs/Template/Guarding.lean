import ModSkeleton.Proofs.Template.Outline

namespace ModSkeleton.Template

/-!
# Guarded blocks

A template may guard some of its lines by directives on lines of their own. What it
renders to then is a first block, followed again and again by a guarded block and one
that is always there: with the guarded blocks or without them. Blocks of lines are kept
apart from the directives here, and everything that respects concatenation respects
blocks as well (`Guarded.map_shown`).

Outlines that differ only in how their texts are cut are compared after merging
neighbouring texts.
-/

/-- A block that is always there, then guarded blocks, each followed by one that is not. -/
structure Guarded
    (α : Type) where
  first : α
  later : List (α × α)
  deriving Repr, DecidableEq

namespace Guarded

variable
    {α β : Type}

/-- The blocks with a function applied to each of them. -/
def map
    (change : α → β)
    (blocks : Guarded α) :
    Guarded β where
  first :=
    change blocks.first
  later :=
    blocks.later.map fun pair => (change pair.1, change pair.2)

/-- All blocks one after another, with or without the guarded ones. -/
def shown
    (guarded : Bool)
    (blocks : Guarded (List α)) :
    List α :=
  blocks.first ++
    blocks.later.flatMap fun pair => (if guarded then pair.1 else []) ++ pair.2

/-- What respects concatenation may be done to every block on its own. -/
theorem map_shown
    (change : List α → List β)
    (ofNil : change [] = [])
    (ofAppend : ∀ first second, change (first ++ second) = change first ++ change second)
    (guarded : Bool)
    (blocks : Guarded (List α)) :
    change (blocks.shown guarded) = (blocks.map change).shown guarded := by
  obtain ⟨first, later⟩ := blocks
  have laterBlocks :
      change (later.flatMap fun pair => (if guarded then pair.1 else []) ++ pair.2) =
        (later.map fun pair => (change pair.1, change pair.2)).flatMap fun pair =>
          (if guarded then pair.1 else []) ++ pair.2 := by
    induction later with
    | nil => exact ofNil
    | cons pair rest inductionHypothesis =>
        rw [List.flatMap_cons, List.map_cons, List.flatMap_cons, ofAppend, ofAppend,
          inductionHypothesis]
        cases guarded with
        | false => simp [ofNil]
        | true => rfl
  rw [shown, shown, ofAppend, laterBlocks]
  rfl

/-- What is shown without the guarded blocks is shown with them, too. -/
theorem shown_subset
    (guarded : Bool)
    (blocks : Guarded (List α)) :
    blocks.shown guarded ⊆ blocks.shown true := by
  intro item member
  rcases List.mem_append.mp member with inFirst | inLater
  · exact List.mem_append_left _ inFirst
  · obtain ⟨pair, isPair, inPair⟩ := List.mem_flatMap.mp inLater
    refine List.mem_append_right _ (List.mem_flatMap.mpr ⟨pair, isPair, ?_⟩)
    rcases List.mem_append.mp inPair with isGuarded | isOpen
    · cases guarded with
      | false => cases isGuarded
      | true => exact List.mem_append_left _ isGuarded
    · exact List.mem_append_right _ isOpen

/-- The source of a template with blocks of lines, between two directives where guarded. -/
def source
    (opening closing : Text)
    (lines : Guarded (List Text)) :
    Text :=
  Text.ofLines lines.first ++
    lines.later.flatMap fun pair =>
      Text.ofLines [opening] ++ Text.ofLines pair.1 ++ Text.ofLines [closing] ++
        Text.ofLines pair.2

/-- Lines cut into blocks where one of two directives stands. -/
def cutLines
    (opening closing : Text) :
    List Text → List (List Text)
  | [] => [[]]
  | line :: lines =>
      if line = opening ∨ line = closing then [] :: cutLines opening closing lines
      else
        match cutLines opening closing lines with
        | [] => [[line]]
        | block :: blocks => (line :: block) :: blocks

/-- Neighbours as pairs. -/
def pairs : List α → List (α × α)
  | first :: second :: later => (first, second) :: pairs later
  | _ => []

/-- The blocks of lines of a template source. -/
def ofSource
    (opening closing source : Text) :
    Guarded (List Text) :=
  match cutLines opening closing (Text.splitOn '\n' source).dropLast with
  | [] => ⟨[], []⟩
  | first :: later => ⟨first, pairs later⟩

end Guarded

namespace Chunk

/-- Chunks with a text in front, which joins a text that comes first. -/
def pushText
    (content : Text) :
    List Chunk → List Chunk
  | .text next :: later => .text (content ++ next) :: later
  | chunks => if content.isEmpty then chunks else .text content :: chunks

/-- Chunks without empty texts and without texts that are neighbours. -/
def merge : List Chunk → List Chunk
  | [] => []
  | .text content :: later => pushText content (merge later)
  | chunk :: later => chunk :: merge later

theorem flatMap_fill_pushText
    (context : Context)
    (content : Text)
    (chunks : List Chunk) :
    (pushText content chunks).flatMap (fill context) =
      content ++ chunks.flatMap (fill context) := by
  unfold pushText
  split
  case h_1 next later =>
    simp only [List.flatMap_cons, fill, List.append_assoc]
  case h_2 =>
    split
    case isTrue isEmpty =>
      rw [List.isEmpty_iff.mp isEmpty]
      rfl
    case isFalse => rfl

/-- Merging makes no difference to what is filled in. -/
theorem flatMap_fill_merge
    (context : Context)
    (chunks : List Chunk) :
    (merge chunks).flatMap (fill context) = chunks.flatMap (fill context) := by
  induction chunks with
  | nil => rfl
  | cons chunk later inductionHypothesis =>
      rw [List.flatMap_cons, ← inductionHypothesis]
      cases chunk with
      | text content => exact flatMap_fill_pushText context content (merge later)
      | slot word => rfl
      | filtered filter word suffix => rfl

/-- Outlines that are the same once merged are filled with the same text. -/
theorem flatMap_fill_of_merge
    {first second : List Chunk}
    (same : merge first = merge second)
    (context : Context) :
    first.flatMap (fill context) = second.flatMap (fill context) := by
  rw [← flatMap_fill_merge, same, flatMap_fill_merge]

end Chunk

end ModSkeleton.Template
