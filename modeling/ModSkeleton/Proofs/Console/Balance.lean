import ModSkeleton.Proofs.Console.Escaping

namespace ModSkeleton.Console

open Markup

/-!
# Balanced markup

Markup can be printed exactly if its tags can be opened and closed in turn
(`Markup.isOk_render`). The lines about written files and about success escape what
they say, so they can always be printed. A table takes its cells for markup: it can
be printed exactly if all of them are balanced (`Table.isOk_print`).
-/

namespace Markup

/-- Whether the tags of markup can be opened and closed in turn. -/
def isBalanced
    (markup : Text) :
    Bool :=
  (afterTags [] (Chunk.tags (Chunk.cut 0 0 markup))).isSome

/-- Markup without brackets is balanced. -/
theorem isBalanced_of_no_opening
    {markup : Text}
    (noOpening : '[' ∉ markup) :
    isBalanced markup = true := by
  rw [isBalanced, tags_cut_of_no_opening noOpening]
  rfl

/-- Markup can be printed exactly if it is balanced. -/
theorem isOk_render
    (markup : Text) :
    (render markup).isOk = isBalanced markup := by
  unfold render
  split
  case isTrue => exact isOk_renderChunks [] (Chunk.cut 0 0 markup)
  case isFalse noOpening =>
    rw [isBalanced_of_no_opening (by simpa using noOpening)]
    rfl

end Markup

/-- Every success can be printed. -/
theorem exists_printMarkup_successMarkup
    (message : Text) :
    ∃ printed, printMarkup (successMarkup message) = .ok printed :=
  exists_printMarkup_styled "bold green".toList
    ⟨⟨'b', rfl, rfl⟩, by decide, by decide⟩ ⟨⟨'/', rfl, rfl⟩, by decide, by decide⟩
    (by decide +kernel) (by decide +kernel) message

/-- The line about a written file can be printed, whatever its path. -/
theorem exists_printMarkup_wroteMarkup
    (path : Text) :
    ∃ printed, printMarkup (wroteMarkup path) = .ok printed := by
  have indent : ∀ c ∈ "  ".toList, c ≠ '\\' ∧ c ≠ '[' := by
    simp
  have label : ∀ c ∈ "wrote".toList, c ≠ '\\' ∧ c ≠ '[' := by
    simp
  have opening : IsBody "dim".toList := ⟨⟨'d', rfl, rfl⟩, by decide, by decide⟩
  have closing : IsBody "/dim".toList := ⟨⟨'/', rfl, rfl⟩, by decide, by decide⟩
  exact exists_printMarkup_labelled indent opening label closing (by decide +kernel) path

namespace Table

theorem isOk_renderCells
    (cells : List Text) :
    (renderCells cells).isOk = cells.all isBalanced := by
  induction cells with
  | nil => rfl
  | cons cell cells inductionHypothesis =>
      rw [renderCells, List.all_cons, ← isOk_render, ← inductionHypothesis]
      cases Markup.render cell with
      | error error => rfl
      | ok plain => cases renderCells cells <;> rfl

/-- A table can be printed exactly if all of its cells and its title are balanced. -/
theorem isOk_print
    (table : Table) :
    table.print.isOk =
      ((table.rows.map Prod.fst).all isBalanced && (table.rows.map Prod.snd).all isBalanced &&
        isBalanced table.title) := by
  rw [← isOk_renderCells, ← isOk_renderCells, ← isOk_render, print, Table.render]
  cases renderCells (table.rows.map Prod.fst) with
  | error error => rfl
  | ok items =>
      cases renderCells (table.rows.map Prod.snd) with
      | error error => rfl
      | ok values => cases Markup.render table.title <;> rfl

end Table

end ModSkeleton.Console
