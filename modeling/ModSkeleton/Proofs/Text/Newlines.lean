import ModSkeleton.Proofs.Text.Splitting

namespace ModSkeleton.Text

/-!
# Line ends

A line may end in a line feed, a carriage return, or both. Unifying newlines turns every
such end into a line feed, so that the physical lines of a text are what stands between
the line feeds then. A line that has no line end of its own is found again wherever it
stands between two line feeds (`mem_physicalLines`).
-/

/-- The lines of a text, whichever way they end. -/
def physicalLines
    (text : Text) :
    List Text :=
  splitOn '\n' (unifyNewlines text)

/-- A character is kept, unless it is a carriage return. -/
theorem unifyNewlines_cons
    {c : Char}
    (notReturn : c ≠ '\r')
    (rest : Text) :
    unifyNewlines (c :: rest) = c :: unifyNewlines rest := by
  rw [unifyNewlines.eq_def]
  split
  case h_1 isNil => cases isNil
  case h_2 isPair =>
    cases isPair
    exact absurd rfl notReturn
  case h_3 isCons =>
    cases isCons
    rw [if_neg notReturn]

/-- A carriage return that no line feed follows becomes a line feed. -/
theorem unifyNewlines_return
    {next : Char}
    (notPair : next ≠ '\n')
    (rest : Text) :
    unifyNewlines ('\r' :: next :: rest) = '\n' :: unifyNewlines (next :: rest) := by
  rw [unifyNewlines.eq_def]
  split
  case h_1 isNil => cases isNil
  case h_2 isPair =>
    cases isPair
    exact absurd rfl notPair
  case h_3 isCons =>
    cases isCons
    rfl

/-- A text without carriage returns is kept in front of anything. -/
theorem unifyNewlines_append_of_not_mem
    {first : Text}
    (noReturn : '\r' ∉ first)
    (second : Text) :
    unifyNewlines (first ++ second) = first ++ unifyNewlines second := by
  induction first with
  | nil => rfl
  | cons c rest inductionHypothesis =>
      have notReturn : c ≠ '\r' := fun same => noReturn (same ▸ List.mem_cons_self)
      have restFree : '\r' ∉ rest := fun member => noReturn (List.mem_cons_of_mem c member)
      rw [List.cons_append, unifyNewlines_cons notReturn, inductionHypothesis restFree,
        List.cons_append]

theorem unifyNewlines_of_not_mem
    {text : Text}
    (noReturn : '\r' ∉ text) :
    unifyNewlines text = text := by
  have kept := unifyNewlines_append_of_not_mem noReturn []
  rwa [List.append_nil, unifyNewlines, List.append_nil] at kept

theorem not_mem_unifyNewlines
    (text : Text) :
    '\r' ∉ unifyNewlines text := by
  fun_induction unifyNewlines text with
  | case1 => exact List.not_mem_nil
  | case2 rest inductionHypothesis =>
      intro member
      rcases List.mem_cons.mp member with isNewline | later
      · cases isNewline
      · exact inductionHypothesis later
  | case3 c rest _ inductionHypothesis =>
      intro member
      rcases List.mem_cons.mp member with isFirst | later
      · split at isFirst
        case isTrue => cases isFirst
        case isFalse notReturn => exact notReturn isFirst.symm
      · exact inductionHypothesis later

/-- A line feed ends a line, whether or not a carriage return stands in front of it. -/
theorem exists_unifyNewlines_append
    (before rest : Text) :
    ∃ lines, unifyNewlines (before ++ '\n' :: rest) = lines ++ '\n' :: unifyNewlines rest := by
  fun_induction unifyNewlines before with
  | case1 => exact ⟨[], unifyNewlines_cons (by decide) rest⟩
  | case2 later inductionHypothesis =>
      obtain ⟨lines, unified⟩ := inductionHypothesis
      exact ⟨'\n' :: lines, congrArg ('\n' :: ·) unified⟩
  | case3 c later _ inductionHypothesis =>
      obtain ⟨lines, unified⟩ := inductionHypothesis
      by_cases isReturn : c = '\r'
      · subst c
        cases later with
        | nil => exact ⟨[], rfl⟩
        | cons next others =>
            have notPair : next ≠ '\n' := by
              rintro rfl
              simp_all
            refine ⟨'\n' :: lines, ?_⟩
            rw [List.cons_append, List.cons_append, unifyNewlines_return notPair,
              ← List.cons_append, unified, List.cons_append]
      · refine ⟨c :: lines, ?_⟩
        rw [List.cons_append, unifyNewlines_cons isReturn, unified, List.cons_append]

/-- No line end is left in a line. -/
theorem not_mem_of_mem_physicalLines
    {text line : Text}
    (member : line ∈ physicalLines text) :
    '\n' ∉ line ∧ '\r' ∉ line := by
  refine ⟨not_mem_of_mem_splitOn member, ?_⟩
  intro isReturn
  apply not_mem_unifyNewlines text
  rw [← joinWith_splitOn '\n' (unifyNewlines text), mem_joinWith_iff (by decide)]
  exact ⟨line, member, isReturn⟩

/-- Between two line feeds, a text without line ends is a line of its own. -/
theorem mem_physicalLines
    (before after : Text)
    {line : Text}
    (noNewline : '\n' ∉ line)
    (noReturn : '\r' ∉ line) :
    line ∈ physicalLines (before ++ '\n' :: (line ++ '\n' :: after)) := by
  have lineKept :
      unifyNewlines (line ++ '\n' :: after) = line ++ '\n' :: unifyNewlines after := by
    rw [unifyNewlines_append_of_not_mem noReturn, unifyNewlines_cons (by decide)]
  obtain ⟨lines, unified⟩ := exists_unifyNewlines_append before (line ++ '\n' :: after)
  rw [physicalLines, unified, lineKept, splitOn_append_separator, splitOn_append_separator,
    splitOn_of_not_mem noNewline]
  exact List.mem_append_right _ List.mem_cons_self

end ModSkeleton.Text
