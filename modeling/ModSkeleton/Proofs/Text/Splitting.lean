import ModSkeleton.Text.Basic

namespace ModSkeleton.Text

/-!
# Splitting and joining

Splitting is the inverse of joining pieces that are free of the separator, and
splits at every separator of a longer text one after another. What stands before
and after the last separator are all pieces but the last, and the last one.
-/

/-- A character other than those of the separator is one of the joined pieces. -/
theorem mem_joinWith_iff
    {separator : Text}
    {pieces : List Text}
    {c : Char}
    (notSeparator : c ∉ separator) :
    c ∈ joinWith separator pieces ↔ ∃ piece ∈ pieces, c ∈ piece := by
  induction pieces with
  | nil => simp [joinWith]
  | cons piece pieces inductionHypothesis =>
      cases pieces with
      | nil => simp [joinWith]
      | cons next pieces =>
          rw [joinWith, List.mem_append, List.mem_append, inductionHypothesis]
          simp [notSeparator]

theorem splitOn_of_not_mem
    {separator : Char}
    {text : Text}
    (absent : separator ∉ text) :
    splitOn separator text = [text] := by
  induction text with
  | nil => rfl
  | cons c rest inductionHypothesis =>
      have different : c ≠ separator := fun same => absent (same ▸ List.mem_cons_self)
      have restAbsent : separator ∉ rest :=
        fun member => absent (List.mem_cons_of_mem c member)
      simp [splitOn, different, inductionHypothesis restAbsent]

theorem splitOn_append_separator
    (separator : Char)
    (first second : Text) :
    splitOn separator (first ++ separator :: second) =
      splitOn separator first ++ splitOn separator second := by
  induction first with
  | nil => simp [splitOn]
  | cons c rest inductionHypothesis =>
      by_cases same : c = separator
      · simp [splitOn, same, inductionHypothesis]
      · rw [List.cons_append, splitOn, splitOn, if_neg same, if_neg same,
          inductionHypothesis]
        cases shape : splitOn separator rest with
        | nil => exact absurd shape (splitOn_ne_nil separator rest)
        | cons piece pieces => rfl

theorem not_mem_of_mem_splitOn
    {separator : Char}
    {text piece : Text}
    (member : piece ∈ splitOn separator text) :
    separator ∉ piece := by
  induction text generalizing piece with
  | nil =>
      obtain rfl := List.mem_singleton.mp member
      exact List.not_mem_nil
  | cons c rest inductionHypothesis =>
      rw [splitOn] at member
      split at member
      case isTrue =>
        rcases List.mem_cons.mp member with rfl | later
        · exact List.not_mem_nil
        · exact inductionHypothesis later
      case isFalse different =>
        cases shape : splitOn separator rest with
        | nil => exact absurd shape (splitOn_ne_nil separator rest)
        | cons first others =>
            rw [shape] at member inductionHypothesis
            rcases List.mem_cons.mp member with rfl | later
            · intro inside
              rcases List.mem_cons.mp inside with same | inFirst
              · exact different same.symm
              · exact inductionHypothesis List.mem_cons_self inFirst
            · exact inductionHypothesis (List.mem_cons_of_mem _ later)

/-- The pieces of a text have no characters but those of the text. -/
theorem subset_of_mem_splitOn
    {separator : Char}
    {text piece : Text}
    (member : piece ∈ splitOn separator text) :
    piece ⊆ text := by
  intro c inPiece
  have notSeparator : c ∉ [separator] := by
    rintro isSeparator
    rw [List.mem_singleton.mp isSeparator] at inPiece
    exact not_mem_of_mem_splitOn member inPiece
  rw [← joinWith_splitOn separator text, mem_joinWith_iff notSeparator]
  exact ⟨piece, member, inPiece⟩

/-- A text without the separator goes to the first piece of what follows it. -/
theorem splitOn_append_of_not_mem
    {separator : Char}
    {first : Text}
    (absent : separator ∉ first)
    (second : Text) :
    ∃ piece pieces,
      splitOn separator second = piece :: pieces ∧
        splitOn separator (first ++ second) = (first ++ piece) :: pieces := by
  induction first with
  | nil =>
      obtain ⟨piece, pieces, shape⟩ :=
        List.exists_cons_of_ne_nil (splitOn_ne_nil separator second)
      exact ⟨piece, pieces, shape, shape⟩
  | cons c rest inductionHypothesis =>
      have different : c ≠ separator := fun same => absent (same ▸ List.mem_cons_self)
      obtain ⟨piece, pieces, shape, split⟩ :=
        inductionHypothesis fun member => absent (List.mem_cons_of_mem c member)
      exact ⟨piece, pieces, shape, by simp [splitOn, different, split]⟩

/-- A part of a text that is free of the separator is a part of one of the pieces. -/
theorem exists_piece_of_infix
    {separator : Char}
    {part text : Text}
    (free : separator ∉ part)
    (inside : part <:+: text) :
    ∃ piece ∈ splitOn separator text, part <:+: piece := by
  obtain ⟨before, after, rfl⟩ := inside
  rw [List.append_assoc]
  induction before with
  | nil =>
      obtain ⟨piece, pieces, _, split⟩ := splitOn_append_of_not_mem free after
      refine ⟨part ++ piece, ?_, (List.prefix_append part piece).isInfix⟩
      rw [List.nil_append, split]
      exact List.mem_cons_self
  | cons c rest inductionHypothesis =>
      obtain ⟨piece, member, inPiece⟩ := inductionHypothesis
      by_cases same : c = separator
      · refine ⟨piece, ?_, inPiece⟩
        simp [splitOn, same, member]
      · cases shape : splitOn separator (rest ++ (part ++ after)) with
        | nil => exact absurd shape (splitOn_ne_nil separator _)
        | cons first others =>
            have split :
                splitOn separator (c :: rest ++ (part ++ after)) = (c :: first) :: others := by
              simp [splitOn, same, shape]
            rw [shape] at member
            rw [split]
            rcases List.mem_cons.mp member with rfl | later
            · have longer : piece <:+: c :: piece := (List.suffix_cons c piece).isInfix
              exact ⟨c :: piece, List.mem_cons_self, inPiece.trans longer⟩
            · exact ⟨piece, List.mem_cons_of_mem _ later, inPiece⟩

/-- Splitting gives back joined pieces that are free of the separator. -/
theorem splitOn_joinWith
    {separator : Char}
    {pieces : List Text}
    (some : pieces ≠ [])
    (free : ∀ piece ∈ pieces, separator ∉ piece) :
    splitOn separator (joinWith [separator] pieces) = pieces := by
  induction pieces with
  | nil => exact absurd rfl some
  | cons piece pieces inductionHypothesis =>
      have pieceFree := splitOn_of_not_mem (free piece List.mem_cons_self)
      cases pieces with
      | nil => exact pieceFree
      | cons next pieces =>
          have rest :=
            inductionHypothesis (by simp)
              (fun other member => free other (List.mem_cons_of_mem piece member))
          rw [joinWith, List.append_assoc, List.singleton_append, splitOn_append_separator,
            pieceFree, rest]
          rfl

theorem joinWith_append
    (separator : Text)
    {first second : List Text}
    (firstSome : first ≠ [])
    (secondSome : second ≠ []) :
    joinWith separator (first ++ second) =
      joinWith separator first ++ separator ++ joinWith separator second := by
  induction first with
  | nil => exact absurd rfl firstSome
  | cons piece pieces inductionHypothesis =>
      cases pieces with
      | nil =>
          obtain ⟨next, later, rfl⟩ := List.exists_cons_of_ne_nil secondSome
          rfl
      | cons next pieces =>
          have rest := inductionHypothesis (by simp)
          rw [List.cons_append, List.cons_append, joinWith, ← List.cons_append, rest, joinWith]
          simp only [List.append_assoc]

/-- Pieces of which one is not empty do not join to the empty text. -/
theorem joinWith_ne_nil
    {separator piece : Text}
    {pieces : List Text}
    (member : piece ∈ pieces)
    (some : piece ≠ []) :
    joinWith separator pieces ≠ [] := by
  obtain ⟨before, after, rfl⟩ := List.append_of_mem member
  have behind : joinWith separator (piece :: after) ≠ [] := by
    cases after with
    | nil => exact some
    | cons next later => simp [joinWith, some]
  cases before with
  | nil => exact behind
  | cons first others =>
      rw [joinWith_append _ (by simp) (by simp)]
      simp [behind]

theorem ne_of_mem_reverse
    {separator : Char}
    {text : Text}
    (free : separator ∉ text) :
    ∀ c ∈ text.reverse, (c != separator) = true := by
  intro c member
  have different : c ≠ separator := by
    rintro rfl
    exact free (List.mem_reverse.mp member)
  simpa using different

/-- What stands after the last separator is what follows it without another one. -/
theorem afterLast_append_separator
    {separator : Char}
    (first : Text)
    {last : Text}
    (free : separator ∉ last) :
    afterLast separator (first ++ separator :: last) = last := by
  have allKept := ne_of_mem_reverse free
  have shape :
      (first ++ separator :: last).reverse = last.reverse ++ separator :: first.reverse := by
    simp
  rw [afterLast, shape, List.takeWhile_append_of_pos allKept]
  simp

/-- What stands before the last separator is what comes before it. -/
theorem beforeLast_append_separator
    {separator : Char}
    (first : Text)
    {last : Text}
    (free : separator ∉ last) :
    beforeLast separator (first ++ separator :: last) = first := by
  have allDropped := ne_of_mem_reverse free
  have shape :
      (first ++ separator :: last).reverse = last.reverse ++ separator :: first.reverse := by
    simp
  rw [beforeLast, shape, List.dropWhile_append_of_pos allDropped]
  simp

theorem afterLast_of_not_mem
    {separator : Char}
    {text : Text}
    (free : separator ∉ text) :
    afterLast separator text = text := by
  have kept : (text.reverse ++ []).takeWhile (· != separator) = text.reverse ++ [] :=
    List.takeWhile_append_of_pos (ne_of_mem_reverse free)
  rw [List.append_nil] at kept
  rw [afterLast, kept, List.reverse_reverse]

theorem beforeLast_of_not_mem
    {separator : Char}
    {text : Text}
    (free : separator ∉ text) :
    beforeLast separator text = [] := by
  have dropped : (text.reverse ++ []).dropWhile (· != separator) = [] :=
    List.dropWhile_append_of_pos (ne_of_mem_reverse free)
  rw [List.append_nil] at dropped
  rw [beforeLast, dropped]
  rfl

/-- The pieces of a text are some pieces and a last one, which alone has no separator behind it. -/
theorem exists_last_piece
    (separator : Char)
    (text : Text) :
    ∃ front last,
      splitOn separator text = front ++ [last] ∧
        separator ∉ last ∧
          (front = [] ∧ text = last ∨
            text = joinWith [separator] front ++ separator :: last) := by
  obtain ⟨front, last, split⟩ :
      ∃ front last, splitOn separator text = front ++ [last] :=
    ⟨_, _, (List.dropLast_concat_getLast (splitOn_ne_nil separator text)).symm⟩
  have isPiece : last ∈ splitOn separator text := by
    simp [split]
  have joined := joinWith_splitOn separator text
  rw [split] at joined
  refine ⟨front, last, split, not_mem_of_mem_splitOn isPiece, ?_⟩
  cases front with
  | nil => exact .inl ⟨rfl, joined.symm⟩
  | cons first others =>
      rw [joinWith_append _ (by simp) (by simp)] at joined
      refine .inr ?_
      rw [← joined]
      simp [joinWith]

/-- The last piece is what stands after the last separator. -/
theorem splitOn_eq_append_afterLast
    (separator : Char)
    (text : Text) :
    splitOn separator text =
      (splitOn separator text).dropLast ++ [afterLast separator text] := by
  obtain ⟨front, last, split, free, ⟨rfl, rfl⟩ | whole⟩ := exists_last_piece separator text
  · rw [split, afterLast_of_not_mem free]
    rfl
  · rw [split, List.dropLast_concat, whole, afterLast_append_separator _ free]

/-- The other pieces, joined again, are what stands before the last separator. -/
theorem beforeLast_eq_joinWith
    (separator : Char)
    (text : Text) :
    beforeLast separator text = joinWith [separator] (splitOn separator text).dropLast := by
  obtain ⟨front, last, split, free, ⟨rfl, rfl⟩ | whole⟩ := exists_last_piece separator text
  · rw [split, beforeLast_of_not_mem free]
    rfl
  · rw [split, List.dropLast_concat, whole, beforeLast_append_separator _ free]

/-- What stands after the last separator is made of characters of the text. -/
theorem afterLast_subset
    (separator : Char)
    (text : Text) :
    afterLast separator text ⊆ text := by
  intro c member
  have inReverse := (List.takeWhile_sublist _).subset (List.mem_reverse.mp member)
  exact List.mem_reverse.mp inReverse

/-- And so is what stands before it. -/
theorem beforeLast_subset
    (separator : Char)
    (text : Text) :
    beforeLast separator text ⊆ text := by
  intro c member
  have dropped := (List.drop_sublist 1 _).subset (List.mem_reverse.mp member)
  exact List.mem_reverse.mp ((List.dropWhile_sublist _).subset dropped)

/-- Splitting gives back lines, and an empty piece behind the last line feed. -/
theorem splitOn_ofLines
    {lines : List Text}
    (free : ∀ line ∈ lines, '\n' ∉ line) :
    splitOn '\n' (ofLines lines) = lines ++ [[]] := by
  induction lines with
  | nil => rfl
  | cons line later inductionHypothesis =>
      have lineFree := splitOn_of_not_mem (free line List.mem_cons_self)
      have rest := inductionHypothesis fun other member =>
        free other (List.mem_cons_of_mem line member)
      unfold ofLines at rest ⊢
      rw [List.flatMap_cons, List.append_assoc, List.singleton_append,
        splitOn_append_separator, lineFree, rest]
      rfl

/-- Replacing one separator by another joins the same pieces. -/
theorem replaceChar_joinWith
    {separator : Char}
    (replacement : Text)
    {pieces : List Text}
    (free : ∀ piece ∈ pieces, separator ∉ piece) :
    replaceChar separator replacement (joinWith [separator] pieces) =
      joinWith replacement pieces := by
  have unchanged :
      ∀ piece : Text, separator ∉ piece → replaceChar separator replacement piece = piece := by
    intro piece pieceFree
    induction piece with
    | nil => rfl
    | cons c rest inductionHypothesis =>
        have different : c ≠ separator := fun same => pieceFree (same ▸ List.mem_cons_self)
        have restFree : separator ∉ rest :=
          fun member => pieceFree (List.mem_cons_of_mem c member)
        have tail := inductionHypothesis restFree
        unfold replaceChar at tail ⊢
        rw [List.flatMap_cons, if_neg different, tail]
        rfl
  induction pieces with
  | nil => rfl
  | cons piece pieces inductionHypothesis =>
      have pieceSame := unchanged piece (free piece List.mem_cons_self)
      cases pieces with
      | nil => exact pieceSame
      | cons next pieces =>
          have rest :=
            inductionHypothesis
              (fun other member => free other (List.mem_cons_of_mem piece member))
          unfold replaceChar at pieceSame rest ⊢
          rw [joinWith, joinWith, List.flatMap_append, List.flatMap_append, pieceSame, rest]
          simp

end ModSkeleton.Text
