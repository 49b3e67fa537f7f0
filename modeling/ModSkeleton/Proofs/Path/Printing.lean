import ModSkeleton.Proofs.Path.Components

namespace ModSkeleton.Path

/-!
# Printed paths

The text of a path that was read from a text is read as the same path again, whatever its
starting point and with the components that lead up left as they are (`parse_toText`).
-/

theorem isPart_of_mem_components
    {text part : Text}
    (member : part ∈ components text) :
    IsPart part := by
  obtain ⟨notEmpty, notCurrent⟩ := ne_of_mem_components member
  exact ⟨notEmpty, notCurrent, Text.not_mem_of_mem_splitOn (List.mem_filter.mp member).1⟩

@[simp]
theorem components_slash_cons
    (text : Text) :
    components ('/' :: text) = components text := by
  simp [components, Text.splitOn]

section

variable
    {parts : List Text}
    (areParts : ∀ part ∈ parts, IsPart part)

include areParts

/-- Joined components do not start with a slash. -/
theorem takeWhile_slash_joinWith :
    (Text.joinWith ['/'] parts).takeWhile (· == '/') = [] := by
  cases parts with
  | nil => rfl
  | cons first others =>
      have isPart := areParts first List.mem_cons_self
      obtain ⟨c, rest, rfl⟩ := List.exists_cons_of_ne_nil isPart.notEmpty
      have notSlash : (c == '/') = false := by
        rw [beq_eq_false_iff_ne]
        rintro rfl
        exact isPart.noSlash List.mem_cons_self
      cases others with
      | nil => simp [Text.joinWith, notSlash]
      | cons next later => simp [Text.joinWith, notSlash]

theorem components_toText
    (root : PathRoot) :
    components (toText ⟨root, parts⟩) = parts := by
  cases root with
  | relative =>
      by_cases none : parts = []
      · rw [none]
        decide
      · simp only [toText, List.isEmpty_iff, none, if_false]
        exact components_joinWith areParts
  | absolute =>
      simp only [toText, components_slash_cons]
      exact components_joinWith areParts
  | doubleSlash =>
      simp only [toText, components_slash_cons]
      exact components_joinWith areParts

theorem rootOf_toText
    (root : PathRoot) :
    rootOf (toText ⟨root, parts⟩) = root := by
  have start := takeWhile_slash_joinWith areParts
  cases root with
  | relative =>
      by_cases none : parts = []
      · rw [none]
        decide
      · simp only [toText, List.isEmpty_iff, none, if_false, rootOf, start, List.length_nil]
  | absolute => simp [toText, rootOf, start]
  | doubleSlash => simp [toText, rootOf, start]

end

/-- A path that was read from a text is read back from the text it is printed as. -/
theorem parse_toText
    (text : Text) :
    parse (parse text).toText = parse text := by
  have areParts : ∀ part ∈ components text, IsPart part :=
    fun _ member => isPart_of_mem_components member
  have root := rootOf_toText areParts (rootOf text)
  have parts := components_toText areParts (rootOf text)
  simp only [parse, root, parts]

end ModSkeleton.Path
