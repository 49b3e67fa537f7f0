import ModSkeleton.Proofs.Path.Printing

namespace ModSkeleton.Path

/-!
# Path texts read by their names alone

Going along the pieces of a path text between slashes, an empty piece and a single dot stay
in place, two dots take the last name away, and every other piece is a name to be added. What
is left of an absolute path text in this way (`reduced`) is the same for its components, and
a slash or a slash and a dot behind one of them is of no account (`parse_insert`).
-/

/-- Going along pieces adds nothing but them. -/
theorem mem_of_mem_foldl_stepTo
    {names pieces : List Text}
    {name : Text}
    (member : name ∈ pieces.foldl stepTo names) :
    name ∈ names ∨ name ∈ pieces := by
  induction pieces generalizing names with
  | nil => exact .inl member
  | cons piece later inductionHypothesis =>
      rcases inductionHypothesis member with before | after
      · unfold stepTo at before
        split at before
        case isTrue => exact .inl before
        case isFalse =>
          split at before
          case isTrue => exact .inl (List.dropLast_subset _ before)
          case isFalse =>
            rcases List.mem_append.mp before with inNames | isPiece
            · exact .inl inNames
            · rw [List.mem_singleton.mp isPiece]
              exact .inr List.mem_cons_self
      · exact .inr (List.mem_cons_of_mem _ after)

/-- The names that are left of an absolute path text when its dots are cancelled. -/
def reduced
    (text : Text) :
    List Text :=
  (Text.splitOn '/' text).foldl stepTo []

/-- A path text made absolute: appended to the text of a working directory, or taken as it is. -/
def absoluteText
    (directory : List Text)
    (text : Text) :
    Text :=
  if text.head? = some '/' then text
  else toText ⟨.absolute, directory⟩ ++ '/' :: text

/-- Behind a slash, the pieces are gone along from where those before it lead. -/
theorem reduced_append_slash
    (first second : Text) :
    reduced (first ++ '/' :: second) =
      (Text.splitOn '/' second).foldl stepTo (reduced first) := by
  rw [reduced, Text.splitOn_append_separator, List.foldl_append, reduced]

/-- Pieces that are no components stay in place. -/
theorem foldl_stepTo_components
    (names : List Text)
    (text : Text) :
    (Text.splitOn '/' text).foldl stepTo names = (components text).foldl stepTo names := by
  rw [components, List.foldl_filter]
  congr 1
  funext reached piece
  by_cases stays : piece = [] ∨ piece = currentName
  · rcases stays with rfl | rfl
    · rfl
    · rfl
  · obtain ⟨notEmpty, notCurrent⟩ := not_or.mp stays
    have notDot : piece ≠ ['.'] := notCurrent
    simp [notEmpty, notDot]

theorem reduced_eq_foldl
    (text : Text) :
    reduced text = (components text).foldl stepTo [] :=
  foldl_stepTo_components [] text

theorem stepTo_of_isComponent
    {piece : Text}
    (component : IsComponent piece)
    (names : List Text) :
    stepTo names piece = names ++ [piece] := by
  simp [stepTo, component.notEmpty, component.notCurrent, component.notParent]

/-- Names of entries are all added. -/
theorem foldl_stepTo_of_isComponent
    {pieces : List Text}
    (areComponents : ∀ piece ∈ pieces, IsComponent piece)
    (names : List Text) :
    pieces.foldl stepTo names = names ++ pieces := by
  induction pieces generalizing names with
  | nil => simp
  | cons piece later inductionHypothesis =>
      have step := stepTo_of_isComponent (areComponents piece List.mem_cons_self) names
      have rest :=
        inductionHypothesis
          (fun other member => areComponents other (List.mem_cons_of_mem _ member))
          (names ++ [piece])
      rw [List.foldl_cons, step, rest, List.append_assoc]
      rfl

/-- The text of an absolute path to an entry leads there. -/
theorem reduced_toText
    {directory : List Text}
    (areComponents : ∀ name ∈ directory, IsComponent name) :
    reduced (toText ⟨.absolute, directory⟩) = directory := by
  have areParts : ∀ name ∈ directory, IsPart name :=
    fun name member => (areComponents name member).isPart
  rw [reduced_eq_foldl, components_toText areParts,
    foldl_stepTo_of_isComponent areComponents, List.nil_append]

/-- A path text is relative exactly if it does not begin with a slash. -/
theorem rootOf_eq_relative_iff
    (text : Text) :
    rootOf text = .relative ↔ text.head? ≠ some '/' := by
  cases text with
  | nil => decide
  | cons c rest =>
      by_cases slash : c = '/'
      · subst c
        have notRelative : rootOf ('/' :: rest) ≠ .relative := by
          unfold rootOf
          split
          case h_1 none => simp at none
          case h_2 => nofun
          case h_3 => nofun
        simp [notRelative]
      · simp [rootOf_of_head slash, slash]

/-- Made absolute and reduced, a path text leads where its components lead. -/
theorem reduced_absoluteText
    {directory : List Text}
    (areComponents : ∀ name ∈ directory, IsComponent name)
    (text : Text) :
    reduced (absoluteText directory text) =
      (components text).foldl stepTo (if rootOf text = .relative then directory else []) := by
  unfold absoluteText
  by_cases slash : text.head? = some '/'
  · have notRelative : rootOf text ≠ .relative :=
      fun relative => (rootOf_eq_relative_iff text).mp relative slash
    rw [if_pos slash, if_neg notRelative, reduced_eq_foldl]
  · have relative := (rootOf_eq_relative_iff text).mpr slash
    rw [if_neg slash, if_pos relative, reduced_append_slash, reduced_toText areComponents,
      foldl_stepTo_components]

/-- A component of a path text ends between its front and its back. -/
structure EndsComponent
    (front back : Text) :
    Prop where
  inside : ∃ before c, front = before ++ [c] ∧ c ≠ '/'
  boundary : back = [] ∨ ∃ rest, back = '/' :: rest

/-- What may be inserted behind a component: a slash, or a slash and a dot. -/
def insertions : List Text :=
  ["/".toList, "/.".toList]

theorem components_append_slash
    (first second : Text) :
    components (first ++ '/' :: second) = components first ++ components second := by
  simp only [components, Text.splitOn_append_separator, List.filter_append]

/-- Leading slashes end before a character that is none. -/
theorem rootOf_append
    {before : Text}
    {c : Char}
    (notSlash : c ≠ '/')
    (back : Text) :
    rootOf (before ++ [c] ++ back) = rootOf (before ++ [c]) := by
  have leading : ∀ text : Text,
      (before ++ c :: text).takeWhile (· == '/') = before.takeWhile (· == '/') := by
    intro text
    induction before with
    | nil => simp [notSlash]
    | cons first others inductionHypothesis =>
        rw [List.cons_append, List.takeWhile_cons, List.takeWhile_cons, inductionHypothesis]
  simp only [rootOf, List.append_assoc, List.cons_append, List.nil_append, leading]

/-- An insertion behind a component of a path text does not change the path. -/
theorem parse_insert
    {front back : Text}
    (ends : EndsComponent front back)
    {extra : Text}
    (isInsertion : extra ∈ insertions) :
    parse (front ++ extra ++ back) = parse (front ++ back) := by
  obtain ⟨⟨before, c, shape, notSlash⟩, boundary⟩ := ends
  have sameRoot : rootOf (front ++ extra ++ back) = rootOf (front ++ back) := by
    rw [shape, List.append_assoc, rootOf_append notSlash, rootOf_append notSlash]
  obtain ⟨dots, isExtra, noneInDots⟩ :
      ∃ dots, extra = '/' :: dots ∧ components dots = [] := by
    simp only [insertions, List.mem_cons, List.not_mem_nil, or_false] at isInsertion
    rcases isInsertion with rfl | rfl
    · exact ⟨[], rfl, rfl⟩
    · exact ⟨['.'], rfl, rfl⟩
  have sameComponents : components (front ++ extra ++ back) = components (front ++ back) := by
    rw [isExtra, List.append_assoc, List.cons_append, components_append_slash]
    rcases boundary with rfl | ⟨rest, rfl⟩
    · rw [List.append_nil, List.append_nil, noneInDots, List.append_nil]
    · rw [components_append_slash, components_append_slash, noneInDots, List.nil_append]
  rw [parse, parse, sameRoot, sameComponents]

end ModSkeleton.Path
