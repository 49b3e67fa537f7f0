import Mathlib.Algebra.Ring.Parity
import ModSkeleton.Groovy

namespace ModSkeleton.Groovy

/-!
# Quoting is faithful

The three replacements by which a text is quoted come to one pass over its characters:
none of them touches what another one has put in. So quoting respects concatenation, and
reading the body of a literal gives the text back.

A reader finds the end of a literal at the first quote that is not escaped, that is, not
behind an odd number of backslashes. In the literal of a text, only the last character is
such a quote (`odd_finalBackslashes_iff`).
-/

/-- The body of two texts in a row is made of their bodies. -/
theorem body_append
    (first second : Text) :
    body (first ++ second) = body first ++ body second := by
  simp only [body, Text.replaceChar, List.flatMap_append]

/-- No replacement changes what an earlier one has put in for a single character. -/
theorem body_singleton
    (c : Char) :
    body [c] = escapeChar c := by
  by_cases isBackslash : c = '\\'
  · subst c
    decide
  · by_cases isQuote : c = '\''
    · subst c
      decide
    · by_cases isNewline : c = '\n'
      · subst c
        decide
      · simp [body, Text.replaceChar, escapeChar, isBackslash, isQuote, isNewline]

theorem body_cons
    (c : Char)
    (rest : Text) :
    body (c :: rest) = escapeChar c ++ body rest := by
  rw [← body_singleton, ← body_append, List.singleton_append]

/-- The three replacements are one pass over the characters. -/
theorem body_eq_flatMap
    (text : Text) :
    body text = text.flatMap escapeChar := by
  induction text with
  | nil => rfl
  | cons c rest inductionHypothesis =>
      rw [body_cons, inductionHypothesis, List.flatMap_cons]

/-- What an escaped character is: itself behind a backslash, an `n` there, or alone. -/
theorem escapeChar_cases
    (c : Char) :
    ((c = '\\' ∨ c = '\'') ∧ escapeChar c = ['\\', c]) ∨
      (c = '\n' ∧ escapeChar c = ['\\', 'n']) ∨
        ((c ≠ '\\' ∧ c ≠ '\'' ∧ c ≠ '\n') ∧ escapeChar c = [c]) := by
  unfold escapeChar
  split
  case isTrue isBackslash =>
    subst c
    exact .inl ⟨.inl rfl, rfl⟩
  case isFalse notBackslash =>
    split
    case isTrue isQuote =>
      subst c
      exact .inl ⟨.inr rfl, rfl⟩
    case isFalse notQuote =>
      split
      case isTrue isNewline => exact .inr (.inl ⟨isNewline, rfl⟩)
      case isFalse notNewline =>
        exact .inr (.inr ⟨⟨notBackslash, notQuote, notNewline⟩, rfl⟩)

theorem decodeBody?_cons_of_ne
    {c : Char}
    (notBackslash : c ≠ '\\')
    (rest : Text) :
    decodeBody? (c :: rest) = (decodeBody? rest).map (c :: ·) := by
  rw [decodeBody?.eq_def]
  split
  case h_1 isNil => cases isNil
  case h_2 isEscape =>
    cases isEscape
    exact absurd rfl notBackslash
  case h_3 isCons =>
    cases isCons
    rw [if_neg notBackslash]

/-- An escaped character is read back as itself. -/
theorem decodeBody?_escapeChar_append
    (c : Char)
    (rest : Text) :
    decodeBody? (escapeChar c ++ rest) = (decodeBody? rest).map (c :: ·) := by
  rcases escapeChar_cases c with
    ⟨isMark, escaped⟩ | ⟨isNewline, escaped⟩ | ⟨⟨notBackslash, _, _⟩, escaped⟩
  · rw [escaped]
    rcases isMark with rfl | rfl
    · rfl
    · rfl
  · rw [escaped, isNewline]
    rfl
  · rw [escaped]
    exact decodeBody?_cons_of_ne notBackslash rest

/-- Reading the body of a literal gives back the text that was quoted. -/
theorem decodeBody?_body
    (text : Text) :
    decodeBody? (body text) = some text := by
  induction text with
  | nil => rfl
  | cons c rest inductionHypothesis =>
      rw [body_cons, decodeBody?_escapeChar_append, inductionHypothesis, Option.map_some]

theorem body_injective :
    Function.Injective body := by
  intro first second same
  have read : some first = some second := by
    rw [← decodeBody?_body first, same, decodeBody?_body]
  exact Option.some.inj read

theorem quote_injective :
    Function.Injective quote := by
  intro first second same
  have bodies : body first ++ ['\''] = body second ++ ['\''] := List.tail_eq_of_cons_eq same
  exact body_injective (List.append_cancel_right bodies)

/-- How many backslashes stand at the end of a text. -/
def finalBackslashes
    (text : Text) :
    Nat :=
  (text.reverse.takeWhile (· == '\\')).length

/-- The backslashes at the end go on into what stands before only if there is nothing else. -/
theorem finalBackslashes_append
    (first second : Text) :
    finalBackslashes (first ++ second) =
      if finalBackslashes second = second.length then
        second.length + finalBackslashes first
      else
        finalBackslashes second := by
  unfold finalBackslashes
  rw [List.reverse_append, List.takeWhile_append, List.length_reverse]
  split
  case isTrue => rw [List.length_append, List.length_reverse]
  case isFalse => rfl

/-- A text that ends in an even number of backslashes escapes nothing behind it. -/
theorem odd_finalBackslashes_append
    {first : Text}
    (even : Even (finalBackslashes first))
    (second : Text) :
    Odd (finalBackslashes (first ++ second)) ↔ Odd (finalBackslashes second) := by
  rw [finalBackslashes_append]
  split
  case isTrue onlyBackslashes =>
    rw [onlyBackslashes, Nat.odd_add]
    exact iff_true_right even
  case isFalse => exact Iff.rfl

theorem even_finalBackslashes_escapeChar
    (c : Char) :
    Even (finalBackslashes (escapeChar c)) := by
  rcases escapeChar_cases c with
    ⟨isMark, escaped⟩ | ⟨_, escaped⟩ | ⟨⟨notBackslash, _, _⟩, escaped⟩
  · rw [escaped]
    rcases isMark with rfl | rfl
    · decide
    · decide
  · rw [escaped]
    decide
  · have none : finalBackslashes [c] = 0 := by
      simp [finalBackslashes, notBackslash]
    rw [escaped, none]
    exact Even.zero

theorem eq_quote_of_mem_escapeChar
    {c : Char}
    (member : '\'' ∈ escapeChar c) :
    c = '\'' := by
  rcases escapeChar_cases c with
    ⟨isMark, escaped⟩ | ⟨_, escaped⟩ | ⟨_, escaped⟩
  · rw [escaped] at member
    rcases isMark with rfl | rfl
    · exact absurd member (by decide)
    · rfl
  · rw [escaped] at member
    exact absurd member (by decide)
  · rw [escaped] at member
    exact (List.mem_singleton.mp member).symm

/-- A quote that stands for a character is behind one backslash, and nothing follows it. -/
theorem eq_of_escapeChar_eq_append_quote
    {c : Char}
    {front back : Text}
    (split : escapeChar c = front ++ '\'' :: back) :
    front = ['\\'] ∧ back = [] := by
  have isQuote : c = '\'' := by
    apply eq_quote_of_mem_escapeChar
    rw [split]
    exact List.mem_append_right _ List.mem_cons_self
  subst c
  have shape : ['\\', '\''] = front ++ '\'' :: back := split
  cases front with
  | nil => cases shape
  | cons first others =>
      cases others with
      | nil =>
          cases shape
          exact ⟨rfl, rfl⟩
      | cons second later => simp at shape

/-- Behind the opening quote of a literal, exactly the quotes before the last one are escaped. -/
theorem odd_finalBackslashes_iff
    (text : Text)
    {front back : Text}
    (split : body text ++ ['\''] = front ++ '\'' :: back) :
    Odd (finalBackslashes front) ↔ back ≠ [] := by
  induction text generalizing front with
  | nil =>
      have shape : ['\''] = front ++ '\'' :: back := split
      cases front with
      | nil =>
          cases shape
          decide
      | cons first others => simp at shape
  | cons c rest inductionHypothesis =>
      rw [body_cons, List.append_assoc] at split
      -- The quote stands behind the escaped character, or is a part of it.
      rcases List.append_eq_append_iff.mp split with
        ⟨later, rfl, inRest⟩ | ⟨inside, inEscape, behind⟩
      · rw [odd_finalBackslashes_append (even_finalBackslashes_escapeChar c)]
        exact inductionHypothesis inRest
      · cases inside with
        | nil =>
            rw [List.append_nil] at inEscape
            rw [← inEscape, ← List.append_nil (escapeChar c),
              odd_finalBackslashes_append (even_finalBackslashes_escapeChar c)]
            exact inductionHypothesis behind.symm
        | cons first others =>
            obtain ⟨isQuote, isBack⟩ := List.cons.inj behind
            subst first
            obtain ⟨isFront, _⟩ := eq_of_escapeChar_eq_append_quote inEscape
            rw [isFront, isBack]
            simp [finalBackslashes]

/--
Quoting a text is one pass over its characters and respects concatenation. A literal ends
where it should: behind its opening quote, the last character is the only quote that is
not behind an odd number of backslashes. Reading its body gives the text back, so no two
texts have the same literal.
-/
theorem quote_faithful
    (text : Text) :
    body text = text.flatMap escapeChar ∧
      (∀ other, body (text ++ other) = body text ++ body other) ∧
        (∃ front, quote text = '\'' :: (front ++ ['\''])) ∧
          (∀ front back,
            quote text = '\'' :: (front ++ '\'' :: back) →
            (¬Odd (finalBackslashes front) ↔ back = [])) ∧
            decodeBody? (body text) = some text ∧
              ∀ other, quote text = quote other → text = other := by
  refine
    ⟨body_eq_flatMap text, body_append text, ⟨body text, rfl⟩, ?_, decodeBody?_body text, ?_⟩
  · intro front back split
    have behindOpening : body text ++ ['\''] = front ++ '\'' :: back :=
      List.tail_eq_of_cons_eq split
    rw [odd_finalBackslashes_iff text behindOpening, not_not]
  · intro other same
    exact quote_injective same

/-- A text with a quote, a line feed and a backslash at its end. -/
def markedText : Text :=
  "it's\\\nn\\".toList

/-- The quote inside such a text is escaped, and the backslash at its end is no escape. -/
theorem quote_faithful_marked :
    quote markedText = "'it\\'s\\\\\\nn\\\\'".toList ∧
      decodeBody? (body markedText) = some markedText ∧
        Odd (finalBackslashes "it\\".toList) ∧
          ¬Odd (finalBackslashes "it\\'s\\\\\\nn\\\\".toList) := by
  have literal : quote markedText = "'it\\'s\\\\\\nn\\\\'".toList := by
    decide
  obtain ⟨_, _, _, ends, read, _⟩ := quote_faithful markedText
  refine ⟨literal, read, ?_, ?_⟩
  · by_contra unescaped
    have isLast := (ends "it\\".toList "s\\\\\\nn\\\\'".toList literal).mp unescaped
    exact absurd isLast (by decide)
  · exact (ends "it\\'s\\\\\\nn\\\\".toList [] literal).mpr rfl

end ModSkeleton.Groovy
