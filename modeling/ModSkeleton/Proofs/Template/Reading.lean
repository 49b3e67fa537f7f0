import ModSkeleton.Proofs.Template.Outline

namespace ModSkeleton.Template

/-!
# What outlines read

An outline takes texts from a context by name. Two contexts that agree on all names but
some hidden ones fill it with the same text if it reads none of the hidden names. If it
reads one name at a single place, everything around this place stays as it is when the
name is bound to something else (`exists_fill_around`); and so do the pieces between the
places if it reads the name at several (`exists_pieces`).
-/

namespace Context

/-- Two contexts bind the same names to the same values, hidden names apart. -/
def AgreeOutside
    (hidden : List Text)
    (first second : Context) :
    Prop :=
  ∀ word, word ∉ hidden → first.lookup word = second.lookup word

/-- A context without its hidden names. -/
def without
    (hidden : List Text)
    (context : Context) :
    Context :=
  context.filter fun entry => !hidden.contains entry.1

/-- Erasing hidden names changes nothing about the others. -/
theorem lookup_without
    {hidden : List Text}
    {word : Text}
    (visible : word ∉ hidden)
    (context : Context) :
    (context.without hidden).lookup word = context.lookup word := by
  unfold without
  induction context with
  | nil => rfl
  | cons entry later inductionHypothesis =>
      obtain ⟨name, value⟩ := entry
      by_cases isHidden : name ∈ hidden
      · have different : (word == name) = false := by
          rw [beq_eq_false_iff_ne]
          rintro rfl
          exact visible isHidden
        rw [List.filter_cons_of_neg (by simpa using isHidden), inductionHypothesis,
          List.lookup_cons, different]
      · rw [List.filter_cons_of_pos (by simpa using isHidden), List.lookup_cons,
          List.lookup_cons, inductionHypothesis]

/-- Contexts that are the same once their hidden names are erased agree on the others. -/
theorem agreeOutside_of_without
    {hidden : List Text}
    {first second : Context}
    (same : first.without hidden = second.without hidden) :
    first.AgreeOutside hidden second := by
  intro word visible
  rw [← lookup_without visible first, same, lookup_without visible second]

end Context

namespace Chunk

/-- The names whose texts a chunk takes. -/
def reads : Chunk → List Text
  | .text _ => []
  | .slot word => [word]
  | .filtered _ word _ => [word]

/-- Whether a chunk reads no hidden name. -/
def avoids
    (hidden : List Text)
    (chunk : Chunk) :
    Bool :=
  chunk.reads.all fun word => !hidden.contains word

variable
    {hidden : List Text}
    {first second : Context}

theorem textOf_congr
    (agree : first.AgreeOutside hidden second)
    {word : Text}
    (visible : word ∉ hidden) :
    textOf first word = textOf second word := by
  rw [textOf, textOf, agree word visible]

/-- A chunk that reads no hidden name is filled with the same text. -/
theorem fill_congr
    (agree : first.AgreeOutside hidden second)
    {chunk : Chunk}
    (avoids : chunk.avoids hidden = true) :
    chunk.fill first = chunk.fill second := by
  have visible : ∀ word ∈ chunk.reads, word ∉ hidden := by
    intro word member
    simpa using List.all_eq_true.mp avoids word member
  cases chunk with
  | text content => rfl
  | slot word => exact textOf_congr agree (visible word List.mem_cons_self)
  | filtered filter word suffix =>
      have same := textOf_congr agree (visible word List.mem_cons_self)
      simp only [fill, same]

/-- An outline that reads no hidden name is filled with the same text. -/
theorem flatMap_fill_congr
    (agree : first.AgreeOutside hidden second)
    {chunks : List Chunk}
    (avoids : chunks.all (avoids hidden) = true) :
    chunks.flatMap (fill first) = chunks.flatMap (fill second) := by
  induction chunks with
  | nil => rfl
  | cons chunk later inductionHypothesis =>
      rw [List.all_cons, Bool.and_eq_true] at avoids
      rw [List.flatMap_cons, List.flatMap_cons, fill_congr agree avoids.1,
        inductionHypothesis avoids.2]

/-- Whether an outline reads a name at one place only, through a filter. -/
def readsOnce
    (filter : Filter)
    (word : Text) :
    List Chunk → Bool
  | [] => false
  | chunk :: later =>
      if chunk = .filtered filter word [] then later.all (avoids [word])
      else chunk.avoids [word] && readsOnce filter word later

/-- What stands before and behind the only place where an outline reads a name. -/
theorem exists_around
    {filter : Filter}
    {word : Text}
    {chunks : List Chunk}
    (once : readsOnce filter word chunks = true) :
    ∃ front back,
      chunks = front ++ .filtered filter word [] :: back ∧
        front.all (avoids [word]) = true ∧ back.all (avoids [word]) = true := by
  induction chunks with
  | nil => cases once
  | cons chunk later inductionHypothesis =>
      by_cases isPlace : chunk = .filtered filter word []
      · rw [readsOnce, if_pos isPlace] at once
        exact ⟨[], later, by rw [isPlace]; rfl, rfl, once⟩
      · rw [readsOnce, if_neg isPlace, Bool.and_eq_true] at once
        obtain ⟨front, back, rfl, frontAvoids, backAvoids⟩ := inductionHypothesis once.2
        refine ⟨chunk :: front, back, rfl, ?_, backAvoids⟩
        rw [List.all_cons, once.1, frontAvoids]
        rfl

/--
An outline that reads a name at one place only is filled with the filtered text of this
name between two texts, whatever the name is bound to.
-/
theorem exists_fill_around
    {filter : Filter}
    {word : Text}
    {chunks : List Chunk}
    (once : readsOnce filter word chunks = true)
    (context : Context) :
    ∃ before after,
      ∀ other : Context,
        context.AgreeOutside [word] other →
        chunks.flatMap (fill other) = before ++ filter.ofText (textOf other word) ++ after := by
  obtain ⟨front, back, rfl, frontAvoids, backAvoids⟩ := exists_around once
  refine ⟨front.flatMap (fill context), back.flatMap (fill context), ?_⟩
  intro other agree
  rw [flatMap_fill_congr agree frontAvoids, flatMap_fill_congr agree backAvoids]
  simp only [List.flatMap_append, List.flatMap_cons, fill, List.append_nil, List.append_assoc]

end Chunk

end ModSkeleton.Template
