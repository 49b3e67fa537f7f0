import ModSkeleton.Proofs.Request.Names
import ModSkeleton.Request.Validate

namespace ModSkeleton

/-!
# The rule for mod ids

The rule asks for two to sixty-four characters: a lowercase letter first, and
lowercase letters, digits, underscores and hyphens behind it. The check admits a
text that follows the rule, and one line feed behind such a text, but nothing else
(`ModId.accepts_iff`). So an accepted mod id follows the rule exactly if it has no
line feed in it.
-/

/-- A text is what remains of it without a final line feed, or has that line feed behind it. -/
theorem Text.eq_or_eq_of_dropFinalNewline
    {text front : Text}
    (dropped : Text.dropFinalNewline text = front) :
    text = front ∨ text = front ++ ['\n'] := by
  unfold Text.dropFinalNewline at dropped
  split at dropped
  case isTrue endsInNewline =>
    obtain ⟨before, rfl⟩ := List.getLast?_eq_some_iff.mp endsInNewline
    rw [List.dropLast_concat] at dropped
    exact .inr (by rw [dropped])
  case isFalse => exact .inl dropped

@[simp]
theorem Text.dropFinalNewline_append_newline
    (front : Text) :
    Text.dropFinalNewline (front ++ ['\n']) = front := by
  simp [Text.dropFinalNewline]

/-- A text without line feeds loses nothing. -/
theorem Text.dropFinalNewline_of_not_mem
    {text : Text}
    (noNewline : '\n' ∉ text) :
    Text.dropFinalNewline text = text := by
  unfold Text.dropFinalNewline
  rw [if_neg]
  intro endsInNewline
  exact noNewline (List.mem_of_getLast? endsInNewline)

namespace ModId

/-- The characters that may stand behind the first one of a mod id. -/
def MayFollow
    (c : Char) :
    Prop :=
  ('a' ≤ c ∧ c ≤ 'z') ∨ ('0' ≤ c ∧ c ≤ '9') ∨ c = '_' ∨ c = '-'

/-- The rule that mod ids are meant to follow. -/
structure FollowsRule
    (text : Text) :
    Prop where
  atLeastTwo : 2 ≤ text.length
  atMostSixtyFour : text.length ≤ 64
  first : ∀ c ∈ text.head?, 'a' ≤ c ∧ c ≤ 'z'
  others : ∀ c ∈ text.tail, MayFollow c

theorem isFollowing_iff
    (c : Char) :
    isFollowing c = true ↔ MayFollow c := by
  simp [isFollowing, isLower, MayFollow, or_assoc]

instance
    (c : Char) :
    Decidable (MayFollow c) :=
  decidable_of_iff _ (isFollowing_iff c)

/-- The shape that the check looks for is the rule. -/
theorem hasShape_iff
    (text : Text) :
    hasShape text = true ↔ FollowsRule text := by
  cases text with
  | nil =>
      constructor
      · intro shaped
        cases shaped
      · intro follows
        exact absurd follows.atLeastTwo (by decide)
  | cons first following =>
      simp only [hasShape, isLower, Bool.and_eq_true, decide_eq_true_eq, List.all_eq_true,
        isFollowing_iff]
      constructor
      · rintro ⟨⟨⟨isFirst, areOthers⟩, some⟩, few⟩
        refine ⟨?_, ?_, ?_, areOthers⟩
        · rw [List.length_cons]
          omega
        · rw [List.length_cons]
          omega
        · intro c isHead
          cases isHead
          exact isFirst
      · rintro ⟨atLeastTwo, atMostSixtyFour, isFirst, areOthers⟩
        rw [List.length_cons] at atLeastTwo atMostSixtyFour
        exact ⟨⟨⟨isFirst first rfl, areOthers⟩, by omega⟩, by omega⟩

instance
    (text : Text) :
    Decidable (FollowsRule text) :=
  decidable_of_iff _ (hasShape_iff text)

theorem FollowsRule.mayFollow
    {text : Text}
    (follows : FollowsRule text)
    {c : Char}
    (member : c ∈ text) :
    MayFollow c := by
  cases text with
  | nil => cases member
  | cons first following =>
      rcases List.mem_cons.mp member with rfl | inFollowing
      · exact .inl (follows.first _ rfl)
      · exact follows.others c inFollowing

theorem FollowsRule.noNewline
    {text : Text}
    (follows : FollowsRule text) :
    '\n' ∉ text := by
  intro member
  exact absurd (follows.mayFollow member) (by decide)

/-- Accepted are the texts that follow the rule, with or without one line feed behind them. -/
theorem accepts_iff
    (text : Text) :
    accepts text = true ↔ ∃ id, FollowsRule id ∧ (text = id ∨ text = id ++ ['\n']) := by
  rw [accepts, hasShape_iff]
  constructor
  · intro follows
    exact ⟨_, follows, Text.eq_or_eq_of_dropFinalNewline rfl⟩
  · rintro ⟨id, follows, rfl | rfl⟩
    · rwa [Text.dropFinalNewline_of_not_mem follows.noNewline]
    · rwa [Text.dropFinalNewline_append_newline]

/-- A character of an accepted mod id is one that may follow, or a line feed. -/
theorem mayFollow_of_accepts
    {modId : Text}
    (accepted : accepts modId = true)
    {c : Char}
    (member : c ∈ modId)
    (notNewline : c ≠ '\n') :
    MayFollow c := by
  obtain ⟨id, follows, rfl | rfl⟩ := (accepts_iff modId).mp accepted
  · exact follows.mayFollow member
  · rcases List.mem_append.mp member with inId | isLast
    · exact follows.mayFollow inId
    · exact (notNewline (List.mem_singleton.mp isLast)).elim

/-- No other character is in an accepted mod id. -/
theorem not_mem_of_accepts
    {modId : Text}
    (accepted : accepts modId = true)
    {c : Char}
    (notNewline : c ≠ '\n')
    (mayNot : ¬MayFollow c) :
    c ∉ modId :=
  fun member => mayNot (mayFollow_of_accepts accepted member notNewline)

/-- An accepted mod id follows the rule unless it ends in a line feed. -/
theorem followsRule_iff_of_accepts
    {modId : Text}
    (accepted : accepts modId = true) :
    FollowsRule modId ↔ '\n' ∉ modId := by
  constructor
  · exact FollowsRule.noNewline
  · intro noNewline
    obtain ⟨id, follows, rfl | rfl⟩ := (accepts_iff modId).mp accepted
    · exact follows
    · simp at noNewline

end ModId

end ModSkeleton
