import Mathlib.Data.List.Infix
import ModSkeleton.Proofs.Text.Splitting

namespace ModSkeleton.Text

/-!
# Replacing a text in another

`Text.replaceAll` puts a replacement in the place of every occurrence of a target,
from the left and without overlap. A character that is not in the target keeps what
stands before it apart from what stands behind it, so that replacing on every line
is replacing in the whole text. A text is left as it is exactly if the target does
not occur in it, or is replaced by itself.
-/

/-- Replace a target, behind some characters that are done already. -/
def replaceFrom
    (target replacement : Text) :
    Nat → Text → Text
  | _, [] => []
  | done + 1, _ :: rest => replaceFrom target replacement done rest
  | 0, c :: rest =>
      if target.isPrefixOf (c :: rest) then
        replacement ++ replaceFrom target replacement (target.length - 1) rest
      else
        c :: replaceFrom target replacement 0 rest

/-- The text with a replacement in the place of every occurrence of a target. -/
def replaceAll
    (target replacement text : Text) :
    Text :=
  replaceFrom target replacement 0 text

/-- What was replaced is not looked at again. -/
example : replaceAll "aa".toList "ba".toList "aaaa".toList = "baba".toList := by
  decide

theorem replaceFrom_eq_drop
    (target replacement : Text)
    (done : Nat)
    (text : Text) :
    replaceFrom target replacement done text =
      replaceAll target replacement (text.drop done) := by
  induction text generalizing done with
  | nil => simp [replaceAll, replaceFrom]
  | cons c rest inductionHypothesis =>
      cases done with
      | zero => rfl
      | succ done =>
          rw [replaceFrom, List.drop_succ_cons]
          exact inductionHypothesis done

section

variable
    {target : Text}
    (some : target ≠ [])
    (replacement : Text)

theorem replaceAll_of_not_at_start
    {c : Char}
    {rest : Text}
    (absent : ¬target <+: c :: rest) :
    replaceAll target replacement (c :: rest) = c :: replaceAll target replacement rest := by
  rw [replaceAll, replaceFrom, if_neg (by simpa using absent)]
  rfl

include some

theorem replaceAll_target_append
    (after : Text) :
    replaceAll target replacement (target ++ after) =
      replacement ++ replaceAll target replacement after := by
  obtain ⟨c, rest, rfl⟩ := List.exists_cons_of_ne_nil some
  have found : (c :: rest).isPrefixOf (c :: (rest ++ after)) = true := by
    simp
  rw [List.cons_append, replaceAll, replaceFrom, if_pos found, replaceFrom_eq_drop]
  simp

/-- Induction over a text by the occurrences of a target and the characters between them. -/
theorem occurrence_induction
    {motive : Text → Prop}
    (nil : motive [])
    (occurrence : ∀ after, motive after → motive (target ++ after))
    (between : ∀ c rest, ¬target <+: c :: rest → motive rest → motive (c :: rest))
    (text : Text) :
    motive text := by
  induction size : text.length using Nat.strongRecOn generalizing text with
  | ind size inductionHypothesis =>
      subst size
      cases text with
      | nil => exact nil
      | cons c rest =>
          by_cases found : target <+: c :: rest
          · obtain ⟨after, shape⟩ := found
            have shorter : after.length < (c :: rest).length := by
              have positive := List.length_pos_iff.mpr some
              rw [← shape, List.length_append]
              omega
            rw [← shape]
            exact occurrence after (inductionHypothesis after.length shorter after rfl)
          · have shorter : rest.length < (c :: rest).length := Nat.lt_succ_self _
            exact between c rest found (inductionHypothesis rest.length shorter rest rfl)

/-- What begins with a character that is not in the target does not begin with the target. -/
theorem not_prefix_cons
    {c : Char}
    (different : c ∉ target)
    (rest : Text) :
    ¬target <+: c :: rest := by
  obtain ⟨head, tail, rfl⟩ := List.exists_cons_of_ne_nil some
  intro found
  obtain ⟨rfl, _⟩ := List.cons_prefix_cons.mp found
  exact different List.mem_cons_self

/-- A character that is not in the target keeps both sides of it apart. -/
theorem replaceAll_append_cons
    {c : Char}
    (different : c ∉ target)
    (first second : Text) :
    replaceAll target replacement (first ++ c :: second) =
      replaceAll target replacement first ++
        c :: replaceAll target replacement second := by
  induction first using occurrence_induction some with
  | nil => exact replaceAll_of_not_at_start replacement (not_prefix_cons some different second)
  | occurrence after inductionHypothesis =>
      rw [List.append_assoc, replaceAll_target_append some, inductionHypothesis,
        replaceAll_target_append some, List.append_assoc]
  | between d rest absent inductionHypothesis =>
      have stillAbsent : ¬target <+: d :: (rest ++ c :: second) := by
        intro found
        have isFront : d :: rest <+: d :: (rest ++ c :: second) := List.prefix_append _ _
        rcases List.prefix_or_prefix_of_prefix found isFront with short | long
        · exact absent short
        · -- The target would go on behind the first part, with the character in it.
          obtain ⟨further, rfl⟩ := long
          have goesOn : further <+: c :: second :=
            (List.prefix_append_right_inj (d :: rest)).mp found
          cases further with
          | nil => exact absent (by simp)
          | cons e later =>
              obtain ⟨rfl, _⟩ := List.cons_prefix_cons.mp goesOn
              exact different (by simp)
      rw [List.cons_append, replaceAll_of_not_at_start replacement stillAbsent,
        inductionHypothesis, replaceAll_of_not_at_start replacement absent, List.cons_append]

/-- Replacing in pieces on either side of a separator is replacing in the joined text. -/
theorem joinWith_map_replaceAll
    {separator : Char}
    (different : separator ∉ target)
    (pieces : List Text) :
    joinWith [separator] (pieces.map (replaceAll target replacement)) =
      replaceAll target replacement (joinWith [separator] pieces) := by
  induction pieces with
  | nil => rfl
  | cons piece pieces inductionHypothesis =>
      cases pieces with
      | nil => rfl
      | cons next pieces =>
          rw [joinWith, List.append_assoc, List.singleton_append,
            replaceAll_append_cons some replacement different, ← inductionHypothesis]
          simp [joinWith]

/-- Every occurrence changes the length by the same amount. -/
theorem exists_length_replaceAll
    (text : Text) :
    ∃ count,
      (target <:+: text → 0 < count) ∧
        (replaceAll target replacement text).length + count * target.length =
          text.length + count * replacement.length := by
  induction text using occurrence_induction some with
  | nil =>
      refine ⟨0, fun inside => absurd (List.infix_nil.mp inside) some, ?_⟩
      simp [replaceAll, replaceFrom]
  | occurrence after inductionHypothesis =>
      obtain ⟨count, _, length⟩ := inductionHypothesis
      refine ⟨count + 1, fun _ => Nat.succ_pos count, ?_⟩
      rw [replaceAll_target_append some, List.length_append, List.length_append,
        Nat.succ_mul, Nat.succ_mul]
      omega
  | between c rest absent inductionHypothesis =>
      obtain ⟨count, positive, length⟩ := inductionHypothesis
      refine ⟨count, ?_, ?_⟩
      · intro inside
        rcases List.infix_cons_iff.mp inside with atStart | later
        · exact (absent atStart).elim
        · exact positive later
      · rw [replaceAll_of_not_at_start replacement absent, List.length_cons, List.length_cons]
        omega

/-- A text stays as it is exactly if the target is not in it, or is replaced by itself. -/
theorem replaceAll_eq_self_iff
    (text : Text) :
    replaceAll target replacement text = text ↔
      replacement = target ∨ ¬target <:+: text := by
  induction text using occurrence_induction some with
  | nil =>
      have notInside : ¬target <:+: [] := fun inside => some (List.infix_nil.mp inside)
      simp [notInside, replaceAll, replaceFrom]
  | occurrence after inductionHypothesis =>
      have inside : target <:+: target ++ after := (List.prefix_append _ _).isInfix
      constructor
      · intro same
        obtain ⟨count, positive, length⟩ :=
          exists_length_replaceAll some replacement (target ++ after)
        rw [same] at length
        have sameLength : replacement.length = target.length :=
          (Nat.eq_of_mul_eq_mul_left (positive inside) (Nat.add_left_cancel length)).symm
        rw [replaceAll_target_append some] at same
        exact .inl (List.append_inj_left same sameLength)
      · rintro (rfl | absent)
        · rw [replaceAll_target_append some, inductionHypothesis.mpr (.inl rfl)]
        · exact (absent inside).elim
  | between c rest absent inductionHypothesis =>
      have sameInside : target <:+: c :: rest ↔ target <:+: rest := by
        rw [List.infix_cons_iff]
        exact or_iff_right absent
      rw [replaceAll_of_not_at_start replacement absent, List.cons_inj_right,
        inductionHypothesis, sameInside]

end

section

variable
    {first : Char}
    {later : Text}
    (replacement : Text)

/-- Where no occurrence can start, nothing is replaced. -/
theorem replaceAll_append_of_not_mem
    {front : Text}
    (absent : first ∉ front)
    (rest : Text) :
    replaceAll (first :: later) replacement (front ++ rest) =
      front ++ replaceAll (first :: later) replacement rest := by
  induction front with
  | nil => rfl
  | cons c front inductionHypothesis =>
      have notHere : ¬first :: later <+: c :: (front ++ rest) := by
        intro found
        obtain ⟨rfl, _⟩ := List.cons_prefix_cons.mp found
        exact absent List.mem_cons_self
      rw [List.cons_append, replaceAll_of_not_at_start replacement notHere,
        inductionHypothesis fun member => absent (List.mem_cons_of_mem c member)]
      rfl

end

/-- A text that lacks a character of the target is left as it is. -/
theorem replaceAll_of_not_mem
    {target : Text}
    {c : Char}
    (member : c ∈ target)
    (replacement : Text)
    {text : Text}
    (absent : c ∉ text) :
    replaceAll target replacement text = text :=
  (replaceAll_eq_self_iff (List.ne_nil_of_mem member) replacement text).mpr
    (.inr fun inside => absent (inside.subset member))

end ModSkeleton.Text
