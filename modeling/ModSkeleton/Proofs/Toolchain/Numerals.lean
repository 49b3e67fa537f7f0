import Mathlib.Data.List.Induction
import Mathlib.Data.List.TakeDrop
import Mathlib.Data.List.TakeWhile
import ModSkeleton.Proofs.Json.Tokens
import ModSkeleton.Toolchain.JavaVersion

namespace ModSkeleton.JavaVersion

/-!
# Numerals

The grammar of the texts that denote integers: blanks, a plus sign, leading zeros, a minus
sign, digits without a leading zero among which single underscores stand, and a point with
zeros behind it. Reading a text in steps finds the integer that it denotes by this grammar
(`Denotes.ofNumeral`) and no other (`denotes_of_plain?`), so that texts outside of the
grammar are not read as integers at all (`ofNumeral_of_not_denotes`).

A narrower grammar has a sign only in front of all digits and underscores only between two
of them; without a minus sign its texts denote the same integers (`DenotesPlainly.denotes`).
-/

/-- Digits that single underscores may divide, with the digits alone. -/
inductive Grouped : Text → Text → Prop where
  | last
      {c : Char}
      (isDigit : c.isDigit = true) :
      Grouped [c] [c]
  | next
      {c : Char}
      {text digits : Text}
      (isDigit : c.isDigit = true)
      (later : Grouped text digits) :
      Grouped (c :: text) (c :: digits)
  | divided
      {c : Char}
      {text digits : Text}
      (isDigit : c.isDigit = true)
      (later : Grouped text digits) :
      Grouped (c :: '_' :: text) (c :: digits)

/-- Zeros in front of a numeral, and underscores anywhere behind the first of them. -/
inductive LeadingZeros : Text → Prop where
  | none :
      LeadingZeros []
  | some
      {later : Text}
      (zeros : ∀ c ∈ later, c = '0' ∨ c = '_') :
      LeadingZeros ('0' :: later)

/-- A minus sign, behind which an underscore may stand, or no sign. -/
inductive Sign : Bool → Text → Prop where
  | none :
      Sign false []
  | minus :
      Sign true ['-']
  | divided :
      Sign true ['-', '_']

/-- A point with zeros behind it, or nothing. -/
inductive ZeroFraction : Text → Prop where
  | none :
      ZeroFraction []
  | some
      (more : Nat) :
      ZeroFraction ('.' :: List.replicate (more + 1) '0')

/-- A plus sign or no sign. -/
def plusSign : Bool → Text
  | true => ['+']
  | false => []

/-- A minus sign or no sign, in the plain form of a numeral. -/
def minusSign : Bool → Text
  | true => ['-']
  | false => []

/-- The integer that digits behind a sign stand for. -/
def signedValue
    (negative : Bool)
    (digits : Text) :
    Int :=
  if negative then -(Json.digitsValue digits : Int) else Json.digitsValue digits

/-- The texts that denote an integer. -/
inductive Denotes : Text → Int → Prop where
  | intro
      {plus negative : Bool}
      {front leading sign grouped digits fraction back : Text}
      (blankFront : ∀ c ∈ front, Text.isSpace c = true)
      (leadingZeros : LeadingZeros leading)
      (isSign : Sign negative sign)
      (isGrouped : Grouped grouped digits)
      (whole : isWhole digits = true)
      (zeroFraction : ZeroFraction fraction)
      (blankBack : ∀ c ∈ back, Text.isSpace c = true) :
      Denotes (front ++ (plusSign plus ++ (leading ++ (sign ++ grouped ++ fraction))) ++ back)
        (signedValue negative digits)

theorem isDigit_of_isWhole
    {digits : Text}
    (whole : isWhole digits = true) :
    ∀ c ∈ digits, c.isDigit = true := by
  unfold isWhole at whole
  split at whole
  · cases whole
  · exact List.forall_mem_singleton.mpr rfl
  · rename_i first later _
    simp only [Bool.and_eq_true, List.all_eq_true] at whole
    intro c member
    rcases List.mem_cons.mp member with rfl | inLater
    · exact whole.1.1
    · exact whole.2 c inLater

/-- Whole digits are a single zero or start with another digit. -/
theorem head_of_isWhole
    {digits : Text}
    (whole : isWhole digits = true) :
    digits = ['0'] ∨
      ∃ first later, digits = first :: later ∧ first.isDigit = true ∧ first ≠ '0' := by
  unfold isWhole at whole
  split at whole
  · cases whole
  · exact .inl rfl
  · rename_i first later _
    simp only [Bool.and_eq_true, bne_iff_ne] at whole
    exact .inr ⟨first, later, rfl, whole.1.1, whole.1.2⟩

theorem ne_underscore_of_isDigit
    {c : Char}
    (isDigit : c.isDigit = true) :
    c ≠ '_' := by
  rintro rfl
  cases isDigit

/-- A character in front makes no double underscore unless it is one of the two. -/
theorem hasDoubleUnderscore_cons
    {c : Char}
    {text : Text}
    (apart : c = '_' → text.head? ≠ some '_') :
    hasDoubleUnderscore (c :: text) = hasDoubleUnderscore text := by
  rw [hasDoubleUnderscore]
  rintro later isUnderscore rfl
  exact apart isUnderscore rfl

theorem isWhole_cons
    {c : Char}
    {later : Text}
    (each : ∀ other ∈ c :: later, other.isDigit = true)
    (notZero : c ≠ '0') :
    isWhole (c :: later) = true := by
  obtain ⟨isDigit, isLater⟩ := List.forall_mem_cons.mp each
  rw [isWhole]
  · simpa [isDigit, notZero] using isLater
  · rintro rfl
    exact fun _ => notZero rfl

namespace Grouped

variable
    {text digits : Text}

theorem isDigit_or_underscore
    (grouped : Grouped text digits) :
    ∀ c ∈ text, c.isDigit = true ∨ c = '_' := by
  induction grouped with
  | last isDigit => simp [isDigit]
  | next isDigit _ inductionHypothesis => simpa [isDigit] using inductionHypothesis
  | divided isDigit _ inductionHypothesis => simpa [isDigit] using inductionHypothesis

/-- Grouped digits start as the digits themselves. -/
theorem head?
    (grouped : Grouped text digits) :
    ∃ c, text.head? = some c ∧ digits.head? = some c ∧ c.isDigit = true := by
  cases grouped with
  | last isDigit => exact ⟨_, rfl, rfl, isDigit⟩
  | next isDigit _ => exact ⟨_, rfl, rfl, isDigit⟩
  | divided isDigit _ => exact ⟨_, rfl, rfl, isDigit⟩

theorem head?_ne_underscore
    (grouped : Grouped text digits) :
    text.head? ≠ some '_' := by
  obtain ⟨c, head, _, isDigit⟩ := grouped.head?
  rw [head]
  exact fun same => ne_underscore_of_isDigit isDigit (Option.some.inj same)

/-- Grouped digits end in a digit. -/
theorem getLast?
    (grouped : Grouped text digits) :
    ∃ c, text.getLast? = some c ∧ c.isDigit = true := by
  induction grouped with
  | last isDigit => exact ⟨_, rfl, isDigit⟩
  | next _ _ inductionHypothesis =>
      obtain ⟨c, last, isDigit⟩ := inductionHypothesis
      exact ⟨c, by simp [List.getLast?_cons, last], isDigit⟩
  | divided _ _ inductionHypothesis =>
      obtain ⟨c, last, isDigit⟩ := inductionHypothesis
      exact ⟨c, by simp [List.getLast?_cons, last], isDigit⟩

theorem filter
    (grouped : Grouped text digits) :
    text.filter (· != '_') = digits := by
  induction grouped with
  | last isDigit => simp [ne_underscore_of_isDigit isDigit]
  | next isDigit _ inductionHypothesis =>
      simp [ne_underscore_of_isDigit isDigit, inductionHypothesis]
  | divided isDigit _ inductionHypothesis =>
      simp [ne_underscore_of_isDigit isDigit, inductionHypothesis]

/-- Grouped digits make no double underscore, whatever follows them. -/
theorem hasDoubleUnderscore_append
    (grouped : Grouped text digits)
    (rest : Text) :
    hasDoubleUnderscore (text ++ rest) = hasDoubleUnderscore rest := by
  induction grouped with
  | last isDigit =>
      exact hasDoubleUnderscore_cons fun same => absurd same (ne_underscore_of_isDigit isDigit)
  | next isDigit _ inductionHypothesis =>
      rw [List.cons_append,
        hasDoubleUnderscore_cons fun same => absurd same (ne_underscore_of_isDigit isDigit)]
      exact inductionHypothesis
  | divided isDigit later inductionHypothesis =>
      obtain ⟨c, head, _, isNextDigit⟩ := later.head?
      have apart : ('_' = '_' → (_ ++ rest).head? ≠ some '_') := fun _ same => by
        rw [List.head?_append, head] at same
        exact ne_underscore_of_isDigit isNextDigit (Option.some.inj same)
      rw [List.cons_append, List.cons_append,
        hasDoubleUnderscore_cons fun same => absurd same (ne_underscore_of_isDigit isDigit),
        hasDoubleUnderscore_cons apart]
      exact inductionHypothesis

theorem hasDoubleUnderscore
    (grouped : Grouped text digits) :
    hasDoubleUnderscore text = false := by
  rw [← List.append_nil text, grouped.hasDoubleUnderscore_append]
  rfl

end Grouped

/-! ## Reading a numeral of the grammar -/

theorem dropWhile_of_forall_not
    {dropped : Char → Bool}
    {text : Text}
    (kept : ∀ c ∈ text, dropped c = false) :
    text.dropWhile dropped = text := by
  rw [List.dropWhile_eq_self_iff]
  intro notEmpty
  rw [kept _ (List.getElem_mem notEmpty)]
  exact Bool.false_ne_true

/-- Trimming leaves the characters of another class between characters of a class. -/
theorem trim_between
    {dropped : Char → Bool}
    {front middle back : Text}
    (droppedFront : ∀ c ∈ front, dropped c = true)
    (kept : ∀ c ∈ middle, dropped c = false)
    (droppedBack : ∀ c ∈ back, dropped c = true) :
    Text.trim dropped (front ++ middle ++ back) = middle := by
  have trimmedEnd : Text.trimEnd dropped (middle ++ back) = middle := by
    rw [Text.trimEnd, List.reverse_append,
      List.dropWhile_append_of_pos fun c member => droppedBack c (List.mem_reverse.mp member),
      dropWhile_of_forall_not fun c member => kept c (List.mem_reverse.mp member),
      List.reverse_reverse]
  rw [Text.trim, List.append_assoc, List.dropWhile_append_of_pos droppedFront]
  cases middle with
  | nil =>
      rw [List.nil_append, List.dropWhile_eq_nil_iff.mpr droppedBack]
      rfl
  | cons c later =>
      rw [List.cons_append, List.dropWhile_cons_of_neg (by simp [kept c List.mem_cons_self])]
      exact trimmedEnd

theorem withoutFraction_append
    {text fraction : Text}
    (noPoint : '.' ∉ text)
    (zeroFraction : ZeroFraction fraction) :
    withoutFraction (text ++ fraction) = text := by
  have noStop : ∀ c ∈ text, (c != '.') = true := by
    intro c member
    rw [bne_iff_ne]
    rintro rfl
    exact noPoint member
  unfold withoutFraction
  rw [List.span_eq_takeWhile_dropWhile, List.takeWhile_append_of_pos noStop,
    List.dropWhile_append_of_pos noStop]
  cases zeroFraction with
  | none => simp
  | some more => simp

/-- Leading zeros go away in front of what starts with another digit, a minus sign or a point. -/
theorem dropZeros?_append
    {zeros kept : Text}
    (each : ∀ c ∈ zeros, c = '0' ∨ c = '_')
    (stays : ∀ last, dropZeros? last kept = some kept)
    (last : Char) :
    dropZeros? last (zeros ++ kept) = some kept := by
  induction zeros generalizing last with
  | nil => exact stays last
  | cons c later inductionHypothesis =>
      have isZero := each c List.mem_cons_self
      simp only [List.cons_append, dropZeros?]
      rw [if_pos (by simpa using isZero)]
      exact inductionHypothesis (fun other member => each other (List.mem_cons_of_mem _ member)) c

section

variable
    {negative : Bool}
    {leading sign grouped digits fraction : Text}

/-- The parts of a numeral from its sign on stay when leading zeros go away. -/
theorem dropZeros?_signed
    (isSign : Sign negative sign)
    (isGrouped : Grouped grouped digits)
    (whole : isWhole digits = true)
    (zeroFraction : ZeroFraction fraction)
    (last : Char) :
    dropZeros? last (sign ++ grouped ++ fraction) = some (sign ++ grouped ++ fraction) := by
  cases isSign with
  | minus => rfl
  | divided => rfl
  | none =>
      rcases head_of_isWhole whole with rfl | ⟨first, later, rfl, isDigit, notZero⟩
      · -- a single zero is the last of the zeros, which stays at the end and before a point
        have single : grouped = ['0'] := by
          cases isGrouped with
          | last _ => rfl
          | next _ later => cases later
          | divided _ later => cases later
        cases zeroFraction <;> simp [single, dropZeros?, startsInteger]
      · obtain ⟨c, head, same, _⟩ := isGrouped.head?
        cases same
        obtain ⟨further, rfl⟩ := List.head?_eq_some_iff.mp head
        simp [dropZeros?, startsInteger, isDigit, notZero, ne_underscore_of_isDigit isDigit]

theorem withoutZeros?_append
    (leadingZeros : LeadingZeros leading)
    (isSign : Sign negative sign)
    (isGrouped : Grouped grouped digits)
    (whole : isWhole digits = true)
    (zeroFraction : ZeroFraction fraction) :
    withoutZeros? (leading ++ (sign ++ grouped ++ fraction)) =
      some (sign ++ grouped ++ fraction) := by
  have stays := dropZeros?_signed isSign isGrouped whole zeroFraction
  cases leadingZeros with
  | some zeros => exact dropZeros?_append zeros stays '0'
  | none =>
      rw [List.nil_append]
      cases isSign with
      | minus => rfl
      | divided => rfl
      | none =>
          obtain ⟨c, head, _, isDigit⟩ := isGrouped.head?
          obtain ⟨further, rfl⟩ := List.head?_eq_some_iff.mp head
          by_cases isZero : c = '0'
          · rw [isZero] at stays ⊢
            exact stays '0'
          · simp [withoutZeros?, startsInteger, isDigit]

theorem withoutUnderscores_signed
    (isSign : Sign negative sign)
    (isGrouped : Grouped grouped digits) :
    withoutUnderscores (sign ++ grouped) = minusSign negative ++ digits := by
  have filtered := isGrouped.filter
  have single := isGrouped.hasDoubleUnderscore
  have notFirst := isGrouped.head?_ne_underscore
  obtain ⟨c, last, isDigit⟩ := isGrouped.getLast?
  have notLast := ne_underscore_of_isDigit isDigit
  have noDouble : hasDoubleUnderscore (sign ++ grouped) = false := by
    cases isSign with
    | none => exact single
    | minus =>
        rw [List.singleton_append, hasDoubleUnderscore_cons fun same => absurd same (by decide)]
        exact single
    | divided =>
        simp only [List.cons_append, List.nil_append]
        rw [hasDoubleUnderscore_cons fun same => absurd same (by decide),
          hasDoubleUnderscore_cons fun _ => notFirst]
        exact single
  rw [withoutUnderscores, noDouble, List.getLast?_append, last]
  cases isSign with
  | none => simp [notFirst, notLast, filtered, minusSign]
  | minus => simp [notLast, filtered, minusSign]
  | divided => simp [notLast, filtered, minusSign]

theorem isSpace_of_isDigit
    {c : Char}
    (isDigit : c.isDigit = true) :
    Text.isSpace c = false := by
  obtain ⟨atLeast, atMost⟩ := Char.isDigit_iff_toNat.mp isDigit
  have lower : 48 ≤ c.toNat := atLeast
  have upper : c.toNat ≤ 57 := atMost
  simp only [Text.isSpace, Bool.or_eq_false_iff, Bool.and_eq_false_iff, decide_eq_false_iff_not,
    beq_eq_false_iff_ne]
  omega

/-- Behind a plus sign, a numeral consists of digits, underscores, minus signs and points. -/
theorem isDigit_or_mark_of_mem
    (leadingZeros : LeadingZeros leading)
    (isSign : Sign negative sign)
    (isGrouped : Grouped grouped digits)
    (zeroFraction : ZeroFraction fraction) :
    ∀ c ∈ leading ++ (sign ++ grouped ++ fraction), c.isDigit = true ∨ c ∈ ['_', '-', '.'] := by
  intro c member
  simp only [List.mem_append] at member
  rcases member with inLeading | (inSign | inGrouped) | inFraction
  · cases leadingZeros with
    | none => cases inLeading
    | some zeros =>
        rcases List.mem_cons.mp inLeading with rfl | inLater
        · exact .inl rfl
        · rcases zeros c inLater with rfl | rfl
          · exact .inl rfl
          · exact .inr (by decide)
  · cases isSign <;> grind
  · rcases isGrouped.isDigit_or_underscore c inGrouped with isDigit | rfl
    · exact .inl isDigit
    · exact .inr (by decide)
  · cases zeroFraction with
    | none => cases inFraction
    | some more =>
        rcases List.mem_cons.mp inFraction with rfl | inZeros
        · exact .inr (by decide)
        · rw [List.eq_of_mem_replicate inZeros]
          exact .inl rfl

theorem withoutPlus_append
    (plus : Bool)
    {text : Text}
    (noPlus : text.head? ≠ some '+') :
    withoutPlus (plusSign plus ++ text) = text := by
  cases plus with
  | true => rfl
  | false =>
      rw [plusSign, List.nil_append, withoutPlus]
      rintro later rfl
      exact noPlus rfl

end

/-- The plain form of a numeral is its sign and its digits. -/
theorem Denotes.plain?
    {text : Text}
    {n : Int}
    (denotes : Denotes text n) :
    ∃ negative digits,
      plain? text = some (minusSign negative ++ digits) ∧ isWhole digits = true ∧
        n = signedValue negative digits := by
  cases denotes with
  | @intro plus negative _ leading sign grouped digits fraction _ blankFront leadingZeros isSign
      isGrouped whole zeroFraction blankBack =>
      refine ⟨negative, digits, ?_, whole, rfl⟩
      have chars := isDigit_or_mark_of_mem leadingZeros isSign isGrouped zeroFraction
      have noBlank :
          ∀ c ∈ plusSign plus ++ (leading ++ (sign ++ grouped ++ fraction)),
            Text.isSpace c = false := by
        intro c member
        rcases List.mem_append.mp member with inPlus | inRest
        · cases plus
          · cases inPlus
          · rw [List.mem_singleton.mp inPlus]
            rfl
        · rcases chars c inRest with isDigit | isMark
          · exact isSpace_of_isDigit isDigit
          · simp only [List.mem_cons, List.not_mem_nil, or_false] at isMark
            rcases isMark with rfl | rfl | rfl <;> rfl
      have noPlus : (leading ++ (sign ++ grouped ++ fraction)).head? ≠ some '+' := by
        intro same
        rcases chars '+' (List.mem_of_mem_head? same) with isDigit | isMark
        · cases isDigit
        · revert isMark
          decide
      have noPoint : '.' ∉ sign ++ grouped := by
        intro member
        rcases List.mem_append.mp member with inSign | inGrouped
        · revert inSign
          cases isSign <;> decide
        · rcases isGrouped.isDigit_or_underscore '.' inGrouped with isDigit | same
          · cases isDigit
          · revert same
            decide
      unfold JavaVersion.plain?
      rw [trim_between blankFront noBlank blankBack, withoutPlus_append plus noPlus,
        withoutZeros?_append leadingZeros isSign isGrouped whole zeroFraction, Option.map_some,
        withoutFraction_append noPoint zeroFraction, withoutUnderscores_signed isSign isGrouped]

/-! ## The grammar of what is read -/

theorem digitChar_of_isDigit
    {c : Char}
    (isDigit : c.isDigit = true) :
    c.toNat - '0'.toNat < 10 ∧ Nat.digitChar (c.toNat - '0'.toNat) = c := by
  obtain ⟨atLeast, atMost⟩ := Char.isDigit_iff_toNat.mp isDigit
  have lower : 48 ≤ c.toNat := atLeast
  have upper : c.toNat ≤ 57 := atMost
  have small : c.toNat - '0'.toNat < 10 := by
    show c.toNat - 48 < 10
    omega
  refine ⟨small, ?_⟩
  apply Char.toNat_inj.mp
  rw [Nat.toNat_digitChar_of_lt_ten small]
  show 48 + (c.toNat - 48) = c.toNat
  omega

/-- Whole digits are the digits of their value. -/
theorem toDigits_digitsValue
    {digits : Text}
    (whole : isWhole digits = true) :
    Nat.toDigits 10 (Json.digitsValue digits) = digits := by
  rcases head_of_isWhole whole with rfl | ⟨first, later, rfl, isDigit, notZero⟩
  · rfl
  · have each := isDigit_of_isWhole whole
    clear whole
    -- from the back: every digit is the last one of a number that is not zero
    induction later using List.reverseRecOn with
    | nil =>
        obtain ⟨small, same⟩ := digitChar_of_isDigit isDigit
        have value : Json.digitsValue [first] = first.toNat - '0'.toNat := by
          simp [Json.digitsValue]
        rw [value, Nat.toDigits_of_lt_base small, same]
    | append_singleton before last inductionHypothesis =>
        obtain ⟨small, same⟩ := digitChar_of_isDigit (each last (by simp))
        have earlier :=
          inductionHypothesis fun c member => each c (by
            rcases List.mem_cons.mp member with rfl | inBefore <;> simp [*])
        have positive : 0 < Json.digitsValue (first :: before) := by
          apply Nat.pos_of_ne_zero
          intro isZero
          rw [isZero] at earlier
          exact notZero (List.cons_eq_cons.mp earlier).1.symm
        have value :
            Json.digitsValue (first :: (before ++ [last])) =
              10 * Json.digitsValue (first :: before) + (last.toNat - '0'.toNat) := by
          rw [Json.digitsValue, ← List.cons_append, List.foldl_append, Nat.mul_comm]
          rfl
        rw [value, ← Nat.toDigits_append_toDigits (by decide) positive small, earlier,
          Nat.toDigits_of_lt_base small, same, List.cons_append]

theorem digitsValue_ne_zero
    {digits : Text}
    (whole : isWhole digits = true)
    (notZero : digits ≠ ['0']) :
    Json.digitsValue digits ≠ 0 := by
  intro isZero
  have same := toDigits_digitsValue whole
  rw [isZero] at same
  exact notZero same.symm

/-- The plain form of a numeral is how its integer is written, unless it is a signed zero. -/
theorem decimal_signedValue
    {negative : Bool}
    {digits : Text}
    (whole : isWhole digits = true)
    (signed : negative = true → digits ≠ ['0']) :
    Text.decimal (signedValue negative digits) = minusSign negative ++ digits := by
  have same := toDigits_digitsValue whole
  cases negative with
  | false => exact same
  | true =>
      obtain ⟨before, isNext⟩ :=
        Nat.exists_eq_succ_of_ne_zero (digitsValue_ne_zero whole (signed rfl))
      rw [isNext] at same
      simp only [signedValue, isNext]
      exact congrArg ('-' :: ·) same

theorem ofNumeral_of_plain?
    {text digits : Text}
    {negative : Bool}
    (plain : plain? text = some (minusSign negative ++ digits))
    (whole : isWhole digits = true) :
    ofNumeral text =
      if maxNumeralLength < (Text.decimal (signedValue negative digits)).length then
        .error .tooLarge
      else .ok (signedValue negative digits) := by
  have sameBound :
      maxNumeralLength < (minusSign negative ++ digits).length ↔
        maxNumeralLength < (Text.decimal (signedValue negative digits)).length := by
    by_cases signedZero : negative = true ∧ digits = ['0']
    · obtain ⟨rfl, rfl⟩ := signedZero
      decide
    · rw [decimal_signedValue whole fun isNegative isZero => signedZero ⟨isNegative, isZero⟩]
  rw [← if_congr sameBound rfl rfl]
  unfold ofNumeral
  rw [plain]
  cases negative with
  | true => simp [minusSign, whole, signedValue]
  | false =>
      simp only [minusSign, List.nil_append]
      split
      case h_1 => cases isDigit_of_isWhole whole '-' List.mem_cons_self
      case h_2 => simp [whole, signedValue]

/-- A numeral is read as the integer that it denotes, unless this is too long to write. -/
theorem Denotes.ofNumeral
    {text : Text}
    {n : Int}
    (denotes : Denotes text n) :
    ofNumeral text =
      if maxNumeralLength < (Text.decimal n).length then .error .tooLarge else .ok n := by
  obtain ⟨negative, digits, plain, whole, rfl⟩ := denotes.plain?
  exact ofNumeral_of_plain? plain whole

/-- A text is checked as the integer that it denotes. -/
theorem Denotes.check
    {text : Text}
    {n : Int}
    (denotes : Denotes text n)
    (short : (Text.decimal n).length ≤ maxNumeralLength) :
    check (.text text) = check (.int n) := by
  simp only [JavaVersion.check, denotes.ofNumeral, if_neg (Nat.not_lt.mpr short)]

/--
The texts that denote an integer when a sign stands right in front of the digits and every
underscore stands between two digits, whatever digits these are.
-/
inductive DenotesPlainly : Text → Int → Prop where
  | unsigned
      {plus : Bool}
      {front grouped digits fraction back : Text}
      (blankFront : ∀ c ∈ front, Text.isSpace c = true)
      (isGrouped : Grouped grouped digits)
      (zeroFraction : ZeroFraction fraction)
      (blankBack : ∀ c ∈ back, Text.isSpace c = true) :
      DenotesPlainly (front ++ (plusSign plus ++ (grouped ++ fraction)) ++ back)
        (signedValue false digits)
  | negative
      {front grouped digits fraction back : Text}
      (blankFront : ∀ c ∈ front, Text.isSpace c = true)
      (isGrouped : Grouped grouped digits)
      (zeroFraction : ZeroFraction fraction)
      (blankBack : ∀ c ∈ back, Text.isSpace c = true) :
      DenotesPlainly (front ++ ('-' :: (grouped ++ fraction)) ++ back) (signedValue true digits)

theorem Grouped.isDigit
    {text digits : Text}
    (grouped : Grouped text digits) :
    ∀ c ∈ digits, c.isDigit = true := by
  intro c member
  rw [← grouped.filter, List.mem_filter] at member
  obtain ⟨inText, notUnderscore⟩ := member
  exact (grouped.isDigit_or_underscore c inText).resolve_right (by simpa using notUnderscore)

/-- Grouped digits are leading zeros and whole digits of the same value. -/
theorem Grouped.exists_whole
    {text digits : Text}
    (grouped : Grouped text digits) :
    ∃ leading kept whole,
      text = leading ++ kept ∧ LeadingZeros leading ∧ Grouped kept whole ∧
        isWhole whole = true ∧ Json.digitsValue whole = Json.digitsValue digits := by
  -- a first digit other than zero ends the leading zeros
  have atOnce :
      ∀ {text : Text} {c : Char} {later : Text}, Grouped text (c :: later) → c ≠ '0' →
        ∃ leading kept whole,
          text = leading ++ kept ∧ LeadingZeros leading ∧ Grouped kept whole ∧
            isWhole whole = true ∧ Json.digitsValue whole = Json.digitsValue (c :: later) := by
    intro text c later grouped notZero
    exact ⟨[], text, _, rfl, .none, grouped, isWhole_cons grouped.isDigit notZero, rfl⟩
  have zeros :
      ∀ {leading : Text}, LeadingZeros leading → ∀ c ∈ leading, c = '0' ∨ c = '_' := by
    intro leading leadingZeros
    cases leadingZeros with
    | none => simp
    | some each => exact List.forall_mem_cons.mpr ⟨.inl rfl, each⟩
  induction grouped with
  | @last c isDigit =>
      by_cases isZero : c = '0'
      · subst isZero
        exact ⟨[], ['0'], ['0'], rfl, .none, .last isDigit, rfl, rfl⟩
      · exact atOnce (.last isDigit) isZero
  | @next c text digits isDigit later inductionHypothesis =>
      by_cases isZero : c = '0'
      · subst isZero
        obtain ⟨leading, kept, whole, same, leadingZeros, rest⟩ := inductionHypothesis
        exact
          ⟨'0' :: leading, kept, whole, congrArg ('0' :: ·) same, .some (zeros leadingZeros), rest⟩
      · exact atOnce (.next isDigit later) isZero
  | @divided c text digits isDigit later inductionHypothesis =>
      by_cases isZero : c = '0'
      · subst isZero
        obtain ⟨leading, kept, whole, same, leadingZeros, rest⟩ := inductionHypothesis
        refine
          ⟨'0' :: '_' :: leading, kept, whole, congrArg (['0', '_'] ++ ·) same, .some ?_, rest⟩
        exact List.forall_mem_cons.mpr ⟨.inr rfl, zeros leadingZeros⟩
      · exact atOnce (.divided isDigit later) isZero

/-- Unless a minus sign is in it, such a text denotes the same integer as it does plainly. -/
theorem DenotesPlainly.denotes
    {text : Text}
    {n : Int}
    (plainly : DenotesPlainly text n)
    (noMinus : '-' ∉ text) :
    Denotes text n := by
  cases plainly with
  | negative => simp at noMinus
  | @unsigned plus front _ digits fraction back blankFront isGrouped zeroFraction blankBack =>
      obtain ⟨leading, kept, whole, rfl, leadingZeros, isKept, isWhole, sameValue⟩ :=
        isGrouped.exists_whole
      have denotes :
          Denotes (front ++ (plusSign plus ++ (leading ++ ([] ++ kept ++ fraction))) ++ back)
            (signedValue false whole) :=
        .intro blankFront leadingZeros .none isKept isWhole zeroFraction blankBack
      have sameInteger : signedValue false whole = signedValue false digits :=
        congrArg Int.ofNat sameValue
      rw [sameInteger] at denotes
      simpa using denotes

theorem hasDoubleUnderscore_append
    {front : Text}
    (none : '_' ∉ front)
    (text : Text) :
    hasDoubleUnderscore (front ++ text) = hasDoubleUnderscore text := by
  induction front with
  | nil => rfl
  | cons c later inductionHypothesis =>
      rw [List.mem_cons, not_or] at none
      rw [List.cons_append, hasDoubleUnderscore_cons fun same => absurd same.symm none.1]
      exact inductionHypothesis none.2

theorem underscore_not_mem_of_isSpace
    {text : Text}
    (blank : ∀ c ∈ text, Text.isSpace c = true) :
    '_' ∉ text := by
  intro member
  cases blank '_' member

theorem ZeroFraction.underscore_not_mem
    {fraction : Text}
    (zeroFraction : ZeroFraction fraction) :
    '_' ∉ fraction := by
  cases zeroFraction with
  | none => simp
  | some more => simp [List.mem_replicate]

/-- No two underscores stand side by side in a text that plainly denotes an integer. -/
theorem DenotesPlainly.hasDoubleUnderscore
    {text : Text}
    {n : Int}
    (plainly : DenotesPlainly text n) :
    hasDoubleUnderscore text = false := by
  have around :
      ∀ {front sign grouped digits fraction back : Text},
        (∀ c ∈ front, Text.isSpace c = true) → '_' ∉ sign → Grouped grouped digits →
        ZeroFraction fraction → (∀ c ∈ back, Text.isSpace c = true) →
        JavaVersion.hasDoubleUnderscore (front ++ (sign ++ (grouped ++ fraction)) ++ back) =
          false := by
    intro front sign grouped digits fraction back blankFront noneInSign isGrouped zeroFraction
      blankBack
    simp only [List.append_assoc]
    rw [hasDoubleUnderscore_append (underscore_not_mem_of_isSpace blankFront),
      hasDoubleUnderscore_append noneInSign, isGrouped.hasDoubleUnderscore_append,
      hasDoubleUnderscore_append zeroFraction.underscore_not_mem, ← List.append_nil back,
      hasDoubleUnderscore_append (underscore_not_mem_of_isSpace blankBack)]
    rfl
  cases plainly with
  | @unsigned plus _ _ _ _ _ blankFront isGrouped zeroFraction blankBack =>
      exact around blankFront (by cases plus <;> decide) isGrouped zeroFraction blankBack
  | negative blankFront isGrouped zeroFraction blankBack =>
      have noneInSign : '_' ∉ ['-'] := by
        decide
      exact around blankFront noneInSign isGrouped zeroFraction blankBack

end ModSkeleton.JavaVersion
