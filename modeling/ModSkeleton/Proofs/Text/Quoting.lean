import ModSkeleton.Template.Literal
import ModSkeleton.Text.Quoted

namespace ModSkeleton.Text

open Template

/-!
# Quoted text is read back

Between its marks, every character of a quoted text is written as itself, as a letter
behind a backslash, or by its code (`StandsFor`). All of this is printable, whatever the
text holds (`all_isPrintable_quoted`). It is also a literal of the text: a reader that
steps over escaped characters finds the closing mark, whatever comes behind it, and
undoing the escapes gives the text back (`readQuoted?_quoted_append`). So no two texts
are quoted in the same way, and quoted text can be told apart from what follows it.
-/

/-- Every code of a character has at most six hexadecimal digits. -/
theorem toNat_lt
    (c : Char) :
    c.toNat < 0x110000 := by
  have valid := c.valid
  simp only [UInt32.isValidChar, Nat.isValidChar] at valid
  change c.val.toNat < _
  omega

section Hexadecimal

theorem length_hexadecimal
    {width n : Nat}
    (fits : (Nat.toDigits 16 n).length ≤ width) :
    (hexadecimal width n).length = width := by
  rw [hexadecimal, List.length_append, List.length_replicate]
  omega

/-- The digits of a number are digits of the base. -/
theorem exists_digitChar_of_mem_toDigits
    {n : Nat}
    {c : Char}
    (member : c ∈ Nat.toDigits 16 n) :
    ∃ digit : Fin 16, c = Nat.digitChar digit := by
  induction n using Nat.strongRecOn with
  | ind n inductionHypothesis =>
      by_cases small : n < 16
      · rw [Nat.toDigits_of_lt_base small] at member
        exact ⟨⟨n, small⟩, List.mem_singleton.mp member⟩
      · have large : 16 ≤ n := Nat.le_of_not_lt small
        rw [Nat.toDigits_of_base_le (by decide) large] at member
        rcases List.mem_append.mp member with inFront | isLast
        · exact inductionHypothesis (n / 16) (by omega) inFront
        · exact ⟨⟨n % 16, Nat.mod_lt n (by decide)⟩, List.mem_singleton.mp isLast⟩

theorem exists_digitChar_of_mem_hexadecimal
    {width n : Nat}
    {c : Char}
    (member : c ∈ hexadecimal width n) :
    ∃ digit : Fin 16, c = Nat.digitChar digit := by
  rcases List.mem_append.mp member with isFill | isDigit
  · exact ⟨0, List.eq_of_mem_replicate isFill⟩
  · exact exists_digitChar_of_mem_toDigits isDigit

/-- Reading one more digit behind others. -/
theorem hexValue?_append_digitChar
    {digits : Text}
    {value digit : Nat}
    (read : Literal.hexValue? digits = some value)
    (isDigit : digit < 16) :
    Literal.hexValue? (digits ++ [Nat.digitChar digit]) = some (value * 16 + digit) := by
  have digitRead : ∀ digit : Fin 16, Json.hexDigit? (Nat.digitChar digit) = some digit.val := by
    decide
  unfold Literal.hexValue? at read ⊢
  rw [List.foldlM_append, read]
  simp [digitRead ⟨digit, isDigit⟩]

theorem hexValue?_toDigits
    (n : Nat) :
    Literal.hexValue? (Nat.toDigits 16 n) = some n := by
  induction n using Nat.strongRecOn with
  | ind n inductionHypothesis =>
      by_cases small : n < 16
      · rw [Nat.toDigits_of_lt_base small]
        have empty : Literal.hexValue? [] = some 0 := rfl
        simpa using hexValue?_append_digitChar empty small
      · have large : 16 ≤ n := Nat.le_of_not_lt small
        have front := inductionHypothesis (n / 16) (by omega)
        rw [Nat.toDigits_of_base_le (by decide) large,
          hexValue?_append_digitChar front (Nat.mod_lt n (by decide))]
        congr 1
        omega

/-- The zeros in front of a number do not count. -/
theorem hexValue?_hexadecimal
    (width n : Nat) :
    Literal.hexValue? (hexadecimal width n) = some n := by
  simp only [hexadecimal]
  induction width - (Nat.toDigits 16 n).length with
  | zero => exact hexValue?_toDigits n
  | succ fill inductionHypothesis =>
      rw [List.replicate_succ, List.cons_append]
      exact inductionHypothesis

end Hexadecimal

/-- The two characters that serve as quote marks. -/
def IsMark
    (mark : Char) :
    Prop :=
  mark = '"' ∨ mark = '\''

instance
    (mark : Char) :
    Decidable (IsMark mark) :=
  inferInstanceAs (Decidable (_ ∨ _))

/-- Letters that stand for a character behind a backslash, with that character. -/
def letterEscapes : List (Char × Char) :=
  [('\\', '\\'), ('\'', '\''), ('"', '"'), ('n', '\n'), ('r', '\r'), ('t', '\t')]

/-- Letters that announce a code behind a backslash, with its number of digits. -/
def codeEscapes : List (Char × Nat) :=
  [('x', 2), ('u', 4), ('U', 8)]

/-- What stands for a character between two marks: itself, a letter or its code. -/
inductive StandsFor
    (mark c : Char) :
    Text → Prop where
  | itself
      (notMark : c ≠ mark)
      (notSlash : c ≠ '\\')
      (printable : isPrintable c = true) :
      StandsFor mark c [c]
  | letter
      {letter : Char}
      (names : (letter, c) ∈ letterEscapes) :
      StandsFor mark c ['\\', letter]
  | code
      {letter : Char}
      {width : Nat}
      (announces : (letter, width) ∈ codeEscapes)
      (fits : (Nat.toDigits 16 c.toNat).length ≤ width) :
      StandsFor mark c ('\\' :: letter :: hexadecimal width c.toNat)

/-- A character between two marks is written as something that stands for it. -/
theorem standsFor_quoteChar
    {mark : Char}
    (isMark : IsMark mark)
    (c : Char) :
    StandsFor mark c (quoteChar mark c) := by
  have digits {width : Nat} (notEmpty : 0 < width) :
      (Nat.toDigits 16 c.toNat).length ≤ width ↔ c.toNat < 16 ^ width :=
    Nat.length_toDigits_le_iff (by decide) notEmpty
  unfold quoteChar
  split
  case isTrue isSpecial =>
    apply StandsFor.letter
    rcases Bool.or_eq_true_iff.mp isSpecial with same | isSlash
    · obtain rfl : c = mark := of_decide_eq_true same
      rcases isMark with rfl | rfl
      · decide
      · decide
    · obtain rfl : c = '\\' := of_decide_eq_true isSlash
      decide
  case isFalse notSpecial =>
    have plain : c ≠ mark ∧ c ≠ '\\' := by
      simpa using notSpecial
    split
    case isTrue isNewline =>
      subst c
      exact .letter (by decide)
    split
    case isTrue isReturn =>
      subst c
      exact .letter (by decide)
    split
    case isTrue isTab =>
      subst c
      exact .letter (by decide)
    split
    case isTrue printable => exact .itself plain.1 plain.2 printable
    split
    case isTrue narrow => exact .code (by decide) ((digits (by decide)).mpr narrow)
    split
    case isTrue wide => exact .code (by decide) ((digits (by decide)).mpr wide)
    case isFalse =>
      have fits : c.toNat < 0x100000000 := Nat.lt_trans (toNat_lt c) (by decide)
      exact .code (by decide) ((digits (by decide)).mpr fits)

section Printable

theorem isPrintable_of_mem_hexadecimal
    {width n : Nat}
    {c : Char}
    (member : c ∈ hexadecimal width n) :
    isPrintable c = true := by
  have digits : ∀ digit : Fin 16, isPrintable (Nat.digitChar digit) = true := by
    decide
  obtain ⟨digit, rfl⟩ := exists_digitChar_of_mem_hexadecimal member
  exact digits digit

theorem StandsFor.all_isPrintable
    {mark c : Char}
    {written : Text}
    (stands : StandsFor mark c written) :
    written.all isPrintable = true := by
  have letters : ∀ escape ∈ letterEscapes, ['\\', escape.1].all isPrintable = true := by
    decide
  have codes : ∀ escape ∈ codeEscapes, ['\\', escape.1].all isPrintable = true := by
    decide
  cases stands with
  | itself _ _ printable => simpa using printable
  | letter names => exact letters _ names
  | @code letter width announces _ =>
      have digits : (hexadecimal width c.toNat).all isPrintable = true :=
        List.all_eq_true.mpr fun _ member => isPrintable_of_mem_hexadecimal member
      have shape :
          '\\' :: letter :: hexadecimal width c.toNat =
            ['\\', letter] ++ hexadecimal width c.toNat :=
        rfl
      rw [shape, List.all_append, digits, Bool.and_true]
      exact codes _ announces

theorem isMark_quoteMark
    (text : Text) :
    IsMark (quoteMark text) :=
  quoteMark_eq text

/-- Quoting leaves nothing in a text that is not printable. -/
theorem all_isPrintable_quoted
    (text : Text) :
    (quoted text).all isPrintable = true := by
  have marks : ∀ mark, IsMark mark → isPrintable mark = true := by
    rintro mark (rfl | rfl)
    · decide
    · decide
  have isMark := isMark_quoteMark text
  have body : (text.flatMap (quoteChar (quoteMark text))).all isPrintable = true := by
    rw [List.all_flatMap, List.all_eq_true]
    intro c _
    exact (standsFor_quoteChar isMark c).all_isPrintable
  simp [quoted, marks _ isMark, body]

end Printable

section Reading

/-- More text in front of what was found before a closing mark. -/
def prepend
    (front : Text)
    (found : Option (Text × Text)) :
    Option (Text × Text) :=
  found.map fun (body, behind) => (front ++ body, behind)

@[simp]
theorem prepend_some
    (front body behind : Text) :
    prepend front (some (body, behind)) = some (front ++ body, behind) :=
  rfl

theorem prepend_append
    (first second : Text)
    (found : Option (Text × Text)) :
    prepend (first ++ second) found = prepend first (prepend second found) := by
  cases found with
  | none => rfl
  | some parts => simp [prepend]

/--
What stands before the closing mark and behind it. The flag says whether the next
character is escaped, so that it cannot close the text.
-/
def splitAtMark?
    (mark : Char) :
    Bool → Text → Option (Text × Text)
  | _, [] => none
  | true, c :: rest => prepend [c] (splitAtMark? mark false rest)
  | false, c :: rest =>
      if c = mark then some ([], rest)
      else prepend [c] (splitAtMark? mark (c == '\\') rest)

/-- Text without marks and backslashes is stepped over. -/
theorem splitAtMark?_plain_append
    {mark : Char}
    {plain : Text}
    (noMark : mark ∉ plain)
    (noSlash : '\\' ∉ plain)
    (rest : Text) :
    splitAtMark? mark false (plain ++ rest) = prepend plain (splitAtMark? mark false rest) := by
  induction plain with
  | nil =>
      cases found : splitAtMark? mark false rest with
      | none => simp [found, prepend]
      | some parts => simp [found, prepend]
  | cons c later inductionHypothesis =>
      simp only [List.mem_cons, not_or] at noMark noSlash
      have notSlash : (c == '\\') = false := by
        simpa using Ne.symm noSlash.1
      rw [List.cons_append, splitAtMark?, if_neg (Ne.symm noMark.1), notSlash,
        inductionHypothesis noMark.2 noSlash.2, ← prepend_append, List.singleton_append]

/-- A backslash and the character behind it are stepped over, even if this is the mark. -/
theorem splitAtMark?_escape
    {mark : Char}
    (isMark : IsMark mark)
    (letter : Char)
    (rest : Text) :
    splitAtMark? mark false ('\\' :: letter :: rest) =
      prepend ['\\', letter] (splitAtMark? mark false rest) := by
  have notMark : '\\' ≠ mark := by
    rcases isMark with rfl | rfl
    · decide
    · decide
  rw [splitAtMark?, if_neg notMark, beq_self_eq_true, splitAtMark?, ← prepend_append]
  rfl

/-- What stands for a character does not close the text. -/
theorem StandsFor.splitAtMark?_append
    {mark c : Char}
    (isMark : IsMark mark)
    {written : Text}
    (stands : StandsFor mark c written)
    (rest : Text) :
    splitAtMark? mark false (written ++ rest) =
      prepend written (splitAtMark? mark false rest) := by
  cases stands with
  | itself notMark notSlash _ =>
      apply splitAtMark?_plain_append
      · simpa using notMark.symm
      · simpa using notSlash.symm
  | letter _ => exact splitAtMark?_escape isMark _ rest
  | @code letter width _ _ =>
      have digits :
          ∀ digit : Fin 16,
            Nat.digitChar digit ≠ '"' ∧ Nat.digitChar digit ≠ '\'' ∧
              Nat.digitChar digit ≠ '\\' := by
        decide
      have noMark : mark ∉ hexadecimal width c.toNat := by
        intro member
        obtain ⟨digit, isDigit⟩ := exists_digitChar_of_mem_hexadecimal member
        rcases isMark with rfl | rfl
        · exact (digits digit).1 isDigit.symm
        · exact (digits digit).2.1 isDigit.symm
      have noSlash : '\\' ∉ hexadecimal width c.toNat := by
        intro member
        obtain ⟨digit, isDigit⟩ := exists_digitChar_of_mem_hexadecimal member
        exact (digits digit).2.2 isDigit.symm
      rw [List.cons_append, List.cons_append, splitAtMark?_escape isMark,
        splitAtMark?_plain_append noMark noSlash, ← prepend_append]
      rfl

theorem splitAtMark?_flatMap_quoteChar
    {mark : Char}
    (isMark : IsMark mark)
    (text behind : Text) :
    splitAtMark? mark false (text.flatMap (quoteChar mark) ++ mark :: behind) =
      some (text.flatMap (quoteChar mark), behind) := by
  induction text with
  | nil => simp [splitAtMark?]
  | cons c rest inductionHypothesis =>
      rw [List.flatMap_cons, List.append_assoc,
        (standsFor_quoteChar isMark c).splitAtMark?_append isMark, inductionHypothesis,
        prepend_some]

/-- A letter escape denotes its character. -/
theorem escape?_letter
    {letter c : Char}
    (names : (letter, c) ∈ letterEscapes)
    (rest : Text) :
    Literal.escape? (letter :: rest) = some ⟨[c], 1⟩ := by
  simp only [letterEscapes, List.mem_cons, Prod.mk.injEq, List.not_mem_nil, or_false] at names
  rcases names with ⟨rfl, rfl⟩ | ⟨rfl, rfl⟩ | ⟨rfl, rfl⟩ | ⟨rfl, rfl⟩ | ⟨rfl, rfl⟩ | ⟨rfl, rfl⟩
    <;> rfl

theorem byCode?_hexadecimal
    {width : Nat}
    {c : Char}
    (fits : (Nat.toDigits 16 c.toNat).length ≤ width)
    (rest : Text) :
    Literal.byCode? width (hexadecimal width c.toNat ++ rest) = some ⟨[c], width + 1⟩ := by
  have length := length_hexadecimal fits
  have long : ¬(hexadecimal width c.toNat ++ rest).length < width := by
    rw [List.length_append, length]
    omega
  have digits : (hexadecimal width c.toNat ++ rest).take width = hexadecimal width c.toNat :=
    List.take_left' length
  have isChar : Literal.charOf? c.toNat = some c := by
    have valid : c.toNat.isValidChar := c.valid
    rw [Literal.charOf?, if_pos valid, Char.ofNat_toNat]
  rw [Literal.byCode?, if_neg long, digits, hexValue?_hexadecimal, Option.bind_some, isChar,
    Option.map_some]

/-- A code escape denotes the character with that code. -/
theorem escape?_code
    {letter : Char}
    {width : Nat}
    (announces : (letter, width) ∈ codeEscapes)
    {c : Char}
    (fits : (Nat.toDigits 16 c.toNat).length ≤ width)
    (rest : Text) :
    Literal.escape? (letter :: (hexadecimal width c.toNat ++ rest)) =
      some ⟨[c], width + 1⟩ := by
  simp only [codeEscapes, List.mem_cons, Prod.mk.injEq, List.not_mem_nil, or_false] at announces
  rcases announces with ⟨rfl, rfl⟩ | ⟨rfl, rfl⟩ | ⟨rfl, rfl⟩
  · exact byCode?_hexadecimal fits rest
  · exact byCode?_hexadecimal fits rest
  · exact byCode?_hexadecimal fits rest

/-- Characters that are already done are stepped over. -/
theorem unescapeFrom?_length_append
    (done rest : Text) :
    Literal.unescapeFrom? done.length (done ++ rest) = Literal.unescapeFrom? 0 rest := by
  induction done with
  | nil => rfl
  | cons c later inductionHypothesis => exact inductionHypothesis

/-- An escape is replaced by the character that it denotes. -/
theorem unescapeFrom?_escape_append
    {c : Char}
    (escaped rest : Text)
    (denotes : Literal.escape? (escaped ++ rest) = some ⟨[c], escaped.length⟩) :
    Literal.unescapeFrom? 0 ('\\' :: (escaped ++ rest)) =
      (Literal.unescapeFrom? 0 rest).map (c :: ·) := by
  rw [Literal.unescapeFrom?, if_pos rfl, denotes]
  simp only [unescapeFrom?_length_append, List.singleton_append]

/-- What stands for a character denotes it. -/
theorem StandsFor.unescapeFrom?_append
    {mark c : Char}
    {written : Text}
    (stands : StandsFor mark c written)
    (rest : Text) :
    Literal.unescapeFrom? 0 (written ++ rest) =
      (Literal.unescapeFrom? 0 rest).map (c :: ·) := by
  cases stands with
  | itself _ notSlash _ =>
      rw [List.singleton_append, Literal.unescapeFrom?, if_neg notSlash]
  | @letter letter names =>
      exact unescapeFrom?_escape_append [letter] rest (escape?_letter names rest)
  | @code letter width announces fits =>
      have length : (letter :: hexadecimal width c.toNat).length = width + 1 := by
        rw [List.length_cons, length_hexadecimal fits]
      apply unescapeFrom?_escape_append (letter :: hexadecimal width c.toNat) rest
      rw [length]
      exact escape?_code announces fits rest

/-- Undoing the escapes of a quoted text gives the text back. -/
theorem unescape?_flatMap_quoteChar
    {mark : Char}
    (isMark : IsMark mark)
    (text : Text) :
    Literal.unescape? (text.flatMap (quoteChar mark)) = some text := by
  unfold Literal.unescape?
  induction text with
  | nil => rfl
  | cons c rest inductionHypothesis =>
      rw [List.flatMap_cons, (standsFor_quoteChar isMark c).unescapeFrom?_append,
        inductionHypothesis, Option.map_some]

/-- Read a quoted text in front of anything: the text, and what stands behind it. -/
def readQuoted? : Text → Option (Text × Text)
  | [] => none
  | mark :: rest =>
      if IsMark mark then do
        let (body, behind) ← splitAtMark? mark false rest
        let text ← Literal.unescape? body
        some (text, behind)
      else none

/-- A quoted text is read back as the text, and the reader stops right behind it. -/
theorem readQuoted?_quoted_append
    (text behind : Text) :
    readQuoted? (quoted text ++ behind) = some (text, behind) := by
  have isMark := isMark_quoteMark text
  have split := splitAtMark?_flatMap_quoteChar isMark text behind
  have shape :
      quoted text ++ behind =
        quoteMark text ::
          (text.flatMap (quoteChar (quoteMark text)) ++ quoteMark text :: behind) := by
    simp [quoted]
  rw [shape, readQuoted?, if_pos isMark, split]
  simp only [Option.bind_eq_bind, Option.bind_some, unescape?_flatMap_quoteChar isMark text]

end Reading

end ModSkeleton.Text
