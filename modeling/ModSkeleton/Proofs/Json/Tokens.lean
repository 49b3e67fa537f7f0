import ModSkeleton.Json.Reader

namespace ModSkeleton.Json

/-!
# Strings and integers read back

Reading a written string gives back the text, and reading the decimal digits of an
integer gives back the integer, whatever follows them. A text that was not escaped
reads back as itself only if nothing in it had to be (`isPlain_of_readText`).
-/

/-- Units that were read with one more in front. -/
def pushUnit
    (unit : Nat)
    (found : Option (List Nat × Text)) :
    Option (List Nat × Text) :=
  found.map fun (units, after) => (unit :: units, after)

theorem readUnits_letter
    {letter named : Char}
    (escapes : escapeLetter? letter = some named)
    (notCode : letter ≠ 'u')
    (rest : Text) :
    readUnits ('\\' :: letter :: rest) = pushUnit named.toNat (readUnits rest) := by
  rw [readUnits.eq_def]
  split
  case h_1 shape => cases shape
  case h_2 shape => cases shape
  case h_3 shape =>
    cases shape
    exact (notCode rfl).elim
  case h_4 shape =>
    cases shape
    simp only [escapes, pushUnit]
    cases readUnits rest <;> rfl
  case h_5 notEscape shape =>
    cases shape
    exact (notEscape letter rest rfl rfl).elim

theorem readUnits_code
    {c : Char}
    (control : c.toNat < 0x20)
    (rest : Text) :
    readUnits ('\\' :: 'u' :: (Text.hexadecimal 4 c.toNat ++ rest)) =
      pushUnit c.toNat (readUnits rest) := by
  have digits :
      ∀ n : Fin 32,
        Text.hexadecimal 4 n.val =
            ['0', '0', Nat.digitChar (n.val / 16), Nat.digitChar (n.val % 16)] ∧
          hexDigit? (Nat.digitChar (n.val / 16)) = some (n.val / 16) ∧
            hexDigit? (Nat.digitChar (n.val % 16)) = some (n.val % 16) := by
    decide
  obtain ⟨written, high, low⟩ := digits ⟨c.toNat, control⟩
  have zero : hexDigit? '0' = some 0 := by decide
  simp only at written high low
  rw [written]
  simp only [List.cons_append, List.nil_append, readUnits, zero, high, low, pushUnit,
    Option.bind_eq_bind, Option.bind_some]
  have value : 0 * 0x1000 + 0 * 0x100 + c.toNat / 16 * 0x10 + c.toNat % 16 = c.toNat := by
    omega
  rw [value]
  cases readUnits rest <;> rfl

theorem readUnits_plain
    {c : Char}
    (notQuote : c ≠ '"')
    (notSlash : c ≠ '\\')
    (printable : ¬c.toNat < 0x20)
    (rest : Text) :
    readUnits (c :: rest) = pushUnit c.toNat (readUnits rest) := by
  rw [readUnits.eq_def]
  split
  case h_1 shape => cases shape
  case h_2 shape =>
    cases shape
    exact (notQuote rfl).elim
  case h_3 shape =>
    cases shape
    exact (notSlash rfl).elim
  case h_4 shape =>
    cases shape
    exact (notSlash rfl).elim
  case h_5 shape =>
    cases shape
    simp only [notSlash, printable, pushUnit, decide_false, Bool.or_self, Bool.false_eq_true,
      if_false]
    cases readUnits rest <;> rfl

/-- A written character is read as its own code. -/
theorem readUnits_escapeChar
    (c : Char)
    (rest : Text) :
    readUnits (escapeChar c ++ rest) = pushUnit c.toNat (readUnits rest) := by
  unfold escapeChar
  by_cases quote : c = '"'
  · subst quote
    exact readUnits_letter rfl (by decide) rest
  by_cases slash : c = '\\'
  · subst slash
    exact readUnits_letter rfl (by decide) rest
  by_cases newline : c = '\n'
  · subst newline
    exact readUnits_letter rfl (by decide) rest
  by_cases carriage : c = '\r'
  · subst carriage
    exact readUnits_letter rfl (by decide) rest
  by_cases tab : c = '\t'
  · subst tab
    exact readUnits_letter rfl (by decide) rest
  by_cases backspace : c = '\x08'
  · subst backspace
    exact readUnits_letter rfl (by decide) rest
  by_cases feed : c = '\x0c'
  · subst feed
    exact readUnits_letter rfl (by decide) rest
  rw [if_neg quote, if_neg slash, if_neg newline, if_neg carriage, if_neg tab,
    if_neg backspace, if_neg feed]
  by_cases control : c.toNat < 0x20
  · rw [if_pos control]
    exact readUnits_code control rest
  · rw [if_neg control]
    exact readUnits_plain quote slash control rest

theorem readUnits_escaped
    (text rest : Text) :
    readUnits (text.flatMap escapeChar ++ '"' :: rest) = some (text.map Char.toNat, rest) := by
  induction text with
  | nil => rfl
  | cons c text inductionHypothesis =>
      rw [List.flatMap_cons, List.append_assoc, readUnits_escapeChar, inductionHypothesis]
      rfl

/-- The codes of characters are joined to the characters: none of them is a surrogate. -/
theorem joinUnits_map_toNat
    (text : Text) :
    joinUnits (text.map Char.toNat) = some text := by
  induction text with
  | nil => rfl
  | cons c text inductionHypothesis =>
      have valid : c.toNat < 0xD800 ∨ 0xDFFF < c.toNat ∧ c.toNat < 0x110000 := c.valid
      have notLow : (decide (0xDC00 ≤ c.toNat) && decide (c.toNat < 0xE000)) = false := by
        simp only [Bool.and_eq_false_iff, decide_eq_false_iff_not]
        omega
      have notHigh : (decide (0xD800 ≤ c.toNat) && decide (c.toNat < 0xDC00)) = false := by
        simp only [Bool.and_eq_false_iff, decide_eq_false_iff_not]
        omega
      rw [List.map_cons, joinUnits.eq_def]
      simp [notLow, notHigh, inductionHypothesis]

/-- A written string is read back as its text. -/
theorem readText_escaped
    (text rest : Text) :
    readText (text.flatMap escapeChar ++ '"' :: rest) = some (text, rest) := by
  simp [readText, readUnits_escaped, joinUnits_map_toNat]

/-- A text that stands for itself between the quotes of a string. -/
def IsPlain
    (text : Text) :
    Prop :=
  ∀ c ∈ text, c ≠ '"' ∧ c ≠ '\\' ∧ 0x20 ≤ c.toNat

instance
    (text : Text) :
    Decidable (IsPlain text) :=
  List.decidableBAll (fun c => c ≠ '"' ∧ c ≠ '\\' ∧ 0x20 ≤ c.toNat) text

theorem IsPlain.append
    {first second : Text}
    (firstPlain : IsPlain first)
    (secondPlain : IsPlain second) :
    IsPlain (first ++ second) := by
  intro c member
  rcases List.mem_append.mp member with inFirst | inSecond
  · exact firstPlain c inFirst
  · exact secondPlain c inSecond

theorem escapeChar_of_plain
    {c : Char}
    (plain : c ≠ '"' ∧ c ≠ '\\' ∧ 0x20 ≤ c.toNat) :
    escapeChar c = [c] := by
  obtain ⟨notQuote, notSlash, printable⟩ := plain
  have notOther : ∀ other : Char, other.toNat < 0x20 → c ≠ other := by
    rintro other control rfl
    omega
  simp [escapeChar, notQuote, notSlash, notOther '\n' (by decide), notOther '\r' (by decide),
    notOther '\t' (by decide), notOther '\x08' (by decide), notOther '\x0c' (by decide),
    Nat.not_lt.mpr printable]

/-- A plain text is written between quotes as it is. -/
theorem writeText_of_isPlain
    {text : Text}
    (plain : IsPlain text) :
    writeText text = '"' :: (text ++ ['"']) := by
  have unchanged : text.flatMap escapeChar = text := by
    induction text with
    | nil => rfl
    | cons c text inductionHypothesis =>
        rw [List.flatMap_cons, escapeChar_of_plain (plain c List.mem_cons_self),
          inductionHypothesis fun other member => plain other (List.mem_cons_of_mem _ member)]
        rfl
  rw [writeText, unchanged]

/--
What a text between quotes says of the units that are read from it: each of them takes a
character or more, and exactly one only if nothing is escaped.
-/
structure Spells
    (text : Text)
    (units : List Nat) :
    Prop where
  onOneLine : '\n' ∉ text
  length_le : units.length ≤ text.length
  isPlain : units.length = text.length → IsPlain text

namespace Spells

theorem nil :
    Spells [] [] :=
  ⟨List.not_mem_nil, Nat.le_refl _, fun _ => by decide⟩

theorem escaped
    {front text : Text}
    {units : List Nat}
    (spells : Spells text units)
    (onOneLine : '\n' ∉ front)
    (long : 1 < front.length)
    (unit : Nat) :
    Spells (front ++ text) (unit :: units) := by
  have shorter := spells.length_le
  have longer : (unit :: units).length < (front ++ text).length := by
    rw [List.length_cons, List.length_append]
    omega
  refine ⟨?_, Nat.le_of_lt longer, fun same => absurd same (Nat.ne_of_lt longer)⟩
  rw [List.mem_append]
  exact not_or.mpr ⟨onOneLine, spells.onOneLine⟩

theorem plain
    {c : Char}
    {text : Text}
    {units : List Nat}
    (spells : Spells text units)
    (isPlain : c ≠ '"' ∧ c ≠ '\\' ∧ 0x20 ≤ c.toNat)
    (unit : Nat) :
    Spells (c :: text) (unit :: units) := by
  refine ⟨?_, Nat.succ_le_succ spells.length_le, ?_⟩
  · intro member
    rcases List.mem_cons.mp member with rfl | later
    · exact absurd isPlain.2.2 (by decide)
    · exact spells.onOneLine later
  · intro same
    exact List.forall_mem_cons.mpr ⟨isPlain, spells.isPlain (Nat.succ.inj same)⟩

end Spells

/-- The units of a string stand in front of its closing quote. -/
theorem exists_spells_of_readUnits
    {text after : Text}
    {units : List Nat}
    (read : readUnits text = some (units, after)) :
    ∃ front, text = front ++ '"' :: after ∧ Spells front units := by
  have noHexNewline : hexDigit? '\n' = none := by
    decide
  have noNewlineEscape : escapeLetter? '\n' = none := by
    decide
  fun_induction readUnits text generalizing units after with
  | case1 => cases read
  | case2 rest =>
      cases read
      exact ⟨[], rfl, .nil⟩
  | case3 a b c d rest inductionHypothesis =>
      simp only [Option.bind_eq_bind, Option.bind_eq_some_iff] at read
      obtain ⟨_, first, _, second, _, third, _, fourth, ⟨_, _⟩, later, found⟩ := read
      cases found
      obtain ⟨front, rfl, spells⟩ := inductionHypothesis later
      have onOneLine : '\n' ∉ ['\\', 'u', a, b, c, d] := by
        have notNewline : ∀ {digit value}, hexDigit? digit = some value → '\n' ≠ digit := by
          rintro _ _ isDigit rfl
          rw [noHexNewline] at isDigit
          cases isDigit
        simp [notNewline first, notNewline second, notNewline third, notNewline fourth]
      exact ⟨_, rfl, spells.escaped onOneLine (by simp) _⟩
  | case4 letter rest notCode inductionHypothesis =>
      simp only [Option.bind_eq_bind, Option.bind_eq_some_iff] at read
      obtain ⟨_, escape, ⟨_, _⟩, later, found⟩ := read
      cases found
      obtain ⟨front, rfl, spells⟩ := inductionHypothesis later
      have onOneLine : '\n' ∉ ['\\', letter] := by
        have notNewline : '\n' ≠ letter := by
          rintro rfl
          rw [noNewlineEscape] at escape
          cases escape
        simp [notNewline]
      exact ⟨_, rfl, spells.escaped onOneLine (by simp) _⟩
  | case5 => cases read
  | case6 c rest notQuote _ _ isPlain inductionHypothesis =>
      simp only [Option.bind_eq_bind, Option.bind_eq_some_iff] at read
      obtain ⟨⟨_, _⟩, later, found⟩ := read
      cases found
      obtain ⟨front, rfl, spells⟩ := inductionHypothesis later
      simp only [Bool.or_eq_true, decide_eq_true_eq, not_or, Nat.not_lt] at isPlain
      exact ⟨_, rfl, spells.plain ⟨notQuote, isPlain⟩ _⟩

/-- No character is read from less than one unit. -/
theorem length_le_of_joinUnits
    {units : List Nat}
    {text : Text}
    (joined : joinUnits units = some text) :
    text.length ≤ units.length := by
  fun_induction joinUnits units generalizing text with
  | case1 =>
      cases joined
      exact Nat.le_refl _
  | case2 => cases joined
  | case3 unit notLow isHigh low later isLow inductionHypothesis =>
      simp only [Option.bind_eq_bind, Option.bind_eq_some_iff] at joined
      obtain ⟨rest, fromLater, found⟩ := joined
      cases found
      have shorter := inductionHypothesis fromLater
      simp only [List.length_cons]
      omega
  | case4 => cases joined
  | case5 => cases joined
  | case6 unit units notLow notHigh inductionHypothesis =>
      simp only [Option.bind_eq_bind, Option.bind_eq_some_iff] at joined
      obtain ⟨rest, fromLater, found⟩ := joined
      cases found
      exact Nat.succ_le_succ (inductionHypothesis fromLater)

/--
A text that stands between quotes as it is, at the end of a line, is read as itself only if
it is plain.
-/
theorem isPlain_of_readText
    {text rest after : Text}
    (read : readText (text ++ '"' :: ',' :: '\n' :: rest) = some (text, after)) :
    IsPlain text := by
  simp only [readText, Option.bind_eq_bind, Option.bind_eq_some_iff] at read
  obtain ⟨⟨units, _⟩, readUnits, _, joined, found⟩ := read
  cases found
  obtain ⟨front, cut, spells⟩ := exists_spells_of_readUnits readUnits
  have shorter := length_le_of_joinUnits joined
  have long : text.length ≤ front.length := Nat.le_trans shorter spells.length_le
  -- The string cannot end earlier, and if it went on it would meet the end of the line.
  obtain ⟨extra, rfl⟩ : text <+: front :=
    List.prefix_of_prefix_length_le ⟨_, rfl⟩ ⟨_, cut.symm⟩ long
  have onOneLine := spells.onOneLine
  rw [List.append_assoc, List.append_cancel_left_eq] at cut
  match extra with
  | [] =>
      rw [List.append_nil] at spells
      exact spells.isPlain (Nat.le_antisymm spells.length_le shorter)
  | [_] => simp at cut
  | [_, _] => simp at cut
  | _ :: _ :: newline :: _ =>
      obtain rfl : '\n' = newline := by
        simp only [List.cons_append, List.cons.injEq] at cut
        exact cut.2.2.1
      simp at onOneLine

/-- What may follow a number without being part of it. -/
def EndsNumber
    (rest : Text) :
    Prop :=
  ∀ c, rest.head? = some c → c.isDigit = false ∧ c ≠ '.' ∧ c ≠ 'e' ∧ c ≠ 'E'

theorem digitsValue_toDigits
    (n : Nat) :
    digitsValue (Nat.toDigits 10 n) = n := by
  have same : ∀ (digits : Text) (value : Nat),
      digits.foldl (fun value c => value * 10 + (c.toNat - '0'.toNat)) value =
        Nat.ofDigitChars 10 digits value := by
    intro digits
    induction digits with
    | nil => exact fun _ => rfl
    | cons c digits inductionHypothesis =>
        intro value
        rw [List.foldl_cons, inductionHypothesis, Nat.ofDigitChars_cons, Nat.mul_comm]
  rw [digitsValue, same, Nat.ofDigitChars_ten_toDigits]

theorem isDigit_of_mem_toDigits
    {n : Nat}
    {c : Char}
    (member : c ∈ Nat.toDigits 10 n) :
    c.isDigit = true :=
  Nat.isDigit_of_mem_toDigits (by decide) (by decide) member

theorem isPlain_decimal
    (n : Int) :
    IsPlain (Text.decimal n) := by
  have digits : ∀ n, IsPlain (Nat.toDigits 10 n) := by
    intro n c member
    have isDigit := isDigit_of_mem_toDigits member
    have printable : 0x20 ≤ c.toNat := by
      have atLeast : 48 ≤ c.toNat := (Char.isDigit_iff_toNat.mp isDigit).1
      omega
    refine ⟨?_, ?_, printable⟩
    · rintro rfl
      cases isDigit
    · rintro rfl
      cases isDigit
  cases n with
  | ofNat n => exact digits n
  | negSucc n =>
      have sign : IsPlain ['-'] := by
        decide
      exact sign.append (digits (n + 1))

/-- Digits have no leading zero unless they are a single zero. -/
theorem head?_toDigits
    {n : Nat}
    (long : 1 < (Nat.toDigits 10 n).length) :
    (Nat.toDigits 10 n).head? ≠ some '0' := by
  induction n using Nat.strongRecOn with
  | ind n inductionHypothesis =>
      by_cases small : n < 10
      · rw [Nat.toDigits_of_lt_base small] at long
        simp at long
      · have large : 10 ≤ n := Nat.le_of_not_lt small
        rw [Nat.toDigits_of_base_le (by decide) large]
        by_cases two : n / 10 < 10
        · have notZero : 0 < n / 10 := Nat.div_pos large (by decide)
          rw [Nat.toDigits_of_lt_base two]
          have digits : ∀ d : Fin 10, 0 < d.val → Nat.digitChar d.val ≠ '0' := by
            decide
          simpa using digits ⟨n / 10, two⟩ notZero
        · have further : 1 < (Nat.toDigits 10 (n / 10)).length := by
            have notShort : ¬(Nat.toDigits 10 (n / 10)).length ≤ 1 := by
              rw [Nat.length_toDigits_le_iff (by decide) (by decide)]
              exact two
            omega
          have head := inductionHypothesis (n / 10) (by omega) further
          cases shape : Nat.toDigits 10 (n / 10) with
          | nil => exact absurd shape Nat.toDigits_ne_nil
          | cons first later =>
              rw [shape] at head
              exact head

/-- Decimal digits are read back as their number, whatever follows them. -/
theorem readNumber_toDigits
    (negative : Bool)
    (n : Nat)
    {rest : Text}
    (ends : EndsNumber rest) :
    readNumber negative (Nat.toDigits 10 n ++ rest) =
      some (.int (if negative then -(n : Int) else n), rest) := by
  have allDigits : ∀ c ∈ Nat.toDigits 10 n, c.isDigit = true :=
    fun c member => isDigit_of_mem_toDigits member
  have noMore : rest.takeWhile Char.isDigit = [] ∧ rest.dropWhile Char.isDigit = rest := by
    cases rest with
    | nil => exact ⟨rfl, rfl⟩
    | cons c later =>
        have notDigit := (ends c rfl).1
        constructor
        · rw [List.takeWhile_cons_of_neg (by simp [notDigit])]
        · rw [List.dropWhile_cons_of_neg (by simp [notDigit])]
  have digits :
      readDigits? (Nat.toDigits 10 n ++ rest) = some (Nat.toDigits 10 n, rest) := by
    unfold readDigits?
    rw [List.takeWhile_append_of_pos allDigits, List.dropWhile_append_of_pos allDigits,
      noMore.1, noMore.2, List.append_nil]
    cases shape : Nat.toDigits 10 n with
    | nil => exact absurd shape Nat.toDigits_ne_nil
    | cons first later => rfl
  have noFraction : readFraction rest = some ([], rest) := by
    unfold readFraction
    split
    case h_1 later => exact ((ends '.' rfl).2.1 rfl).elim
    case h_2 => rfl
  have noExponent : readExponent rest = some ([], rest) := by
    unfold readExponent
    split
    case h_1 c later =>
      obtain ⟨_, _, notLower, notUpper⟩ := ends c rfl
      simp [notLower, notUpper]
    case h_2 => rfl
  simpa [readNumber, digits, noFraction, noExponent, digitsValue_toDigits] using
    fun long : 1 < (Nat.toDigits 10 n).length => head?_toDigits long

end ModSkeleton.Json
