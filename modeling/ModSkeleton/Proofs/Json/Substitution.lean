import ModSkeleton.Proofs.Json.Layout
import ModSkeleton.Proofs.Text.Replacing

namespace ModSkeleton.Json

/-!
# Substitution in documents

A token that starts with a dollar sign and has no character that strings escape can
only occur inside of the strings of a document. So replacing it in the text of a
document by a plain text gives the document in which it is replaced in every text
(`read?_replaceAll_layout`).
-/

/-- A text that occurs in documents only where it occurs in their texts. -/
structure IsToken
    (token : Text) :
    Prop where
  starts : ∃ later, token = '$' :: later
  plain : IsPlain token

namespace IsToken

variable
    {token : Text}
    (isToken : IsToken token)

include isToken

theorem ne_nil :
    token ≠ [] := by
  obtain ⟨later, rfl⟩ := isToken.starts
  exact List.cons_ne_nil _ _

theorem not_mem_quote :
    '"' ∉ token :=
  fun member => (isToken.plain '"' member).1 rfl

/-- Without dollar signs, nothing is replaced. -/
theorem replaceAll_append
    (replacement : Text)
    {front : Text}
    (absent : '$' ∉ front)
    (rest : Text) :
    Text.replaceAll token replacement (front ++ rest) =
      front ++ Text.replaceAll token replacement rest := by
  obtain ⟨later, rfl⟩ := isToken.starts
  exact Text.replaceAll_append_of_not_mem replacement absent rest

theorem replaceAll_of_no_dollar
    (replacement : Text)
    {text : Text}
    (absent : '$' ∉ text) :
    Text.replaceAll token replacement text = text := by
  obtain ⟨later, rfl⟩ := isToken.starts
  exact Text.replaceAll_of_not_mem List.mem_cons_self replacement absent

end IsToken

theorem flatMap_escapeChar_of_isPlain
    {text : Text}
    (plain : IsPlain text) :
    text.flatMap escapeChar = text := by
  have written := writeText_of_isPlain plain
  simpa [writeText] using written

/-- A character that is not plain is escaped by a backslash, and without dollar signs. -/
theorem escapeChar_of_not_plain
    {c : Char}
    (notPlain : ¬(c ≠ '"' ∧ c ≠ '\\' ∧ 0x20 ≤ c.toNat)) :
    (escapeChar c).head? = some '\\' ∧ '$' ∉ escapeChar c := by
  have controls :
      ∀ code : Fin 32,
        (escapeChar (Char.ofNat code.val)).head? = some '\\' ∧
          '$' ∉ escapeChar (Char.ofNat code.val) := by
    decide
  by_cases quote : c = '"'
  · subst quote
    decide
  by_cases slash : c = '\\'
  · subst slash
    decide
  have control : c.toNat < 0x20 :=
    Nat.lt_of_not_le fun printable => notPlain ⟨quote, slash, printable⟩
  have escaped := controls ⟨c.toNat, control⟩
  rwa [Char.ofNat_toNat] at escaped

/-- A plain text at the start of a string is at the start of its value. -/
theorem prefix_of_escaped
    {token : Text}
    (plain : IsPlain token)
    {text rest : Text}
    (found : token <+: text.flatMap escapeChar ++ '"' :: rest) :
    token <+: text := by
  induction text generalizing token with
  | nil =>
      cases token with
      | nil => exact List.nil_prefix
      | cons c later =>
          obtain ⟨isQuote, _⟩ := List.cons_prefix_cons.mp found
          exact ((plain c List.mem_cons_self).1 isQuote).elim
  | cons d text inductionHypothesis =>
      cases token with
      | nil => exact List.nil_prefix
      | cons c later =>
          rw [List.flatMap_cons, List.append_assoc] at found
          by_cases plainHere : d ≠ '"' ∧ d ≠ '\\' ∧ 0x20 ≤ d.toNat
          · rw [escapeChar_of_plain plainHere] at found
            obtain ⟨rfl, foundLater⟩ := List.cons_prefix_cons.mp found
            have laterPlain : IsPlain later :=
              fun e member => plain e (List.mem_cons_of_mem c member)
            exact List.cons_prefix_cons.mpr ⟨rfl, inductionHypothesis laterPlain foundLater⟩
          · obtain ⟨escape, shape⟩ :=
              List.head?_eq_some_iff.mp (escapeChar_of_not_plain plainHere).1
            rw [shape] at found
            obtain ⟨isSlash, _⟩ := List.cons_prefix_cons.mp found
            exact ((plain c List.mem_cons_self).2.1 isSlash).elim

section

variable
    {token : Text}
    (isToken : IsToken token)
    {replacement : Text}
    (plain : IsPlain replacement)

include isToken plain

/-- Replacing a token in a string replaces it in its value. -/
theorem replaceAll_escaped
    (text rest : Text) :
    Text.replaceAll token replacement (text.flatMap escapeChar ++ '"' :: rest) =
      (Text.replaceAll token replacement text).flatMap escapeChar ++
        '"' :: Text.replaceAll token replacement rest := by
  induction text using Text.occurrence_induction isToken.ne_nil with
  | nil =>
      exact Text.replaceAll_append_cons isToken.ne_nil replacement isToken.not_mem_quote [] rest
  | occurrence after inductionHypothesis =>
      rw [List.flatMap_append, flatMap_escapeChar_of_isPlain isToken.plain, List.append_assoc,
        Text.replaceAll_target_append isToken.ne_nil, inductionHypothesis,
        Text.replaceAll_target_append isToken.ne_nil, List.flatMap_append,
        flatMap_escapeChar_of_isPlain plain, List.append_assoc]
  | between c after absent inductionHypothesis =>
      rw [Text.replaceAll_of_not_at_start replacement absent, List.flatMap_cons,
        List.flatMap_cons, List.append_assoc, List.append_assoc, ← inductionHypothesis]
      by_cases plainHere : c ≠ '"' ∧ c ≠ '\\' ∧ 0x20 ≤ c.toNat
      · have stillAbsent : ¬token <+: c :: (after.flatMap escapeChar ++ '"' :: rest) := by
          intro found
          have inString : token <+: (c :: after).flatMap escapeChar ++ '"' :: rest := by
            rw [List.flatMap_cons, escapeChar_of_plain plainHere, List.append_assoc]
            exact found
          exact absent (prefix_of_escaped isToken.plain inString)
        rw [escapeChar_of_plain plainHere]
        exact Text.replaceAll_of_not_at_start replacement stillAbsent
      · exact
          isToken.replaceAll_append replacement (escapeChar_of_not_plain plainHere).2 _

theorem replaceAll_writeText
    (text rest : Text) :
    Text.replaceAll token replacement (writeText text ++ rest) =
      writeText (Text.replaceAll token replacement text) ++
        Text.replaceAll token replacement rest := by
  have opening : '$' ∉ ['"'] := by
    decide
  have shape :
      writeText text ++ rest = ['"'] ++ (text.flatMap escapeChar ++ '"' :: rest) := by
    simp [writeText]
  rw [shape, isToken.replaceAll_append replacement opening,
    replaceAll_escaped isToken plain]
  simp [writeText]

end

namespace Value

mutual

/-- A value with a target replaced in all of its texts and keys. -/
def replaceTexts
    (target replacement : Text) :
    Value → Value
  | .text value => .text (Text.replaceAll target replacement value)
  | .list items => .list (replaceItems target replacement items)
  | .object members => .object (replaceMembers target replacement members)
  | value => value

/-- Items with a target replaced in all of their texts and keys. -/
def replaceItems
    (target replacement : Text) :
    List Value → List Value
  | [] => []
  | item :: items =>
      replaceTexts target replacement item :: replaceItems target replacement items

/-- Members with a target replaced in their keys and all of their texts. -/
def replaceMembers
    (target replacement : Text) :
    List (Text × Value) → List (Text × Value)
  | [] => []
  | (key, value) :: members =>
      (Text.replaceAll target replacement key, replaceTexts target replacement value) ::
        replaceMembers target replacement members

end

/-- Replacing keeps the members of an object whose keys have no dollar signs. -/
theorem member?_replaceTexts
    {target : Text}
    (isToken : IsToken target)
    (replacement : Text)
    {members : List (Text × Value)}
    (free : ∀ key ∈ members.map Prod.fst, '$' ∉ key)
    (key : String) :
    (replaceTexts target replacement (.object members)).member? key =
      (member? key (.object members)).map (replaceTexts target replacement) := by
  rw [replaceTexts, member?, member?]
  induction members with
  | nil => rfl
  | cons member members inductionHypothesis =>
      obtain ⟨first, value⟩ := member
      have keyFree : '$' ∉ first := free first List.mem_cons_self
      have restFree : ∀ key ∈ members.map Prod.fst, '$' ∉ key :=
        fun other inRest => free other (List.mem_cons_of_mem _ inRest)
      rw [replaceMembers, isToken.replaceAll_of_no_dollar replacement keyFree,
        List.lookup_cons, List.lookup_cons]
      split
      case h_1 => rfl
      case h_2 => exact inductionHypothesis restFree

end Value

/-- White space has no dollar signs. -/
theorem IsGap.no_dollar
    {gap : Text}
    (isGap : IsGap gap) :
    '$' ∉ gap := by
  intro member
  exact absurd (isGap '$' member) (by decide)

theorem no_dollar_decimal
    (n : Int) :
    '$' ∉ Text.decimal n := by
  have digits : ∀ n, '$' ∉ Nat.toDigits 10 n := by
    intro n member
    exact absurd (isDigit_of_mem_toDigits member) (by decide)
  cases n with
  | ofNat n => exact digits n
  | negSucc n => simpa [Text.decimal] using digits (n + 1)

mutual

theorem isIntegral_replaceTexts
    (target replacement : Text)
    (value : Value) :
    (value.replaceTexts target replacement).isIntegral = value.isIntegral := by
  match value with
  | .null => rfl
  | .bool _ => rfl
  | .int _ => rfl
  | .number _ => rfl
  | .text _ => rfl
  | .list items => exact areIntegral_replaceItems target replacement items
  | .object members => exact membersIntegral_replaceMembers target replacement members

theorem areIntegral_replaceItems
    (target replacement : Text)
    (items : List Value) :
    Value.areIntegral (Value.replaceItems target replacement items) =
      Value.areIntegral items := by
  match items with
  | [] => rfl
  | item :: items =>
      have first := isIntegral_replaceTexts target replacement item
      have rest := areIntegral_replaceItems target replacement items
      simp only [Value.replaceItems, Value.areIntegral, first, rest]

theorem membersIntegral_replaceMembers
    (target replacement : Text)
    (members : List (Text × Value)) :
    Value.membersIntegral (Value.replaceMembers target replacement members) =
      Value.membersIntegral members := by
  match members with
  | [] => rfl
  | (key, value) :: members =>
      have first := isIntegral_replaceTexts target replacement value
      have rest := membersIntegral_replaceMembers target replacement members
      simp only [Value.replaceMembers, Value.membersIntegral, first, rest]

end

section

variable
    {token replacement : Text}
    {spacing : Spacing}

mutual

/-- Replacing a token in a layout of a value lays out the value with the token replaced. -/
theorem replaceAll_layout
    (isToken : IsToken token)
    (plain : IsPlain replacement)
    (depth : Nat)
    (value : Value)
    (integral : value.isIntegral = true)
    (rest : Text) :
    Text.replaceAll token replacement (value.layout spacing depth ++ rest) =
      (value.replaceTexts token replacement).layout spacing depth ++
        Text.replaceAll token replacement rest := by
  match value with
  | .null =>
      have noDollar : '$' ∉ "null".toList := by
        decide
      exact isToken.replaceAll_append replacement noDollar rest
  | .bool value =>
      have noDollar : '$' ∉ Value.write (.bool value) := by
        cases value <;> decide
      exact isToken.replaceAll_append replacement noDollar rest
  | .int value => exact isToken.replaceAll_append replacement (no_dollar_decimal value) rest
  | .number _ => cases integral
  | .text value => exact replaceAll_writeText isToken plain value rest
  | .list [] =>
      have noDollar : '$' ∉ ['[', ']'] := by
        decide
      exact isToken.replaceAll_append replacement noDollar rest
  | .list (item :: items) =>
      have opening : '$' ∉ '[' :: spacing.opening depth := by
        simpa using (spacing.isGap_opening depth).no_dollar
      have inner :=
        replaceAll_layoutItems isToken plain depth (item :: items) (List.cons_ne_nil _ _)
          integral rest
      have shape :
          (Value.list (item :: items)).layout spacing depth ++ rest =
            '[' :: spacing.opening depth ++
              (Value.layoutItems spacing depth (item :: items) ++ rest) := by
        simp [Value.layout]
      rw [shape, isToken.replaceAll_append replacement opening, inner]
      simp [Value.replaceTexts, Value.replaceItems, Value.layout]
  | .object [] =>
      have noDollar : '$' ∉ ['\x7b', '\x7d'] := by
        decide
      exact isToken.replaceAll_append replacement noDollar rest
  | .object (member :: members) =>
      have opening : '$' ∉ '\x7b' :: spacing.opening depth := by
        simpa using (spacing.isGap_opening depth).no_dollar
      have inner :=
        replaceAll_layoutMembers isToken plain depth (member :: members)
          (List.cons_ne_nil _ _) integral rest
      have shape :
          (Value.object (member :: members)).layout spacing depth ++ rest =
            '\x7b' :: spacing.opening depth ++
              (Value.layoutMembers spacing depth (member :: members) ++ rest) := by
        simp [Value.layout]
      rw [shape, isToken.replaceAll_append replacement opening, inner]
      simp [Value.replaceTexts, Value.replaceMembers, Value.layout]

theorem replaceAll_layoutItems
    (isToken : IsToken token)
    (plain : IsPlain replacement)
    (depth : Nat)
    (items : List Value)
    (notEmpty : items ≠ [])
    (integral : Value.areIntegral items = true)
    (rest : Text) :
    Text.replaceAll token replacement (Value.layoutItems spacing depth items ++ rest) =
      Value.layoutItems spacing depth (Value.replaceItems token replacement items) ++
        Text.replaceAll token replacement rest := by
  match items with
  | [] => exact (notEmpty rfl).elim
  | [item] =>
      have itemIntegral := (Bool.and_eq_true_iff.mp integral).1
      have closing : '$' ∉ spacing.closing depth ++ [']'] := by
        simpa using (spacing.isGap_closing depth).no_dollar
      rw [Value.layoutItems, List.append_assoc,
        replaceAll_layout isToken plain (depth + 1) item itemIntegral,
        isToken.replaceAll_append replacement closing]
      simp [Value.replaceItems, Value.layoutItems]
  | item :: next :: items =>
      obtain ⟨itemIntegral, restIntegral⟩ := Bool.and_eq_true_iff.mp integral
      have between : '$' ∉ ',' :: spacing.between depth := by
        simpa using (spacing.isGap_between depth).no_dollar
      have inner :=
        replaceAll_layoutItems isToken plain depth (next :: items) (List.cons_ne_nil _ _)
          restIntegral rest
      have shape :
          Value.layoutItems spacing depth (item :: next :: items) ++ rest =
            item.layout spacing (depth + 1) ++
              (',' :: spacing.between depth ++
                (Value.layoutItems spacing depth (next :: items) ++ rest)) := by
        simp [Value.layoutItems]
      rw [shape, replaceAll_layout isToken plain (depth + 1) item itemIntegral,
        isToken.replaceAll_append replacement between, inner]
      simp [Value.replaceItems, Value.layoutItems]

theorem replaceAll_layoutMembers
    (isToken : IsToken token)
    (plain : IsPlain replacement)
    (depth : Nat)
    (members : List (Text × Value))
    (notEmpty : members ≠ [])
    (integral : Value.membersIntegral members = true)
    (rest : Text) :
    Text.replaceAll token replacement (Value.layoutMembers spacing depth members ++ rest) =
      Value.layoutMembers spacing depth (Value.replaceMembers token replacement members) ++
        Text.replaceAll token replacement rest := by
  have colon : '$' ∉ [':', ' '] := by
    decide
  match members with
  | [] => exact (notEmpty rfl).elim
  | [(key, value)] =>
      have valueIntegral := (Bool.and_eq_true_iff.mp integral).1
      have closing : '$' ∉ spacing.closing depth ++ ['\x7d'] := by
        simpa using (spacing.isGap_closing depth).no_dollar
      have shape :
          Value.layoutMembers spacing depth [(key, value)] ++ rest =
            writeText key ++
              ([':', ' '] ++
                (value.layout spacing (depth + 1) ++
                  (spacing.closing depth ++ ['\x7d'] ++ rest))) := by
        simp [Value.layoutMembers]
      rw [shape, replaceAll_writeText isToken plain, isToken.replaceAll_append replacement colon,
        replaceAll_layout isToken plain (depth + 1) value valueIntegral,
        isToken.replaceAll_append replacement closing]
      simp [Value.replaceMembers, Value.layoutMembers]
  | (key, value) :: next :: members =>
      obtain ⟨valueIntegral, restIntegral⟩ := Bool.and_eq_true_iff.mp integral
      have between : '$' ∉ ',' :: spacing.between depth := by
        simpa using (spacing.isGap_between depth).no_dollar
      have inner :=
        replaceAll_layoutMembers isToken plain depth (next :: members)
          (List.cons_ne_nil _ _) restIntegral rest
      have shape :
          Value.layoutMembers spacing depth ((key, value) :: next :: members) ++ rest =
            writeText key ++
              ([':', ' '] ++
                (value.layout spacing (depth + 1) ++
                  (',' :: spacing.between depth ++
                    (Value.layoutMembers spacing depth (next :: members) ++ rest)))) := by
        simp [Value.layoutMembers]
      rw [shape, replaceAll_writeText isToken plain, isToken.replaceAll_append replacement colon,
        replaceAll_layout isToken plain (depth + 1) value valueIntegral,
        isToken.replaceAll_append replacement between, inner]
      simp [Value.replaceMembers, Value.layoutMembers]

end

/-- A document in which a token is replaced is read as the value with the token replaced. -/
theorem read?_replaceAll_layout
    (isToken : IsToken token)
    (plain : IsPlain replacement)
    (value : Value)
    (integral : value.isIntegral = true)
    {gap : Text}
    (isGap : IsGap gap) :
    read? (Text.replaceAll token replacement (value.layout spacing 0 ++ gap)) =
      some (value.replaceTexts token replacement) := by
  rw [replaceAll_layout isToken plain 0 value integral,
    isToken.replaceAll_of_no_dollar replacement isGap.no_dollar]
  exact read?_layout _ (by rwa [isIntegral_replaceTexts]) isGap

end

end ModSkeleton.Json
