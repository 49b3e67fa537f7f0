import ModSkeleton.Proofs.Json.Tokens

namespace ModSkeleton.Json

/-!
# Reading laid out documents

A document may be laid out with any white space between its tokens. `ReadsAs`
says that a text is read as a value wherever it stands, and there is one lemma for
every way of building a value. By induction over values, every layout of a value
is read back as the value (`read?_layout`), numbers with a fraction or an exponent
apart.
-/

/-- White space between tokens. -/
def IsGap
    (text : Text) :
    Prop :=
  ∀ c ∈ text, isSeparator c = true

instance
    (text : Text) :
    Decidable (IsGap text) :=
  List.decidableBAll (fun c => isSeparator c = true) text

theorem skipSeparators_gap
    {gap : Text}
    (isGap : IsGap gap)
    (text : Text) :
    skipSeparators (gap ++ text) = skipSeparators text := by
  rw [skipSeparators, List.dropWhile_append_of_pos isGap]
  rfl

theorem skipSeparators_cons
    {c : Char}
    (notGap : isSeparator c = false)
    (rest : Text) :
    skipSeparators (c :: rest) = c :: rest := by
  rw [skipSeparators, List.dropWhile_cons_of_neg (by simp [notGap])]

theorem readValue_gap
    {gap : Text}
    (isGap : IsGap gap)
    (fuel : Nat)
    (text : Text) :
    readValue fuel (gap ++ text) = readValue fuel text := by
  cases fuel with
  | zero => rfl
  | succ fuel => simp only [readValue, skipSeparators_gap isGap]

theorem readItems_gap
    {gap : Text}
    (isGap : IsGap gap)
    (fuel : Nat)
    (text : Text) :
    readItems fuel (gap ++ text) = readItems fuel text := by
  cases fuel with
  | zero => rfl
  | succ fuel => simp only [readItems, readValue_gap isGap]

theorem readMembers_gap
    {gap : Text}
    (isGap : IsGap gap)
    (fuel : Nat)
    (text : Text) :
    readMembers fuel (gap ++ text) = readMembers fuel text := by
  cases fuel with
  | zero => rfl
  | succ fuel => simp only [readMembers, skipSeparators_gap isGap]

theorem endsNumber_nil :
    EndsNumber [] := by
  intro c isFirst
  cases isFirst

theorem endsNumber_cons
    {c : Char}
    (ends : c.isDigit = false ∧ c ≠ '.' ∧ c ≠ 'e' ∧ c ≠ 'E')
    (rest : Text) :
    EndsNumber (c :: rest) := by
  intro first isFirst
  cases isFirst
  exact ends

theorem endsNumber_gap
    {gap : Text}
    (isGap : IsGap gap)
    {rest : Text}
    (ends : EndsNumber rest) :
    EndsNumber (gap ++ rest) := by
  have separators :
      ∀ c, isSeparator c = true → c.isDigit = false ∧ c ≠ '.' ∧ c ≠ 'e' ∧ c ≠ 'E' := by
    intro c isSeparator
    simp only [Json.isSeparator, Bool.or_eq_true, decide_eq_true_eq] at isSeparator
    rcases isSeparator with ((rfl | rfl) | rfl) | rfl <;> decide
  cases gap with
  | nil => exact ends
  | cons head gap => exact endsNumber_cons (separators head (isGap head List.mem_cons_self)) _

/-- A text whose first character belongs to a value or to the key of a member. -/
def StartsValue
    (text : Text) :
    Prop :=
  ∃ c later, text = c :: later ∧ isSeparator c = false ∧ c ≠ ']' ∧ c ≠ '\x7d'

theorem StartsValue.append
    {text : Text}
    (starts : StartsValue text)
    (rest : Text) :
    StartsValue (text ++ rest) := by
  obtain ⟨c, later, rfl, facts⟩ := starts
  exact ⟨c, later ++ rest, rfl, facts⟩

theorem StartsValue.length_pos
    {text : Text}
    (starts : StartsValue text) :
    0 < text.length := by
  obtain ⟨c, later, rfl, _⟩ := starts
  exact Nat.succ_pos _

theorem startsValue_writeText
    (value : Text) :
    StartsValue (writeText value) :=
  ⟨'"', _, rfl, by decide, by decide, by decide⟩

/--
Wherever a text stands, it is read as a value. Two units of fuel for every
character are enough, since every level of nesting takes two.
-/
structure ReadsAs
    (text : Text)
    (value : Value) :
    Prop where
  starts : StartsValue text
  reads :
    ∀ {rest : Text} {fuel : Nat},
      EndsNumber rest → 2 * text.length ≤ fuel + 1 →
      readValue (fuel + 1) (text ++ rest) = some (value, rest)

/-- Wherever a text stands in an array, it is read as its items up to the closing bracket. -/
structure ReadsAsItems
    (text : Text)
    (items : List Value) :
    Prop where
  starts : StartsValue text
  reads :
    ∀ {rest : Text} {fuel : Nat},
      2 * text.length ≤ fuel + 1 →
      readItems (fuel + 1) (text ++ rest) = some (items, rest)

/-- Wherever a text stands in an object, it is read as its members up to the closing brace. -/
structure ReadsAsMembers
    (text : Text)
    (members : List (Text × Value)) :
    Prop where
  starts : StartsValue text
  reads :
    ∀ {rest : Text} {fuel : Nat},
      2 * text.length ≤ fuel + 1 →
      readMembers (fuel + 1) (text ++ rest) = some (members, rest)

namespace ReadsAs

theorem null :
    ReadsAs "null".toList .null where
  starts := ⟨'n', "ull".toList, rfl, by decide, by decide, by decide⟩
  reads := by
    intro rest fuel _ _
    simp [readValue, skipSeparators, isSeparator, readWord, Char.isDigit]

theorem bool
    (value : Bool) :
    ReadsAs (Value.write (.bool value)) (.bool value) := by
  cases value with
  | true =>
      refine ⟨⟨'t', "rue".toList, rfl, by decide, by decide, by decide⟩, ?_⟩
      intro rest fuel _ _
      simp [Value.write, readValue, skipSeparators, isSeparator, readWord, Char.isDigit]
  | false =>
      refine ⟨⟨'f', "alse".toList, rfl, by decide, by decide, by decide⟩, ?_⟩
      intro rest fuel _ _
      simp [Value.write, readValue, skipSeparators, isSeparator, readWord, Char.isDigit]

theorem text
    (value : Text) :
    ReadsAs (writeText value) (.text value) where
  starts := startsValue_writeText value
  reads := by
    intro rest fuel _ _
    have read := readText_escaped value rest
    simp [readValue, writeText, skipSeparators_cons (show isSeparator '"' = false by decide),
      read]

theorem int
    (n : Int) :
    ReadsAs (Text.decimal n) (.int n) := by
  cases n with
  | ofNat n =>
      have read {rest : Text} (ends : EndsNumber rest) := readNumber_toDigits false n ends
      rw [Text.decimal]
      cases shape : Nat.toDigits 10 n with
      | nil => exact absurd shape Nat.toDigits_ne_nil
      | cons c later =>
          have isDigit : c.isDigit = true :=
            isDigit_of_mem_toDigits (n := n) (shape ▸ List.mem_cons_self)
          have notOther : ∀ other : Char, other.isDigit = false → c ≠ other := by
            rintro other notDigit rfl
            rw [isDigit] at notDigit
            cases notDigit
          have notGap : isSeparator c = false := by
            simp [isSeparator, notOther ' ' rfl, notOther '\n' rfl, notOther '\r' rfl,
              notOther '\t' rfl]
          refine ⟨⟨c, later, rfl, notGap, notOther _ rfl, notOther _ rfl⟩, ?_⟩
          intro rest fuel ends _
          rw [shape] at read
          simpa [readValue, skipSeparators_cons notGap, notOther '"' rfl, notOther '[' rfl,
            notOther '\x7b' rfl, notOther '-' rfl, isDigit] using read ends
  | negSucc n =>
      have notGap : isSeparator '-' = false := by decide
      refine ⟨⟨'-', _, rfl, notGap, by decide, by decide⟩, ?_⟩
      intro rest fuel ends _
      simpa [Text.decimal, readValue, skipSeparators_cons notGap, Int.negSucc_eq] using
        readNumber_toDigits true (n + 1) ends

theorem emptyList :
    ReadsAs ['[', ']'] (.list []) where
  starts := ⟨'[', [']'], rfl, by decide, by decide, by decide⟩
  reads := by
    intro rest fuel _ _
    simp [readValue, skipSeparators, isSeparator]

theorem emptyObject :
    ReadsAs ['\x7b', '\x7d'] (.object []) where
  starts := ⟨'\x7b', ['\x7d'], rfl, by decide, by decide, by decide⟩
  reads := by
    intro rest fuel _ _
    simp [readValue, skipSeparators, isSeparator]

theorem list
    {gap inner : Text}
    {items : List Value}
    (isGap : IsGap gap)
    (readsItems : ReadsAsItems inner items) :
    ReadsAs ('[' :: (gap ++ inner)) (.list items) := by
  refine ⟨⟨'[', _, rfl, by decide, by decide, by decide⟩, ?_⟩
  intro rest fuel _ enough
  obtain ⟨c, later, rfl, notGap, notClosing, _⟩ := readsItems.starts
  obtain ⟨less, rfl⟩ : ∃ less, fuel = less + 1 := by
    simp only [List.length_cons, List.length_append] at enough
    exact ⟨fuel - 1, by omega⟩
  have read : readItems (less + 1) (c :: (later ++ rest)) = some (items, rest) := by
    apply readsItems.reads
    simp only [List.length_cons, List.length_append] at enough ⊢
    omega
  have skipped :
      skipSeparators (gap ++ (c :: (later ++ rest))) = c :: (later ++ rest) := by
    rw [skipSeparators_gap isGap, skipSeparators_cons notGap]
  simp [readValue, skipSeparators_cons (show isSeparator '[' = false by decide), skipped,
    notClosing, read]

theorem object
    {gap inner : Text}
    {members : List (Text × Value)}
    (isGap : IsGap gap)
    (readsMembers : ReadsAsMembers inner members) :
    ReadsAs ('\x7b' :: (gap ++ inner)) (.object members) := by
  refine ⟨⟨'\x7b', _, rfl, by decide, by decide, by decide⟩, ?_⟩
  intro rest fuel _ enough
  obtain ⟨c, later, rfl, notGap, _, notClosing⟩ := readsMembers.starts
  obtain ⟨less, rfl⟩ : ∃ less, fuel = less + 1 := by
    simp only [List.length_cons, List.length_append] at enough
    exact ⟨fuel - 1, by omega⟩
  have read : readMembers (less + 1) (c :: (later ++ rest)) = some (members, rest) := by
    apply readsMembers.reads
    simp only [List.length_cons, List.length_append] at enough ⊢
    omega
  have skipped :
      skipSeparators (gap ++ (c :: (later ++ rest))) = c :: (later ++ rest) := by
    rw [skipSeparators_gap isGap, skipSeparators_cons notGap]
  simp [readValue, skipSeparators_cons (show isSeparator '\x7b' = false by decide), skipped,
    notClosing, read]

end ReadsAs

theorem ReadsAsItems.last
    {text gap : Text}
    {item : Value}
    (readsItem : ReadsAs text item)
    (isGap : IsGap gap) :
    ReadsAsItems (text ++ (gap ++ [']'])) [item] := by
  refine ⟨readsItem.starts.append _, ?_⟩
  intro rest fuel enough
  have notEmpty := readsItem.starts.length_pos
  simp only [List.length_append, List.length_singleton] at enough
  obtain ⟨less, rfl⟩ : ∃ less, fuel = less + 1 := ⟨fuel - 1, by omega⟩
  have read :
      readValue (less + 1) (text ++ (gap ++ ']' :: rest)) = some (item, gap ++ ']' :: rest) :=
    readsItem.reads (endsNumber_gap isGap (endsNumber_cons (by decide) rest)) (by omega)
  have skipped : skipSeparators (gap ++ ']' :: rest) = ']' :: rest := by
    rw [skipSeparators_gap isGap, skipSeparators_cons (by decide)]
  simp [readItems, read, skipped]

theorem ReadsAsItems.more
    {text gap inner : Text}
    {item : Value}
    {items : List Value}
    (readsItem : ReadsAs text item)
    (isGap : IsGap gap)
    (readsItems : ReadsAsItems inner items) :
    ReadsAsItems (text ++ ',' :: (gap ++ inner)) (item :: items) := by
  refine ⟨readsItem.starts.append _, ?_⟩
  intro rest fuel enough
  have notEmpty := readsItem.starts.length_pos
  simp only [List.length_append, List.length_cons] at enough
  obtain ⟨less, rfl⟩ : ∃ less, fuel = less + 1 := ⟨fuel - 1, by omega⟩
  have read :
      readValue (less + 1) (text ++ ',' :: (gap ++ (inner ++ rest))) =
        some (item, ',' :: (gap ++ (inner ++ rest))) :=
    readsItem.reads (endsNumber_cons (by decide) _) (by omega)
  have readMore : readItems (less + 1) (gap ++ (inner ++ rest)) = some (items, rest) := by
    rw [readItems_gap isGap]
    exact readsItems.reads (by omega)
  rw [List.append_assoc, List.cons_append, List.append_assoc, readItems]
  simp [read, skipSeparators_cons (show isSeparator ',' = false by decide), readMore]

theorem ReadsAsMembers.last
    {text gap between : Text}
    {value : Value}
    (key : Text)
    (isBetween : IsGap between)
    (readsValue : ReadsAs text value)
    (isGap : IsGap gap) :
    ReadsAsMembers (writeText key ++ ':' :: (between ++ (text ++ (gap ++ ['\x7d']))))
      [(key, value)] := by
  refine ⟨(startsValue_writeText key).append _, ?_⟩
  intro rest fuel enough
  simp only [List.length_append, List.length_cons] at enough
  obtain ⟨less, rfl⟩ : ∃ less, fuel = less + 1 := ⟨fuel - 1, by omega⟩
  have readKey :=
    readText_escaped key (':' :: (between ++ (text ++ (gap ++ '\x7d' :: rest))))
  have read :
      readValue (less + 1) (text ++ (gap ++ '\x7d' :: rest)) =
        some (value, gap ++ '\x7d' :: rest) :=
    readsValue.reads (endsNumber_gap isGap (endsNumber_cons (by decide) rest)) (by omega)
  have skipped : skipSeparators (gap ++ '\x7d' :: rest) = '\x7d' :: rest := by
    rw [skipSeparators_gap isGap, skipSeparators_cons (by decide)]
  simp [readMembers, writeText, skipSeparators_cons (show isSeparator '"' = false by decide),
    readKey, skipSeparators_cons (show isSeparator ':' = false by decide),
    readValue_gap isBetween, read, skipped]

/-- A member with a comma behind it stands in front of what is read next. -/
theorem readMembers_more
    {text gap between : Text}
    {value : Value}
    {fuel : Nat}
    (enough : 2 * text.length ≤ fuel + 1)
    (key : Text)
    (isBetween : IsGap between)
    (readsValue : ReadsAs text value)
    (isGap : IsGap gap)
    (rest : Text) :
    readMembers (fuel + 1 + 1)
        (writeText key ++ ':' :: (between ++ (text ++ ',' :: (gap ++ rest)))) =
      (readMembers (fuel + 1) rest).map fun (members, after) =>
        ((key, value) :: members, after) := by
  have readKey :=
    readText_escaped key (':' :: (between ++ (text ++ ',' :: (gap ++ rest))))
  have read :
      readValue (fuel + 1) (text ++ ',' :: (gap ++ rest)) =
        some (value, ',' :: (gap ++ rest)) :=
    readsValue.reads (endsNumber_cons (by decide) _) enough
  rw [readMembers]
  cases later : readMembers (fuel + 1) rest <;>
    simp [writeText, skipSeparators_cons (show isSeparator '"' = false by decide),
      readKey, skipSeparators_cons (show isSeparator ':' = false by decide),
      readValue_gap isBetween, read,
      skipSeparators_cons (show isSeparator ',' = false by decide), readMembers_gap isGap,
      later]

theorem ReadsAsMembers.more
    {text gap between inner : Text}
    {value : Value}
    {members : List (Text × Value)}
    (key : Text)
    (isBetween : IsGap between)
    (readsValue : ReadsAs text value)
    (isGap : IsGap gap)
    (readsMembers : ReadsAsMembers inner members) :
    ReadsAsMembers (writeText key ++ ':' :: (between ++ (text ++ ',' :: (gap ++ inner))))
      ((key, value) :: members) := by
  refine ⟨(startsValue_writeText key).append _, ?_⟩
  intro rest fuel enough
  simp only [List.length_append, List.length_cons] at enough
  obtain ⟨less, rfl⟩ : ∃ less, fuel = less + 1 := ⟨fuel - 1, by omega⟩
  have enoughForValue : 2 * text.length ≤ less + 1 := by
    omega
  have readMore : readMembers (less + 1) (inner ++ rest) = some (members, rest) :=
    readsMembers.reads (by omega)
  rw [List.append_assoc, List.cons_append, List.append_assoc, List.append_assoc,
    List.cons_append, List.append_assoc,
    readMembers_more enoughForValue key isBetween readsValue isGap, readMore]
  rfl

/-- A text that is read as a value is a document of it, with white space behind it. -/
theorem read?_of_readsAs
    {text gap : Text}
    {value : Value}
    (readsValue : ReadsAs text value)
    (isGap : IsGap gap) :
    read? (text ++ gap) = some value := by
  have ends : EndsNumber gap := by
    have behind := endsNumber_gap isGap endsNumber_nil
    rwa [List.append_nil] at behind
  have skipped : skipSeparators gap = [] := by
    have behind := skipSeparators_gap isGap []
    rwa [List.append_nil] at behind
  have read :
      readValue (2 * (text ++ gap).length + 2) (text ++ gap) = some (value, gap) := by
    apply readsValue.reads ends
    rw [List.length_append]
    omega
  rw [read?, read]
  simp [skipped]

/-- The white space of a layout, by the depth of the array or object around it. -/
structure Spacing where
  opening : Nat → Text
  between : Nat → Text
  closing : Nat → Text
  isGap_opening : ∀ depth, IsGap (opening depth)
  isGap_between : ∀ depth, IsGap (between depth)
  isGap_closing : ∀ depth, IsGap (closing depth)

/-- The start of a line at a depth. -/
def lineStart
    (depth : Nat) :
    Text :=
  '\n' :: List.replicate (2 * depth) ' '

theorem isGap_lineStart
    (depth : Nat) :
    IsGap (lineStart depth) := by
  intro c member
  rcases List.mem_cons.mp member with rfl | isSpace
  · decide
  · obtain rfl := (List.mem_replicate.mp isSpace).2
    decide

namespace Spacing

/-- Everything on one line, with a space after every comma. -/
def oneLine : Spacing where
  opening := fun _ => []
  between := fun _ => [' ']
  closing := fun _ => []
  isGap_opening := fun _ => by decide
  isGap_between := fun _ => by decide
  isGap_closing := fun _ => by decide

@[simp]
theorem oneLine_opening
    (depth : Nat) :
    oneLine.opening depth = [] :=
  rfl

@[simp]
theorem oneLine_between
    (depth : Nat) :
    oneLine.between depth = [' '] :=
  rfl

@[simp]
theorem oneLine_closing
    (depth : Nat) :
    oneLine.closing depth = [] :=
  rfl

/-- Every item and every member on a line of its own. -/
def indented : Spacing where
  opening := fun depth => lineStart (depth + 1)
  between := fun depth => lineStart (depth + 1)
  closing := lineStart
  isGap_opening := fun depth => isGap_lineStart (depth + 1)
  isGap_between := fun depth => isGap_lineStart (depth + 1)
  isGap_closing := isGap_lineStart

end Spacing

namespace Value

mutual

/-- A value as a document with some spacing. -/
def layout
    (spacing : Spacing) :
    Nat → Value → Text
  | _, .null => "null".toList
  | _, .bool value => write (.bool value)
  | _, .int value => Text.decimal value
  | _, .number written => written
  | _, .text value => writeText value
  | _, .list [] => ['[', ']']
  | depth, .list (item :: items) =>
      '[' :: (spacing.opening depth ++ layoutItems spacing depth (item :: items))
  | _, .object [] => ['\x7b', '\x7d']
  | depth, .object (member :: members) =>
      '\x7b' :: (spacing.opening depth ++ layoutMembers spacing depth (member :: members))

/-- The items of an array at a depth with its closing bracket. -/
def layoutItems
    (spacing : Spacing)
    (depth : Nat) :
    List Value → Text
  | [] => []
  | [item] => layout spacing (depth + 1) item ++ (spacing.closing depth ++ [']'])
  | item :: next :: items =>
      layout spacing (depth + 1) item ++
        ',' :: (spacing.between depth ++ layoutItems spacing depth (next :: items))

/-- The members of an object at a depth with its closing brace. -/
def layoutMembers
    (spacing : Spacing)
    (depth : Nat) :
    List (Text × Value) → Text
  | [] => []
  | [(key, value)] =>
      writeText key ++
        ':' :: ([' '] ++ (layout spacing (depth + 1) value ++
          (spacing.closing depth ++ ['\x7d'])))
  | (key, value) :: next :: members =>
      writeText key ++
        ':' :: ([' '] ++ (layout spacing (depth + 1) value ++
          ',' :: (spacing.between depth ++ layoutMembers spacing depth (next :: members))))

end

mutual

/-- Whether all numbers of a value are integers. -/
def isIntegral : Value → Bool
  | .number _ => false
  | .list items => areIntegral items
  | .object members => membersIntegral members
  | _ => true

/-- Whether all numbers of the items of an array are integers. -/
def areIntegral : List Value → Bool
  | [] => true
  | item :: items => isIntegral item && areIntegral items

/-- Whether all numbers of the members of an object are integers. -/
def membersIntegral : List (Text × Value) → Bool
  | [] => true
  | (_, value) :: members => isIntegral value && membersIntegral members

end

end Value

section

variable
    {spacing : Spacing}

mutual

theorem readsAs_layout
    (depth : Nat)
    (value : Value)
    (integral : value.isIntegral = true) :
    ReadsAs (value.layout spacing depth) value := by
  match value with
  | .null => exact ReadsAs.null
  | .bool value => exact ReadsAs.bool value
  | .int value => exact ReadsAs.int value
  | .number _ => cases integral
  | .text value => exact ReadsAs.text value
  | .list [] => exact ReadsAs.emptyList
  | .list (item :: items) =>
      exact ReadsAs.list (spacing.isGap_opening depth)
        (readsAsItems_layout depth (item :: items) (List.cons_ne_nil _ _) integral)
  | .object [] => exact ReadsAs.emptyObject
  | .object (member :: members) =>
      exact ReadsAs.object (spacing.isGap_opening depth)
        (readsAsMembers_layout depth (member :: members) (List.cons_ne_nil _ _) integral)

theorem readsAsItems_layout
    (depth : Nat)
    (items : List Value)
    (notEmpty : items ≠ [])
    (integral : Value.areIntegral items = true) :
    ReadsAsItems (Value.layoutItems spacing depth items) items := by
  match items with
  | [] => exact (notEmpty rfl).elim
  | [item] =>
      have itemIntegral := (Bool.and_eq_true_iff.mp integral).1
      exact ReadsAsItems.last (readsAs_layout (depth + 1) item itemIntegral)
        (spacing.isGap_closing depth)
  | item :: next :: items =>
      obtain ⟨itemIntegral, restIntegral⟩ := Bool.and_eq_true_iff.mp integral
      exact ReadsAsItems.more (readsAs_layout (depth + 1) item itemIntegral)
        (spacing.isGap_between depth)
        (readsAsItems_layout depth (next :: items) (List.cons_ne_nil _ _) restIntegral)

theorem readsAsMembers_layout
    (depth : Nat)
    (members : List (Text × Value))
    (notEmpty : members ≠ [])
    (integral : Value.membersIntegral members = true) :
    ReadsAsMembers (Value.layoutMembers spacing depth members) members := by
  match members with
  | [] => exact (notEmpty rfl).elim
  | [(key, value)] =>
      have valueIntegral := (Bool.and_eq_true_iff.mp integral).1
      exact ReadsAsMembers.last key (by decide) (readsAs_layout (depth + 1) value valueIntegral)
        (spacing.isGap_closing depth)
  | (key, value) :: next :: members =>
      obtain ⟨valueIntegral, restIntegral⟩ := Bool.and_eq_true_iff.mp integral
      exact ReadsAsMembers.more key (by decide)
        (readsAs_layout (depth + 1) value valueIntegral) (spacing.isGap_between depth)
        (readsAsMembers_layout depth (next :: members) (List.cons_ne_nil _ _) restIntegral)

end

/-- Every layout of a value is read back, with white space behind it. -/
theorem read?_layout
    (value : Value)
    (integral : value.isIntegral = true)
    {gap : Text}
    (isGap : IsGap gap) :
    read? (value.layout spacing 0 ++ gap) = some value :=
  read?_of_readsAs (readsAs_layout 0 value integral) isGap

end

mutual

/-- Values are written as their layout on one line. -/
theorem layout_oneLine
    (depth : Nat)
    (value : Value) :
    value.layout .oneLine depth = value.write := by
  match value with
  | .null => rfl
  | .bool value => rfl
  | .int value => rfl
  | .number _ => rfl
  | .text value => rfl
  | .list [] => rfl
  | .list (item :: items) =>
      have inner := layoutItems_oneLine depth (item :: items) (List.cons_ne_nil _ _)
      simp [Value.layout, Value.write, inner]
  | .object [] => rfl
  | .object (member :: members) =>
      have inner := layoutMembers_oneLine depth (member :: members) (List.cons_ne_nil _ _)
      simp [Value.layout, Value.write, inner]

theorem layoutItems_oneLine
    (depth : Nat)
    (items : List Value)
    (notEmpty : items ≠ []) :
    Value.layoutItems .oneLine depth items = Value.writeItems items ++ [']'] := by
  match items with
  | [] => exact (notEmpty rfl).elim
  | [item] =>
      have first := layout_oneLine (depth + 1) item
      simp [Value.layoutItems, Value.writeItems, first]
  | item :: next :: items =>
      have first := layout_oneLine (depth + 1) item
      have rest := layoutItems_oneLine depth (next :: items) (List.cons_ne_nil _ _)
      simp [Value.layoutItems, Value.writeItems, first, rest]

theorem layoutMembers_oneLine
    (depth : Nat)
    (members : List (Text × Value))
    (notEmpty : members ≠ []) :
    Value.layoutMembers .oneLine depth members = Value.writeMembers members ++ ['\x7d'] := by
  match members with
  | [] => exact (notEmpty rfl).elim
  | [(key, value)] =>
      have first := layout_oneLine (depth + 1) value
      simp [Value.layoutMembers, Value.writeMembers, first]
  | (key, value) :: next :: members =>
      have first := layout_oneLine (depth + 1) value
      have rest := layoutMembers_oneLine depth (next :: members) (List.cons_ne_nil _ _)
      simp [Value.layoutMembers, Value.writeMembers, first, rest]

end

/-- What is written of a value without fractions is read back as the value. -/
theorem read?_write
    (value : Value)
    (integral : value.isIntegral = true) :
    read? value.write = some value := by
  have read : read? (value.layout .oneLine 0 ++ []) = some value :=
    read?_layout value integral (by decide)
  rwa [layout_oneLine, List.append_nil] at read

end ModSkeleton.Json
