import ModSkeleton.Proofs.Request.ModIds

namespace ModSkeleton.MainClass

/-!
# The rule for main classes

The rule asks for at least two segments between dots, a package and a class. A segment
passes if it is an identifier of ASCII characters, with or without one line feed behind
it, and no reserved word itself. The check goes through the segments in order and stops
at the first one that does not pass; an identifier is asked for before reserved words are
looked up. What it accepts and what it says about anything else is given here without
reference to the check (`fault?_eq_none_iff`, `exists_fault?_iff`).
-/

/-- The characters an identifier may start with. -/
def MayStart
    (c : Char) :
    Prop :=
  ('a' ≤ c ∧ c ≤ 'z') ∨ ('A' ≤ c ∧ c ≤ 'Z') ∨ c = '_' ∨ c = '$'

/-- The characters that may stand behind the first one. -/
def MayGoOn
    (c : Char) :
    Prop :=
  MayStart c ∨ ('0' ≤ c ∧ c ≤ '9')

/-- Identifiers of ASCII characters. -/
inductive IsIdentifierName : Text → Prop where
  | intro
      {first : Char}
      {following : Text}
      (starts : MayStart first)
      (goesOn : ∀ c ∈ following, MayGoOn c) :
      IsIdentifierName (first :: following)

/-- An identifier, or an identifier with one line feed behind it. -/
def IsIdentifierLine
    (segment : Text) :
    Prop :=
  ∃ name, IsIdentifierName name ∧ (segment = name ∨ segment = name ++ ['\n'])

/-- What the rule asks of a segment. -/
structure Passes
    (segment : Text) :
    Prop where
  identifier : IsIdentifierLine segment
  notReserved : segment ∉ reservedWords

/-- Why a main class is refused. -/
inductive RefusedFor
    (mainClass : Text) :
    Text → Prop where
  | noPackage
      (alone : (segments mainClass).length = 1) :
      RefusedFor mainClass "must include a package, e.g. com.example.MyMod".toList
  | notIdentifier
      {front later : List Text}
      {segment : Text}
      (several : 2 ≤ (segments mainClass).length)
      (split : segments mainClass = front ++ segment :: later)
      (passed : ∀ earlier ∈ front, Passes earlier)
      (fails : ¬IsIdentifierLine segment) :
      RefusedFor mainClass (Text.quoted segment ++ " is not a valid Java identifier".toList)
  | reserved
      {front later : List Text}
      {segment : Text}
      (several : 2 ≤ (segments mainClass).length)
      (split : segments mainClass = front ++ segment :: later)
      (passed : ∀ earlier ∈ front, Passes earlier)
      (identifier : IsIdentifierLine segment)
      (isReserved : segment ∈ reservedWords) :
      RefusedFor mainClass (Text.quoted segment ++ " is a reserved Java keyword".toList)

theorem isIdentifierStart_iff
    (c : Char) :
    isIdentifierStart c = true ↔ MayStart c := by
  simp [isIdentifierStart, MayStart, or_assoc]

theorem isIdentifierPart_iff
    (c : Char) :
    isIdentifierPart c = true ↔ MayGoOn c := by
  simp [isIdentifierPart, MayGoOn, ← isIdentifierStart_iff]

/-- The shape that the check looks for is that of identifiers. -/
theorem hasIdentifierShape_iff
    (text : Text) :
    hasIdentifierShape text = true ↔ IsIdentifierName text := by
  cases text with
  | nil =>
      constructor
      · intro shaped
        cases shaped
      · intro isName
        cases isName
  | cons first following =>
      rw [hasIdentifierShape, Bool.and_eq_true, List.all_eq_true, isIdentifierStart_iff]
      simp only [isIdentifierPart_iff]
      constructor
      · rintro ⟨starts, goesOn⟩
        exact .intro starts goesOn
      · rintro ⟨starts, goesOn⟩
        exact ⟨starts, goesOn⟩

theorem IsIdentifierName.noNewline
    {name : Text}
    (isName : IsIdentifierName name) :
    '\n' ∉ name := by
  obtain ⟨starts, goesOn⟩ := isName
  have notStart : ¬MayStart '\n' := by
    rw [← isIdentifierStart_iff]
    decide
  have notPart : ¬MayGoOn '\n' := by
    rw [← isIdentifierPart_iff]
    decide
  intro member
  rcases List.mem_cons.mp member with rfl | inFollowing
  · exact notStart starts
  · exact notPart (goesOn _ inFollowing)

/-- The check of a segment admits one line feed behind an identifier, and nothing else. -/
theorem isIdentifier_iff
    (segment : Text) :
    isIdentifier segment = true ↔ IsIdentifierLine segment := by
  rw [isIdentifier, hasIdentifierShape_iff]
  constructor
  · intro isName
    exact ⟨_, isName, Text.eq_or_eq_of_dropFinalNewline rfl⟩
  · rintro ⟨name, isName, rfl | rfl⟩
    · rwa [Text.dropFinalNewline_of_not_mem isName.noNewline]
    · rwa [Text.dropFinalNewline_append_newline]

instance
    (segment : Text) :
    Decidable (IsIdentifierLine segment) :=
  decidable_of_iff _ (isIdentifier_iff segment)

/-- What the check of a segment finds: identifiers come before reserved words. -/
theorem segmentFault?_cases
    (segment : Text) :
    (¬IsIdentifierLine segment ∧ segmentFault? segment = some (.notIdentifier segment)) ∨
      (IsIdentifierLine segment ∧ segment ∈ reservedWords ∧
          segmentFault? segment = some (.reserved segment)) ∨
        (Passes segment ∧ segmentFault? segment = none) := by
  by_cases identifier : IsIdentifierLine segment
  · have accepted := (isIdentifier_iff segment).mpr identifier
    by_cases isReserved : segment ∈ reservedWords
    · exact .inr (.inl ⟨identifier, isReserved, by simp [segmentFault?, accepted, isReserved]⟩)
    · exact
        .inr (.inr ⟨⟨identifier, isReserved⟩, by simp [segmentFault?, accepted, isReserved]⟩)
  · have refused : isIdentifier segment = false := by
      rw [← Bool.not_eq_true, isIdentifier_iff]
      exact identifier
    exact .inl ⟨identifier, by simp [segmentFault?, refused]⟩

theorem segmentFault?_eq_none_iff
    (segment : Text) :
    segmentFault? segment = none ↔ Passes segment := by
  rcases segmentFault?_cases segment with
    ⟨notIdentifier, found⟩ | ⟨_, isReserved, found⟩ | ⟨passes, found⟩
  · rw [found]
    exact ⟨nofun, fun passes => (notIdentifier passes.identifier).elim⟩
  · rw [found]
    exact ⟨nofun, fun passes => (passes.notReserved isReserved).elim⟩
  · exact ⟨fun _ => passes, fun _ => found⟩

/-- A main class has no fault exactly if it has two segments at least, and all of them pass. -/
theorem fault?_eq_none_iff
    (mainClass : Text) :
    fault? mainClass = none ↔
      2 ≤ (segments mainClass).length ∧ ∀ segment ∈ segments mainClass, Passes segment := by
  unfold fault?
  by_cases short : (segments mainClass).length < 2
  · simp only [short, if_true]
    exact ⟨nofun, fun rule => absurd rule.1 (Nat.not_le_of_lt short)⟩
  · simp only [short, if_false, List.findSome?_eq_none_iff, segmentFault?_eq_none_iff]
    exact ⟨fun all => ⟨Nat.le_of_not_lt short, all⟩, And.right⟩

theorem length_segments_pos
    (mainClass : Text) :
    1 ≤ (segments mainClass).length :=
  List.length_pos_iff.mpr (Text.splitOn_ne_nil '.' mainClass)

/-- A fault that is found is one for which a main class is refused. -/
theorem refusedFor_of_fault?
    {mainClass : Text}
    {fault : Fault}
    (found : fault? mainClass = some fault) :
    RefusedFor mainClass fault.message := by
  unfold fault? at found
  by_cases short : (segments mainClass).length < 2
  · simp only [short, if_true, Option.some.injEq] at found
    subst fault
    have positive := length_segments_pos mainClass
    exact .noPackage (by omega)
  · simp only [short, if_false] at found
    have several : 2 ≤ (segments mainClass).length := Nat.le_of_not_lt short
    obtain ⟨front, segment, later, split, fails, before⟩ :=
      List.findSome?_eq_some_iff.mp found
    have passed : ∀ earlier ∈ front, Passes earlier := by
      intro earlier member
      exact (segmentFault?_eq_none_iff earlier).mp (before earlier member)
    rcases segmentFault?_cases segment with
      ⟨notIdentifier, outcome⟩ | ⟨identifier, isReserved, outcome⟩ | ⟨_, outcome⟩
    · rw [outcome] at fails
      cases fails
      exact .notIdentifier several split passed notIdentifier
    · rw [outcome] at fails
      cases fails
      exact .reserved several split passed identifier isReserved
    · rw [outcome] at fails
      cases fails

/-- The first segment that does not pass decides which fault is found. -/
theorem fault?_of_first
    {mainClass : Text}
    {front later : List Text}
    {segment : Text}
    {fault : Fault}
    (several : 2 ≤ (segments mainClass).length)
    (split : segments mainClass = front ++ segment :: later)
    (passed : ∀ earlier ∈ front, Passes earlier)
    (fails : segmentFault? segment = some fault) :
    fault? mainClass = some fault := by
  have first : (segments mainClass).findSome? segmentFault? = some fault := by
    apply List.findSome?_eq_some_iff.mpr
    refine ⟨front, segment, later, split, fails, ?_⟩
    intro earlier member
    exact (segmentFault?_eq_none_iff earlier).mpr (passed earlier member)
  simp only [fault?, Nat.not_lt_of_le several, if_false, first]

/-- The faults that are found are worded as the reasons for which main classes are refused. -/
theorem exists_fault?_iff
    (mainClass : Text)
    (reason : Text) :
    (∃ fault, fault? mainClass = some fault ∧ fault.message = reason) ↔
      RefusedFor mainClass reason := by
  constructor
  · rintro ⟨fault, found, rfl⟩
    exact refusedFor_of_fault? found
  · intro refused
    cases refused with
    | noPackage alone =>
        refine ⟨.noPackage, ?_, rfl⟩
        simp [fault?, alone]
    | @notIdentifier _ _ segment several split passed fails =>
        rcases segmentFault?_cases segment with
          ⟨_, outcome⟩ | ⟨identifier, _, _⟩ | ⟨passes, _⟩
        · exact ⟨_, fault?_of_first several split passed outcome, rfl⟩
        · exact (fails identifier).elim
        · exact (fails passes.identifier).elim
    | @reserved _ _ segment several split passed identifier isReserved =>
        rcases segmentFault?_cases segment with
          ⟨notIdentifier, _⟩ | ⟨_, _, outcome⟩ | ⟨passes, _⟩
        · exact (notIdentifier identifier).elim
        · exact ⟨_, fault?_of_first several split passed outcome, rfl⟩
        · exact (passes.notReserved isReserved).elim

theorem validate_eq_ok_iff
    (mainClass : Text) :
    validate mainClass = .ok () ↔ fault? mainClass = none := by
  unfold validate
  cases fault? mainClass with
  | none => simp
  | some fault => simp

theorem validate_eq_error_iff
    (mainClass : Text)
    (error : ProjectError) :
    validate mainClass = .error error ↔
      ∃ fault,
        fault? mainClass = some fault ∧
          error = .invalidField "main_class".toList (.text mainClass) fault.message := by
  unfold validate
  cases fault? mainClass with
  | none => simp
  | some fault => simp [eq_comm]

/--
Exactly those texts pass as main classes that have at least two segments between dots, all
of which are identifiers, with or without one line feed behind them, and no reserved
words. Every other text is refused by an error about it: for its missing package if it
has one segment only, else for the first segment that does not pass.
-/
theorem validate_mainClass_iff
    (mainClass : Text) :
    (validate mainClass = .ok () ↔
        2 ≤ (segments mainClass).length ∧ ∀ segment ∈ segments mainClass, Passes segment) ∧
      ∀ error,
        validate mainClass = .error error ↔
          ∃ reason,
            RefusedFor mainClass reason ∧
              error = .invalidField "main_class".toList (.text mainClass) reason := by
  refine ⟨?_, ?_⟩
  · rw [validate_eq_ok_iff, fault?_eq_none_iff]
  · intro error
    rw [validate_eq_error_iff]
    constructor
    · rintro ⟨fault, found, isError⟩
      exact ⟨_, refusedFor_of_fault? found, isError⟩
    · rintro ⟨reason, refused, isError⟩
      obtain ⟨fault, found, rfl⟩ := (exists_fault?_iff mainClass reason).mpr refused
      exact ⟨fault, found, isError⟩

/-- A line feed hides a reserved word; a segment that is no identifier is reported before one. -/
example :
    fault? "com.class\n.Foo\n".toList = none ∧
      fault? "com.1st.class".toList = some (.notIdentifier "1st".toList) := by
  decide

end ModSkeleton.MainClass
