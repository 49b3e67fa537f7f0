import ModSkeleton.Proofs.Request.Resolution
import ModSkeleton.Proofs.Text.Newlines
import ModSkeleton.Proofs.Text.Quoting

namespace ModSkeleton

/-!
# The messages of refusals

Texts that do not make a request are refused for one of its fields. The message of such a
refusal names the field, quotes the value and gives the reason, which may quote a part of
the value in turn. Whatever the value holds, the message is one line of printable
characters, and the field, the value and the reason can be read off it
(`Request.resolve_refusal_message`).
-/

namespace ProjectError

/--
Read the message of an invalid field: the field is the word in front of the quoted value,
and the reason is what stands behind the colon that follows the value.
-/
def readInvalidField?
    (message : Text) :
    Option (Text × Text × Text) := do
  let report ← "Invalid ".toList.isPrefixOf? message
  let field := report.takeWhile (· != ' ')
  let (value, explanation) ← Text.readQuoted? (report.drop (field.length + 1))
  let reason ← ": ".toList.isPrefixOf? explanation
  some (field, value, reason)

/-- What stands behind the field in the message about it. -/
def explanation
    (value reason : Text) :
    Text :=
  Text.quoted value ++ (": ".toList ++ reason)

theorem message_invalidField
    (field value reason : Text) :
    message (.invalidField field (.text value) reason) =
      "Invalid ".toList ++ (field ++ ' ' :: explanation value reason) := by
  have written :
      message (.invalidField field (.text value) reason) =
        "Invalid ".toList ++ field ++ [' '] ++ Text.quoted value ++ ": ".toList ++ reason :=
    rfl
  rw [written]
  simp only [explanation, List.append_assoc, List.cons_append, List.nil_append]

/-- The field, the value and the reason are read back, if the field is a single word. -/
theorem readInvalidField?_message
    {field : Text}
    (oneWord : ' ' ∉ field)
    (value reason : Text) :
    readInvalidField? (message (.invalidField field (.text value) reason)) =
      some (field, value, reason) := by
  have introduced (report : Text) :
      "Invalid ".toList.isPrefixOf? ("Invalid ".toList ++ report) = some report :=
    rfl
  have word :
      (field ++ ' ' :: explanation value reason).takeWhile (· != ' ') = field := by
    have noSpace : ∀ c ∈ field, (c != ' ') = true := by
      intro c member
      rw [bne_iff_ne]
      rintro rfl
      exact oneWord member
    rw [List.takeWhile_append_of_pos noSpace, List.takeWhile_cons_of_neg (by decide),
      List.append_nil]
  have behindWord :
      (field ++ ' ' :: explanation value reason).drop (field.length + 1) =
        explanation value reason := by
    rw [List.drop_length_add_append]
    rfl
  have quoted :
      Text.readQuoted? (explanation value reason) = some (value, ": ".toList ++ reason) :=
    Text.readQuoted?_quoted_append value _
  have explained : ": ".toList.isPrefixOf? (": ".toList ++ reason) = some reason :=
    rfl
  rw [message_invalidField]
  simp only [readInvalidField?, introduced, Option.bind_eq_bind, Option.bind_some, word,
    behindWord, quoted, explained]

/-- If a field and a reason are printable, so is a message about them, whatever the value is. -/
theorem all_isPrintable_message
    {field reason : Text}
    (fieldPrintable : field.all Text.isPrintable = true)
    (reasonPrintable : reason.all Text.isPrintable = true)
    (value : Text) :
    (message (.invalidField field (.text value) reason)).all Text.isPrintable = true := by
  have introduction : "Invalid ".toList.all Text.isPrintable = true := by
    decide
  have space : Text.isPrintable ' ' = true := by
    decide
  have colon : ": ".toList.all Text.isPrintable = true := by
    decide
  rw [message_invalidField, explanation]
  simp only [List.all_append, List.all_cons, introduction, fieldPrintable, space,
    Text.all_isPrintable_quoted, colon, reasonPrintable, Bool.and_true]

end ProjectError

/-- The reason for which a main class is refused is printable, also where it quotes a segment. -/
theorem MainClass.Fault.all_isPrintable_message
    (fault : Fault) :
    fault.message.all Text.isPrintable = true := by
  have quotedPrintable (segment note : Text) (plain : note.all Text.isPrintable = true) :
      (Text.quoted segment ++ note).all Text.isPrintable = true := by
    rw [List.all_append, Text.all_isPrintable_quoted, plain, Bool.and_true]
  cases fault with
  | noPackage =>
      change "must include a package, e.g. com.example.MyMod".toList.all Text.isPrintable = true
      rw [String.toList_ofList]
      decide +kernel
  | notIdentifier segment =>
      apply quotedPrintable
      rw [String.toList_ofList]
      decide +kernel
  | reserved segment =>
      apply quotedPrintable
      rw [String.toList_ofList]
      decide +kernel

/-- A text of printable characters is a single line. -/
theorem Text.physicalLines_of_printable
    {text : Text}
    (printable : text.all isPrintable = true) :
    physicalLines text = [text] := by
  have noControl : ∀ c, isPrintable c = false → c ∉ text := by
    intro c notPrintable member
    rw [List.all_eq_true.mp printable c member] at notPrintable
    cases notPrintable
  rw [physicalLines, unifyNewlines_of_not_mem (noControl '\r' (by decide)),
    splitOn_of_not_mem (noControl '\n' (by decide))]

namespace Request

theorem Refusal.field_eq
    {id mainClass field value reason : Text}
    (refusal : Refusal id mainClass field value reason) :
    field = "mod_id".toList ∨ field = "main_class".toList := by
  cases refusal with
  | emptyId => exact .inl rfl
  | modId => exact .inl rfl
  | mainClass => exact .inr rfl

/-- Every reason for a refusal is printable. -/
theorem Refusal.all_isPrintable_reason
    {id mainClass field value reason : Text}
    (refusal : Refusal id mainClass field value reason) :
    reason.all Text.isPrintable = true := by
  cases refusal with
  | emptyId =>
      rw [String.toList_ofList]
      decide +kernel
  | modId _ refused =>
      unfold ModId.validate at refused
      split at refused
      case isTrue => cases refused
      case isFalse =>
        simp only [Except.error.injEq, ProjectError.invalidField.injEq] at refused
        rw [← refused.2.2]
        unfold ModId.rule
        -- Unification spells the strings out; evaluation would decode them byte by byte.
        rw [String.toList_append, String.toList_ofList, String.toList_ofList]
        decide +kernel
  | mainClass _ refused =>
      obtain ⟨fault, _, same⟩ := (MainClass.validate_eq_error_iff _ _).mp refused
      cases same
      exact fault.all_isPrintable_message

/-- An error about a field tells of a refusal, whatever path and values were given. -/
theorem exists_refusal_of_resolve
    {host : Host}
    {workspace : Workspace}
    {given : TextOptions}
    {field reason : Text}
    {value : Json.Value}
    (refused :
      resolve host workspace given.options =
        .error (.project (.invalidField field value reason))) :
    ∃ id text,
      value = .text text ∧ Refusal id given.chosenClass field text reason := by
  rcases isNamed_or_blank given.modName with ⟨name, named⟩ | blank
  · cases isId : given.idOf host workspace with
    | ok id =>
        rcases resolve_cases named isId with
          ⟨_, _, _, _, resolved⟩ | ⟨_, text, _, _, _, _, refusal, failed⟩
        · rw [resolved] at refused
          cases refused
        · rw [failed] at refused
          cases refused
          exact ⟨id, text, rfl, refusal⟩
    | error error =>
        obtain ⟨_, _, noRealPath⟩ := (unidentified_of_idOf isId).noRealPath
        rw [resolve_of_unidentified named isId, noRealPath] at refused
        cases refused
  · rw [resolve_of_blank blank] at refused
    cases refused

/-- A message that tells of a field with its value and the reason why it is refused. -/
structure Reports
    (message field value reason : Text) :
    Prop where
  printable : ∀ c ∈ message, Text.isPrintable c = true
  oneLine : Text.physicalLines message = [message]
  read : ProjectError.readInvalidField? message = some (field, value, reason)

theorem Refusal.reports
    {id mainClass field value reason : Text}
    (refusal : Refusal id mainClass field value reason) :
    Reports (ProjectError.invalidField field (.text value) reason).message
      field value reason := by
  have fieldPrintable : field.all Text.isPrintable = true := by
    rcases refusal.field_eq with rfl | rfl
    · decide
    · decide
  have oneWord : ' ' ∉ field := by
    rcases refusal.field_eq with rfl | rfl
    · decide
    · decide
  have printable :=
    ProjectError.all_isPrintable_message fieldPrintable refusal.all_isPrintable_reason value
  exact
    { printable := List.all_eq_true.mp printable
      oneLine := Text.physicalLines_of_printable printable
      read := ProjectError.readInvalidField?_message oneWord value reason }

/--
Whenever texts are refused for a field, the message is one line of printable characters,
from which the field, its value and the reason are read back. So texts that are refused
with the same message, wherever this is done, are refused for the same field with the
same value and for the same reason.
-/
theorem resolve_refusal_message
    {host : Host}
    {workspace : Workspace}
    {given : TextOptions}
    {field reason : Text}
    {value : Json.Value}
    (refused :
      resolve host workspace given.options =
        .error (.project (.invalidField field value reason))) :
    ∃ text,
      value = .text text ∧
        Reports (ProjectError.invalidField field value reason).message field text reason ∧
          ∀ (otherHost : Host) (otherWorkspace : Workspace) (otherGiven : TextOptions)
              (otherField otherReason : Text) (otherValue : Json.Value),
            resolve otherHost otherWorkspace otherGiven.options =
                .error (.project (.invalidField otherField otherValue otherReason)) →
            (ProjectError.invalidField otherField otherValue otherReason).message =
                (ProjectError.invalidField field value reason).message →
            otherField = field ∧ otherValue = value ∧ otherReason = reason := by
  obtain ⟨id, text, rfl, refusal⟩ := exists_refusal_of_resolve refused
  refine ⟨text, rfl, refusal.reports, ?_⟩
  intro otherHost otherWorkspace otherGiven otherField otherReason otherValue otherRefused
    sameMessage
  obtain ⟨otherId, otherText, rfl, otherRefusal⟩ := exists_refusal_of_resolve otherRefused
  have sameReading :
      some (otherField, otherText, otherReason) = some (field, text, reason) := by
    rw [← otherRefusal.reports.read, ← refusal.reports.read]
    exact congrArg ProjectError.readInvalidField? sameMessage
  cases sameReading
  exact ⟨rfl, rfl, rfl⟩

/-- A segment with both quote marks, line ends and characters that are not printable. -/
def disguisedSegment : Text :=
  "it's\r\n\"\\': \x7f\u2028é".toList ++ [Char.ofNat 0xE0001]

/-- A main class that has such a segment. -/
def disguisedClass : Text :=
  "com.".toList ++ (disguisedSegment ++ ".Foo".toList)

/-- Options with this main class. -/
def disguisedOptions : TextOptions where
  targetPath := "mod".toList
  modName := some "Sample".toList
  modId := none
  useKotlin := .null
  mainClass := some disguisedClass

/-- The reason for which it is refused. -/
def disguisedReason : Text :=
  Text.quoted disguisedSegment ++ " is not a valid Java identifier".toList

/-- The message about it: the segment is quoted within the value, and again in the reason. -/
def disguisedMessage : Text :=
  "Invalid main_class 'com.it\\'s\\r\\n\"\\\\\\': \\x7f\\u2028é\\U000e0001.Foo': ".toList ++
    ("'it\\'s\\r\\n\"\\\\\\': \\x7f\\u2028é\\U000e0001'".toList ++
      " is not a valid Java identifier".toList)

theorem message_disguised :
    (ProjectError.invalidField "main_class".toList (.text disguisedClass)
        disguisedReason).message =
      disguisedMessage := by
  rw [ProjectError.message_invalidField]
  unfold ProjectError.explanation disguisedReason disguisedClass disguisedSegment disguisedMessage
  repeat rw [String.toList_ofList]
  decide +kernel

/-- A value with quotes and line ends of its own is told apart from the reason behind it. -/
theorem resolve_refusal_message_disguised :
    resolve .faultless ⟨.empty, []⟩ disguisedOptions.options =
        .error
          (.project
            (.invalidField "main_class".toList (.text disguisedClass) disguisedReason)) ∧
      Reports disguisedMessage "main_class".toList disguisedClass disguisedReason := by
  have refused :
      resolve .faultless ⟨.empty, []⟩ disguisedOptions.options =
        .error
          (.project
            (.invalidField "main_class".toList (.text disguisedClass) disguisedReason)) := by
    rfl
  obtain ⟨text, isText, reports, _⟩ := resolve_refusal_message refused
  obtain rfl : disguisedClass = text := Json.Value.text.inj isText
  rw [message_disguised] at reports
  exact ⟨refused, reports⟩

end Request

end ModSkeleton
