import ModSkeleton.Proofs.Json.Layout
import ModSkeleton.Template.Render

namespace ModSkeleton.Json

/-!
# Values as JSON strings

The filter for JSON writes a value on one line. Whatever control characters the texts
and keys of the value hold, none of them shows in what is written, and reading it gives
the value back with nothing left over (`jsonString_faithful`). Numbers with a fraction or
an exponent are written as they are given, so they are left out.
-/

/-- A text without the characters below U+0020. -/
def IsPrintable
    (text : Text) :
    Prop :=
  ∀ c ∈ text, 0x20 ≤ c.toNat

instance
    (text : Text) :
    Decidable (IsPrintable text) :=
  List.decidableBAll (fun c : Char => 0x20 ≤ c.toNat) text

theorem IsPlain.isPrintable
    {text : Text}
    (plain : IsPlain text) :
    IsPrintable text :=
  fun c member => (plain c member).2.2

namespace IsPrintable

theorem append
    {first second : Text}
    (firstPrintable : IsPrintable first)
    (secondPrintable : IsPrintable second) :
    IsPrintable (first ++ second) := by
  intro c member
  rcases List.mem_append.mp member with inFirst | inSecond
  · exact firstPrintable c inFirst
  · exact secondPrintable c inSecond

/-- A text between two printable characters. -/
theorem enclosed
    {opening closing : Char}
    {inner : Text}
    (isOpening : IsPrintable [opening])
    (printable : IsPrintable inner)
    (isClosing : IsPrintable [closing]) :
    IsPrintable (opening :: (inner ++ [closing])) :=
  isOpening.append (printable.append isClosing)

end IsPrintable

/-- A control character is written by its code. -/
theorem isPrintable_hexadecimal
    {c : Char}
    (control : c.toNat < 0x20) :
    IsPrintable (Text.hexadecimal 4 c.toNat) := by
  have codes : ∀ code : Fin 32, IsPrintable (Text.hexadecimal 4 code.val) := by
    decide
  exact codes ⟨c.toNat, control⟩

theorem isPrintable_escapeChar
    (c : Char) :
    IsPrintable (escapeChar c) := by
  unfold escapeChar
  -- The short escapes are fixed; only the last two cases depend on the character.
  iterate 7
    split
    case isTrue => decide
  split
  case isTrue control =>
    have mark : IsPrintable ['\\', 'u'] := by
      decide
    exact mark.append (isPrintable_hexadecimal control)
  case isFalse printable =>
    intro other member
    obtain rfl := List.mem_singleton.mp member
    exact Nat.le_of_not_lt printable

theorem isPrintable_writeText
    (text : Text) :
    IsPrintable (writeText text) := by
  have escaped : IsPrintable (text.flatMap escapeChar) := by
    intro c member
    obtain ⟨original, _, inEscape⟩ := List.mem_flatMap.mp member
    exact isPrintable_escapeChar original c inEscape
  exact .enclosed (by decide) escaped (by decide)

/-- A member of an object: its key, a colon and a space, and its value. -/
theorem isPrintable_member
    (key : Text)
    {written : Text}
    (printable : IsPrintable written) :
    IsPrintable (writeText key ++ ": ".toList ++ written) :=
  ((isPrintable_writeText key).append (by decide)).append printable

mutual

/-- What is written of a value without fractions has no control characters in it. -/
theorem isPrintable_write
    (value : Value)
    (integral : value.isIntegral = true) :
    IsPrintable value.write := by
  match value with
  | .null => decide
  | .bool true => decide
  | .bool false => decide
  | .int number => exact (isPlain_decimal number).isPrintable
  | .number _ => cases integral
  | .text text => exact isPrintable_writeText text
  | .list items =>
      exact .enclosed (by decide) (isPrintable_writeItems items integral) (by decide)
  | .object members =>
      exact .enclosed (by decide) (isPrintable_writeMembers members integral) (by decide)

theorem isPrintable_writeItems
    (items : List Value)
    (integral : Value.areIntegral items = true) :
    IsPrintable (Value.writeItems items) := by
  match items with
  | [] => decide
  | [item] => exact isPrintable_write item (Bool.and_eq_true_iff.mp integral).1
  | item :: next :: later =>
      obtain ⟨itemIntegral, laterIntegral⟩ := Bool.and_eq_true_iff.mp integral
      have first := isPrintable_write item itemIntegral
      have others := isPrintable_writeItems (next :: later) laterIntegral
      exact (first.append (by decide)).append others

theorem isPrintable_writeMembers
    (members : List (Text × Value))
    (integral : Value.membersIntegral members = true) :
    IsPrintable (Value.writeMembers members) := by
  match members with
  | [] => decide
  | [(key, value)] =>
      have valueIntegral := (Bool.and_eq_true_iff.mp integral).1
      exact isPrintable_member key (isPrintable_write value valueIntegral)
  | (key, value) :: next :: later =>
      obtain ⟨valueIntegral, laterIntegral⟩ := Bool.and_eq_true_iff.mp integral
      have first := isPrintable_member key (isPrintable_write value valueIntegral)
      have others := isPrintable_writeMembers (next :: later) laterIntegral
      exact (first.append (by decide)).append others

end

/-- The reader stops right behind what was written of a value. -/
theorem readValue_write
    {value : Value}
    (integral : value.isIntegral = true) :
    readValue (2 * value.write.length + 2) value.write = some (value, []) := by
  have reads : ReadsAs value.write value := by
    rw [← layout_oneLine 0 value]
    exact readsAs_layout 0 value integral
  have read := reads.reads endsNumber_nil (Nat.le_add_right (2 * value.write.length) 2)
  rwa [List.append_nil] at read

/-- Values without fractions that are written in the same way are the same. -/
theorem write_injective
    {first second : Value}
    (firstIntegral : first.isIntegral = true)
    (secondIntegral : second.isIntegral = true)
    (same : first.write = second.write) :
    first = second := by
  have read : some first = some second := by
    rw [← read?_write first firstIntegral, same, read?_write second secondIntegral]
  exact Option.some.inj read

/--
The filter for JSON writes every value without fractions, however deep, as a text without
control characters. A strict reader takes this text for the value, with nothing left over,
and no other such value is written in the same way.
-/
theorem jsonString_faithful
    {value : Value}
    (integral : value.isIntegral = true) :
    ∃ text,
      Template.Filter.jsonString.applyToValue value = .ok text ∧
        IsPrintable text ∧
          read? text = some value ∧
            readValue (2 * text.length + 2) text = some (value, []) ∧
              ∀ other : Value,
                other.isIntegral = true →
                Template.Filter.jsonString.applyToValue other = .ok text →
                other = value := by
  refine
    ⟨value.write, rfl, isPrintable_write value integral, read?_write value integral,
      readValue_write integral, ?_⟩
  intro other otherIntegral written
  exact write_injective otherIntegral integral (Except.ok.inj written)

/-- A value with nested and empty parts, a long integer, and characters to be escaped. -/
def nestedValue : Value :=
  .object
    [("\"k\x01".toList,
      .list [.int (-90071992547409930), .text "\x1f\n\\é😀".toList, .object [], .list [],
        .null]),
     ([], .bool false)]

/-- Such a value is written on one line and read back. -/
theorem jsonString_faithful_nested :
    nestedValue.isIntegral = true ∧
      Template.Filter.jsonString.applyToValue nestedValue =
          .ok
            ("\x7b\"\\\"k\\u0001\": [-90071992547409930, \"\\u001f\\n\\\\é😀\", \x7b\x7d".toList ++
              ", [], null], \"\": false\x7d".toList) ∧
        IsPrintable nestedValue.write ∧ read? nestedValue.write = some nestedValue := by
  have integral : nestedValue.isIntegral = true := by
    decide
  obtain ⟨text, written, printable, read, _⟩ := jsonString_faithful integral
  obtain rfl : nestedValue.write = text := Except.ok.inj written
  exact ⟨integral, by rfl, printable, read⟩

end ModSkeleton.Json
