import ModSkeleton.Text.Basic

namespace ModSkeleton.Text

/-!
# UTF-8

Text as bytes. Decoding accepts the shortest encoding of every character and
nothing else, and `decode?_encode` says that it gives back what was encoded.
-/

/-- Bytes as they are stored or sent. -/
abbrev Bytes := List UInt8

/-- The UTF-8 encoding of a text. -/
def encode
    (text : Text) :
    Bytes :=
  text.flatMap String.utf8EncodeChar

/-- The payload of a byte that continues a character. -/
def continuation?
    (byte : UInt8) :
    Option Nat :=
  if 0x80 ≤ byte.toNat && byte.toNat < 0xC0 then some (byte.toNat - 0x80) else none

/-- The character with a code that is not below a bound, unless there is none. -/
def charFrom?
    (least code : Nat) :
    Option Char :=
  if least ≤ code && code.isValidChar then some (Char.ofNat code) else none

/-- The text that bytes encode, if they are well formed. -/
def decode? : Bytes → Option Text
  | [] => some []
  | first :: rest =>
      let lead := first.toNat
      if lead < 0x80 then (decode? rest).map (Char.ofNat lead :: ·)
      else
        match rest with
        | [] => none
        | second :: rest =>
            match continuation? second with
            | none => none
            | some b =>
                if 0xC0 ≤ lead && lead < 0xE0 then
                  match charFrom? 0x80 ((lead - 0xC0) * 64 + b) with
                  | none => none
                  | some c => (decode? rest).map (c :: ·)
                else
                  match rest with
                  | [] => none
                  | third :: rest =>
                      match continuation? third with
                      | none => none
                      | some d =>
                          if 0xE0 ≤ lead && lead < 0xF0 then
                            match charFrom? 0x800 (((lead - 0xE0) * 64 + b) * 64 + d) with
                            | none => none
                            | some c => (decode? rest).map (c :: ·)
                          else
                            match rest with
                            | [] => none
                            | fourth :: rest =>
                                match continuation? fourth with
                                | none => none
                                | some e =>
                                    if 0xF0 ≤ lead && lead < 0xF8 then
                                      match charFrom? 0x10000
                                          ((((lead - 0xF0) * 64 + b) * 64 + d) * 64 + e) with
                                      | none => none
                                      | some c => (decode? rest).map (c :: ·)
                                    else
                                      none

/-- Bytes as text; what is no text is taken byte by byte. -/
def ofBytes
    (bytes : Bytes) :
    Text :=
  (decode? bytes).getD (bytes.map fun byte => Char.ofNat byte.toNat)

/-- A character is found by its code unless a larger code is asked for. -/
theorem charFrom?_toNat
    {least : Nat}
    {c : Char}
    (reached : least ≤ c.toNat) :
    charFrom? least c.toNat = some c := by
  have valid : c.toNat.isValidChar := c.valid
  simp [charFrom?, reached, valid]

/-- A number below 256 is the value of its byte. -/
theorem toNat_ofNat_byte
    {value : Nat}
    (small : value < 256) :
    (UInt8.ofNat value).toNat = value := by
  simp [Nat.mod_eq_of_lt small]

/-- The payload of a byte that continues a character is read back. -/
theorem continuation?_ofNat
    (code : Nat) :
    continuation? (UInt8.ofNat (code % 0x40 + 0x80)) = some (code % 0x40) := by
  have small : code % 0x40 + 0x80 < 0xC0 := by omega
  unfold continuation?
  rw [toNat_ofNat_byte (by omega)]
  simp [small]

/-- Decoding takes the encoding of one character off the front. -/
theorem decode?_utf8EncodeChar_append
    (c : Char)
    (rest : Bytes) :
    decode? (String.utf8EncodeChar c ++ rest) = (decode? rest).map (c :: ·) := by
  have bound : c.toNat < 0x110000 := by
    rcases c.valid with low | ⟨_, high⟩
    · exact Nat.lt_trans low (by decide)
    · exact high
  unfold String.utf8EncodeChar
  rw [show c.val.toNat = c.toNat from rfl]
  -- One case for each length of an encoding, told apart by the first byte.
  by_cases one : c.toNat ≤ 0x7F
  · have lead : c.toNat < 0x80 := by omega
    simp only [one, if_true, List.cons_append, List.nil_append]
    rw [decode?.eq_def]
    simp only [toNat_ofNat_byte (show c.toNat < 256 by omega), lead, if_true]
    simp
  · by_cases two : c.toNat ≤ 0x7FF
    · have value : c.toNat / 64 % 0x20 * 64 + c.toNat % 0x40 = c.toNat := by omega
      have lead : ¬ c.toNat / 64 % 0x20 + 0xC0 < 0x80 := by omega
      have kind : c.toNat / 64 % 0x20 + 0xC0 < 0xE0 := by omega
      simp only [one, two, if_true, if_false, List.cons_append, List.nil_append]
      rw [decode?.eq_def]
      simp only [toNat_ofNat_byte (show c.toNat / 64 % 0x20 + 0xC0 < 256 by omega), lead,
        if_false, continuation?_ofNat, Nat.add_sub_cancel, value]
      simp [kind, charFrom?_toNat (show 0x80 ≤ c.toNat by omega)]
    · by_cases three : c.toNat ≤ 0xFFFF
      · have value :
            (c.toNat / 4096 % 0x10 * 64 + c.toNat / 64 % 0x40) * 64 + c.toNat % 0x40 =
              c.toNat := by omega
        have lead : ¬ c.toNat / 4096 % 0x10 + 0xE0 < 0x80 := by omega
        have notTwo : ¬ c.toNat / 4096 % 0x10 + 0xE0 < 0xE0 := by omega
        have kind : c.toNat / 4096 % 0x10 + 0xE0 < 0xF0 := by omega
        simp only [one, two, three, if_true, if_false, List.cons_append, List.nil_append]
        rw [decode?.eq_def]
        simp only [toNat_ofNat_byte (show c.toNat / 4096 % 0x10 + 0xE0 < 256 by omega), lead,
          if_false, continuation?_ofNat, Nat.add_sub_cancel, value]
        simp [notTwo, kind, charFrom?_toNat (show 0x800 ≤ c.toNat by omega)]
      · have value :
            ((c.toNat / 262144 % 0x08 * 64 + c.toNat / 4096 % 0x40) * 64 +
                c.toNat / 64 % 0x40) * 64 + c.toNat % 0x40 = c.toNat := by omega
        have lead : ¬ c.toNat / 262144 % 0x08 + 0xF0 < 0x80 := by omega
        have notTwo : ¬ c.toNat / 262144 % 0x08 + 0xF0 < 0xE0 := by omega
        have notThree : ¬ c.toNat / 262144 % 0x08 + 0xF0 < 0xF0 := by omega
        have kind : c.toNat / 262144 % 0x08 + 0xF0 < 0xF8 := by omega
        simp only [one, two, three, if_false, List.cons_append, List.nil_append]
        rw [decode?.eq_def]
        simp only [toNat_ofNat_byte (show c.toNat / 262144 % 0x08 + 0xF0 < 256 by omega), lead,
          if_false, continuation?_ofNat, Nat.add_sub_cancel, value]
        simp [notTwo, notThree, kind, charFrom?_toNat (show 0x10000 ≤ c.toNat by omega)]

/-- Decoding gives back every text that was encoded. -/
@[simp]
theorem decode?_encode
    (text : Text) :
    decode? (encode text) = some text := by
  induction text with
  | nil => rfl
  | cons c rest inductionHypothesis =>
      have shape : encode (c :: rest) = String.utf8EncodeChar c ++ encode rest := rfl
      rw [shape, decode?_utf8EncodeChar_append, inductionHypothesis]
      rfl

/-- Characters of every length survive encoding and decoding. -/
example :
    decode? (encode "aé€😀".toList) = some "aé€😀".toList := by
  decide +kernel

end ModSkeleton.Text
