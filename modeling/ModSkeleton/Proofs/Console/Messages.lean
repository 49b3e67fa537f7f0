import ModSkeleton.Proofs.Console.Balance

namespace ModSkeleton.Console

open Markup

/-!
# Messages as they are printed

The markup of a message is the escaped message in a frame of its own tags. Whatever the
message holds, the markup can be printed, and no tag in it is taken for one but those of
the frame (`prints_messages`). An ordinary message, one without backslashes, colons and
dropped control characters, is printed as it is.
-/

namespace Markup

/-- The tags of markup that open or close a style, with the places where they stand. -/
def activeTags
    (markup : Text) :
    List (Nat × Text) :=
  Chunk.places (Chunk.cut 0 0 markup)

/-- A character that is printed as it is: it escapes nothing, begins no code and is not dropped. -/
structure IsOrdinary
    (c : Char) :
    Prop where
  noSlash : c ≠ '\\'
  noColon : c ≠ ':'
  notDropped : isDropped c = false

instance
    (c : Char) :
    Decidable (IsOrdinary c) :=
  decidable_of_iff (c ≠ '\\' ∧ c ≠ ':' ∧ isDropped c = false)
    ⟨fun ⟨a, b, d⟩ => ⟨a, b, d⟩, fun ⟨a, b, d⟩ => ⟨a, b, d⟩⟩

/-! ### What chunks print -/

/-- Where a tag stands has no influence on what it opens or closes. -/
theorem step_of_step
    {styles inner : List Text}
    {body : Text}
    (atStart : step styles 0 body = .ok inner)
    (position : Nat) :
    step styles position body = .ok inner := by
  have same := toOption_step styles position body
  rw [atStart] at same
  cases here : step styles position body with
  | error error =>
      rw [here] at same
      cases same
  | ok other =>
      rw [here] at same
      cases same
      rfl

/-- A tag that can be opened or closed prints nothing. -/
theorem renderChunks_tag
    {styles inner : List Text}
    {body : Text}
    (atStart : step styles 0 body = .ok inner)
    (position : Nat)
    (chunks : List Chunk) :
    renderChunks styles (.tag position body :: chunks) = renderChunks inner chunks := by
  rw [renderChunks, step_of_step atStart position]

/-- An ordinary character in front of a text is printed in front of it. -/
theorem printed_cons
    {c : Char}
    (ordinary : IsOrdinary c)
    (text : Text) :
    printed (unescapeBrackets (c :: text)) = c :: printed (unescapeBrackets text) := by
  have unescaped : unescapeBrackets (c :: text) = c :: unescapeBrackets text := by
    rw [unescapeBrackets]
    intro rest isSlash
    exact (ordinary.noSlash isSlash).elim
  rw [unescaped, printed, printed, Emoji.replace, Emoji.replaceFrom, if_neg ordinary.noColon]
  simp [ordinary.notDropped, Emoji.replace]

/-- Ordinary characters are printed as they are. -/
theorem printed_of_ordinary
    {text : Text}
    (ordinary : ∀ c ∈ text, IsOrdinary c) :
    printed (unescapeBrackets text) = text := by
  induction text with
  | nil => rfl
  | cons c rest inductionHypothesis =>
      rw [printed_cons (ordinary c List.mem_cons_self),
        inductionHypothesis (fun other member => ordinary other (List.mem_cons_of_mem _ member))]

theorem map_map
    {ε α β γ : Type}
    (outcome : Except ε α)
    (first : α → β)
    (second : β → γ) :
    (outcome.map first).map second = outcome.map fun value => second (first value) := by
  cases outcome <;> rfl

/-- An ordinary character between tags is printed in front of what comes behind it. -/
theorem renderChunks_push
    {c : Char}
    (ordinary : IsOrdinary c)
    (styles : List Text)
    (chunks : List Chunk) :
    renderChunks styles (Chunk.push c chunks) =
      (renderChunks styles chunks).map (c :: ·) := by
  have alone : printed (unescapeBrackets [c]) = [c] := printed_cons ordinary []
  cases chunks with
  | nil =>
      simp only [Chunk.push, renderChunks, alone]
      rfl
  | cons chunk chunks =>
      cases chunk with
      | between text =>
          simp only [Chunk.push, renderChunks, printed_cons ordinary, map_map]
          rfl
      | plain text =>
          rw [Chunk.push, renderChunks.eq_2, alone]
          · rfl
          · simp
      | tag position body =>
          rw [Chunk.push, renderChunks.eq_2, alone]
          · rfl
          · simp

/-- Ordinary characters that begin no tag are printed in front of what comes behind them. -/
theorem renderChunks_cut_plain
    {before : Text}
    (ordinary : ∀ c ∈ before, IsOrdinary c)
    (noOpening : '[' ∉ before)
    (styles : List Text)
    (position : Nat)
    (after : Text) :
    renderChunks styles (Chunk.cut position 0 (before ++ after)) =
      (renderChunks styles (Chunk.cut (position + before.length) 0 after)).map (before ++ ·) := by
  induction before generalizing position with
  | nil =>
      rw [List.nil_append, List.length_nil, Nat.add_zero]
      cases renderChunks styles (Chunk.cut position 0 after) <;> rfl
  | cons c rest inductionHypothesis =>
      have isOrdinary := ordinary c List.mem_cons_self
      have notOpening : c ≠ '[' := fun same => noOpening (same ▸ List.mem_cons_self)
      have noTag : tagAt? (c :: (rest ++ after)) = none := by
        simp [tagAt?, List.span_eq_takeWhile_dropWhile, isOrdinary.noSlash, notOpening]
      have later :=
        inductionHypothesis (fun other member => ordinary other (List.mem_cons_of_mem _ member))
          (fun member => noOpening (List.mem_cons_of_mem _ member)) (position + 1)
      rw [List.cons_append, Chunk.cut_plain noTag, renderChunks_push isOrdinary, later, map_map,
        List.length_cons, Nat.add_assoc, Nat.add_comm 1]
      rfl

/-- A colon before a tag begins no code. -/
theorem renderChunks_cut_colon
    {body : Text}
    (isBody : IsBody body)
    (styles : List Text)
    (position : Nat)
    (after : Text) :
    renderChunks styles (Chunk.cut position 0 (':' :: (written body ++ after))) =
      (renderChunks styles (Chunk.cut (position + 1) 0 (written body ++ after))).map
        (':' :: ·) := by
  have noTag : tagAt? (':' :: (written body ++ after)) = none := by
    simp [tagAt?, List.span_eq_takeWhile_dropWhile]
  have cuts := Chunk.cut_tag isBody (position + 1) 0 after
  rw [List.replicate_zero, List.nil_append] at cuts
  rw [Chunk.cut_plain noTag, cuts]
  rfl

/-! ### What escaped text prints -/

/-- Where no tag stands in a text, none stands in the escaped text and its frame. -/
theorem tagAt?_escaped_of_plain
    {c : Char}
    {rest : Text}
    (noSlash : c ≠ '\\')
    (plain : tagAt? (c :: rest) = none)
    (closing? : Option Text) :
    tagAt? (c :: (escapeFrom 0 rest ++ closing?.elim [] written)) = none := by
  cases read : tagAt? (c :: (escapeFrom 0 rest ++ closing?.elim [] written)) with
  | none => rfl
  | some pair =>
      obtain ⟨count, body⟩ := pair
      obtain ⟨isBody, after, shape⟩ := tagAt?_eq_some_iff.mp read
      cases count with
      | succ count => exact (noSlash (List.cons.inj shape).1).elim
      | zero =>
          obtain ⟨rfl, inside⟩ := List.cons.inj shape
          have readsBody : body? (escapeFrom 0 rest ++ ending 0 closing?) = some body :=
            body?_eq_some_iff.mpr ⟨isBody, after, by simpa [ending] using inside⟩
          obtain ⟨found, foundBody⟩ := exists_body?_of_escapeFrom ⟨body, readsBody⟩
          rw [tagAt?_opening, foundBody] at plain
          cases plain

/-- Escaped ordinary text prints the text in front of what its frame prints. -/
theorem renderChunks_cut_escapeFrom
    {text : Text}
    (ordinary : ∀ c ∈ text, IsOrdinary c)
    (closing? : Option Text)
    (styles : List Text)
    (position : Nat) :
    renderChunks styles
        (Chunk.cut position 0 (escapeFrom 0 text ++ closing?.elim [] written)) =
      (renderChunks styles
          (Chunk.cut (position + (escapeFrom 0 text).length) 0
            (closing?.elim [] written))).map
        (text ++ ·) := by
  induction text using tag_induction generalizing position with
  | nil =>
      rw [escapeFrom, List.nil_append, List.length_nil, Nat.add_zero]
      cases renderChunks styles (Chunk.cut position 0 (closing?.elim [] written)) <;> rfl
  | tag slashes body after isBody inductionHypothesis =>
      obtain rfl : slashes = 0 := by
        cases slashes with
        | zero => rfl
        | succ slashes => exact ((ordinary '\\' (by simp [List.replicate_succ])).noSlash rfl).elim
      rw [List.replicate_zero, List.nil_append] at ordinary
      have ordinaryTag := printed_of_ordinary fun c member =>
        ordinary c (List.mem_append_left after member)
      have cuts :=
        Chunk.cut_tag isBody position 1 (escapeFrom 0 after ++ closing?.elim [] written)
      have later :=
        inductionHypothesis (fun c member => ordinary c (List.mem_append_right _ member))
          (position + 1 + body.length + 2)
      have size :
          position + (List.replicate (2 * 0 + 1) '\\' ++
              (written body ++ escapeFrom 0 after)).length =
            position + 1 + body.length + 2 + (escapeFrom 0 after).length := by
        simp [written]
        omega
      have isPlain : Chunk.ofTag position 1 body = [.plain (written body)] := rfl
      rw [escapeFrom_tag isBody, size, List.append_assoc, List.append_assoc, cuts, isPlain,
        List.singleton_append, renderChunks.eq_3, ordinaryTag, later, map_map]
      simp only [List.replicate_zero, List.nil_append, List.append_assoc]
  | plain c rest plain inductionHypothesis =>
      have isOrdinary := ordinary c List.mem_cons_self
      have noTag := tagAt?_escaped_of_plain isOrdinary.noSlash plain closing?
      have later :=
        inductionHypothesis (fun other member => ordinary other (List.mem_cons_of_mem _ member))
          (position + 1)
      rw [escapeFrom_plain plain, List.cons_append, Chunk.cut_plain noTag,
        renderChunks_push isOrdinary, later, map_map, List.length_cons, Nat.add_assoc,
        Nat.add_comm 1]
      rfl

/-- Escaping does not change the last character. -/
theorem getLast?_escapeFrom
    (text : Text) :
    (escapeFrom 0 text).getLast? = text.getLast? := by
  induction text using tag_induction with
  | nil => rfl
  | tag slashes body after isBody inductionHypothesis =>
      have last :
          ∀ before rest : Text,
            (before ++ (written body ++ rest)).getLast? = rest.getLast?.or (some ']') := by
        intro before rest
        have shape : before ++ written body = before ++ '[' :: body ++ [']'] := by
          simp [written]
        rw [← List.append_assoc, shape, List.getLast?_append, List.getLast?_concat]
      rw [escapeFrom_tag isBody, last, last, inductionHypothesis]
  | plain c rest plain inductionHypothesis =>
      rw [escapeFrom_plain plain, List.getLast?_cons, List.getLast?_cons, inductionHypothesis]

/-- Ordinary text ends in no backslash, so nothing is added at its end. -/
theorem escape_of_ordinary
    {text : Text}
    (ordinary : ∀ c ∈ text, IsOrdinary c) :
    escape text = escapeFrom 0 text := by
  have noSlash : endsInLoneSlash (escapeFrom 0 text) = false := by
    rw [endsInLoneSlash, Bool.and_eq_false_iff]
    refine .inl (Bool.eq_false_iff.mpr ?_)
    intro isSuffix
    obtain ⟨before, shape⟩ := List.isSuffixOf_iff_suffix.mp isSuffix
    have last := getLast?_escapeFrom text
    rw [← shape, List.getLast?_concat] at last
    exact (ordinary '\\' (List.mem_of_getLast? last.symm)).noSlash rfl
  rw [escape]
  simp [noSlash]

theorem render_of_opening
    {markup : Text}
    (opening : '[' ∈ markup) :
    render markup = renderChunks [] (Chunk.cut 0 0 markup) := by
  rw [render, if_pos (by simpa using opening)]

section

variable
    {style : Text}
    (opening : IsBody style)
    (closing : IsBody ('/' :: style))
    {inner : List Text}
    (opens : step [] 0 style = .ok inner)
    (closes : step inner 0 ('/' :: style) = .ok [])

include opening closing opens closes

/-- An ordinary text in a style is printed as it is. -/
theorem render_styled
    {text : Text}
    (ordinary : ∀ c ∈ text, IsOrdinary c) :
    render (written style ++ escape text ++ written ('/' :: style)) = .ok text := by
  have hasOpening : '[' ∈ written style ++ escape text ++ written ('/' :: style) := by
    simp [written]
  have opened := Chunk.cut_tag opening 0 0 (escapeFrom 0 text ++ written ('/' :: style))
  have inside := renderChunks_cut_escapeFrom ordinary (some ('/' :: style)) inner
    (0 + 0 + style.length + 2)
  rw [Option.elim_some] at inside
  have closed := Chunk.cut_tag closing
    (0 + 0 + style.length + 2 + (escapeFrom 0 text).length) 0 []
  rw [List.replicate_zero, List.nil_append] at opened closed
  rw [List.append_nil] at closed
  have openingTag : Chunk.ofTag 0 0 style = [.tag 0 style] := rfl
  have closingTag (position : Nat) :
      Chunk.ofTag position 0 ('/' :: style) = [.tag position ('/' :: style)] := rfl
  rw [render_of_opening hasOpening, escape_of_ordinary ordinary, List.append_assoc, opened,
    openingTag, List.singleton_append, renderChunks_tag opens, inside, closed, closingTag,
    List.singleton_append, renderChunks_tag closes, Chunk.cut, renderChunks]
  exact congrArg Except.ok (List.append_nil text)

/-- A label in a style is printed with its colon, and an ordinary text behind it as it is. -/
theorem render_labelled
    {label : Text}
    (ordinaryLabel : ∀ c ∈ label, IsOrdinary c)
    (noOpening : '[' ∉ label)
    {text : Text}
    (ordinary : ∀ c ∈ text, IsOrdinary c) :
    render
        (written style ++ (label ++ ':' :: (written ('/' :: style) ++ ([' '] ++ escape text)))) =
      .ok (label ++ ':' :: ' ' :: text) := by
  have hasOpening :
      '[' ∈ written style ++
        (label ++ ':' :: (written ('/' :: style) ++ ([' '] ++ escape text))) := by
    simp [written]
  have opened := Chunk.cut_tag opening 0 0
    (label ++ ':' :: (written ('/' :: style) ++ ([' '] ++ escape text)))
  have closed (position : Nat) := Chunk.cut_tag closing position 0 ([' '] ++ escape text)
  have space : ∀ c ∈ [' '], IsOrdinary c := List.forall_mem_singleton.mpr (by decide)
  have behind (position : Nat) :
      renderChunks [] (Chunk.cut position 0 (escape text)) = .ok text := by
    have escaped := renderChunks_cut_escapeFrom ordinary none [] position
    simp only [Option.elim_none, List.append_nil, Chunk.cut, renderChunks] at escaped
    rw [escape_of_ordinary ordinary, escaped]
    exact congrArg Except.ok (List.append_nil text)
  have openingTag : Chunk.ofTag 0 0 style = [.tag 0 style] := rfl
  have closingTag (position : Nat) :
      Chunk.ofTag position 0 ('/' :: style) = [.tag position ('/' :: style)] := rfl
  simp only [List.replicate_zero, List.nil_append] at opened closed
  rw [render_of_opening hasOpening, opened, openingTag, List.singleton_append,
    renderChunks_tag opens, renderChunks_cut_plain ordinaryLabel noOpening,
    renderChunks_cut_colon closing, closed, closingTag, List.singleton_append,
    renderChunks_tag closes, renderChunks_cut_plain space (by decide), behind]
  rfl

end

end Markup

/-- What can be printed on the console was read without error. -/
theorem exists_render_of_printMarkup
    {markup : Text}
    (printable : ∃ printed, printMarkup markup = .ok printed) :
    ∃ plain, render markup = .ok plain := by
  obtain ⟨printed, isPrinted⟩ := printable
  unfold printMarkup at isPrinted
  split at isPrinted
  case h_1 => cases isPrinted
  case h_2 plain rendered => exact ⟨plain, rendered⟩

/--
Markup prints a message inside a frame of tags: it can be printed, whatever the message is;
no other tag than those of the frame opens or closes anything; and an ordinary message is
printed as it is, with what the frame adds.
-/
structure PrintsFramed
    (markup : Text)
    (frame : List (Nat × Text))
    (message shown : Text) :
    Prop where
  succeeds : ∃ plain, render markup = .ok plain
  ownTags : ∀ tag ∈ activeTags markup, tag ∈ frame
  faithful : (∀ c ∈ message, IsOrdinary c) → render markup = .ok shown

/-- The tags around a message that is printed in a style, with the places where they stand. -/
def styleFrame
    (style message : Text) :
    List (Nat × Text) :=
  [(0, style), ((written style ++ escape message).length, '/' :: style)]

/-- A message is printed in a style whose tags open and close it. -/
theorem printsFramed_styled
    {style : Text}
    (opening : IsBody style)
    (closing : IsBody ('/' :: style))
    {inner : List Text}
    (opens : step [] 0 style = .ok inner)
    (closes : step inner 0 ('/' :: style) = .ok [])
    (message : Text) :
    PrintsFramed (written style ++ escape message ++ written ('/' :: style))
      (styleFrame style message) message message := by
  have closingBody : ∀ body ∈ some ('/' :: style), IsBody body := by
    intro body isClosing
    cases isClosing
    exact closing
  have place : (written style ++ escape message).length =
      0 + style.length + 2 + (escape message).length := by
    simp only [written, List.length_append, List.length_cons, List.length_nil]
    omega
  have tags := places_cut_escape (some ('/' :: style)) closingBody message
    (0 + style.length + 2)
  rw [Option.elim_some] at tags
  have onlyOwn :
      ∀ tag ∈ activeTags (written style ++ escape message ++ written ('/' :: style)),
        tag ∈ styleFrame style message := by
    intro tag member
    rw [activeTags, List.append_assoc, places_cut_written opening] at member
    rw [styleFrame, place]
    rcases tags with none | one
    · rw [none] at member
      exact List.mem_cons.mpr (.inl (List.mem_singleton.mp member))
    · rw [one] at member
      exact member
  have printed := exists_printMarkup_styled style opening closing
    (by simp [afterTags, opens]) (by simp [afterTags, opens, closes]) message
  exact
    ⟨exists_render_of_printMarkup printed, onlyOwn,
      fun ordinary => render_styled opening closing opens closes ordinary⟩

/-- The tags around the label of an error. -/
def errorFrame : List (Nat × Text) :=
  [(0, "bold red".toList), (16, "/bold red".toList)]

/-- An error is printed behind a label in a style. -/
theorem printsFramed_error
    (message : Text) :
    PrintsFramed (errorMarkup message) errorFrame message ("Error: ".toList ++ message) := by
  have opening : IsBody "bold red".toList := ⟨⟨'b', rfl, rfl⟩, by decide, by decide⟩
  have closing : IsBody ('/' :: "bold red".toList) := ⟨⟨'/', rfl, rfl⟩, by decide, by decide⟩
  have shape :
      errorMarkup message =
        written "bold red".toList ++ ("Error".toList ++ ':' ::
          (written ('/' :: "bold red".toList) ++ ([' '] ++ escape message))) :=
    rfl
  have label : ∀ c ∈ "Error:".toList, c ≠ '\\' ∧ c ≠ '[' := by
    simp
  have tags := places_cut_escape none (by simp) message
  simp only [Option.elim_none, List.append_nil, Option.toList_none, List.map_nil, or_self]
    at tags
  have onlyOwn : activeTags (errorMarkup message) = errorFrame := by
    have withColon :
        errorMarkup message =
          written "bold red".toList ++ ("Error:".toList ++
            (written ('/' :: "bold red".toList) ++ ([' '] ++ escape message))) :=
      rfl
    rw [activeTags, withColon, places_cut_written opening, places_cut_plain _ label,
      places_cut_written closing, places_cut_plain [' '] (by simp), tags]
    rfl
  refine
    ⟨exists_render_of_printMarkup (exists_printMarkup_errorMarkup message),
      fun tag member => onlyOwn ▸ member, ?_⟩
  intro ordinary
  have opens : step [] 0 "bold red".toList = .ok ["bold red".toList] := by
    decide +kernel
  have closes : step ["bold red".toList] 0 ('/' :: "bold red".toList) = .ok [] := by
    decide +kernel
  have ordinaryLabel : ∀ c ∈ "Error".toList, IsOrdinary c := by
    have each : ("Error".toList.all fun c => decide (IsOrdinary c)) = true := by decide
    simpa only [List.all_eq_true, decide_eq_true_eq] using each
  rw [shape]
  exact render_labelled opening closing opens closes ordinaryLabel (by decide) ordinary

/--
Messages are never taken for markup: the markup of a success, a warning or an error can be
printed, whatever the message is, only the tags around the message or its label open or
close a style, and an ordinary message is printed as it is.
-/
theorem prints_messages
    (message : Text) :
    PrintsFramed (successMarkup message) (styleFrame "bold green".toList message)
        message message ∧
      PrintsFramed (warningMarkup message) (styleFrame "bold yellow".toList message)
          message message ∧
        PrintsFramed (errorMarkup message) errorFrame message
          ("Error: ".toList ++ message) := by
  have success : PrintsFramed (successMarkup message) _ message message :=
    printsFramed_styled
      (⟨⟨'b', rfl, rfl⟩, by decide, by decide⟩ : IsBody "bold green".toList)
      ⟨⟨'/', rfl, rfl⟩, by decide, by decide⟩
      (by decide +kernel : step [] 0 "bold green".toList = .ok ["bold green".toList])
      (by decide +kernel) message
  have warning : PrintsFramed (warningMarkup message) _ message message :=
    printsFramed_styled
      (⟨⟨'b', rfl, rfl⟩, by decide, by decide⟩ : IsBody "bold yellow".toList)
      ⟨⟨'/', rfl, rfl⟩, by decide, by decide⟩
      (by decide +kernel : step [] 0 "bold yellow".toList = .ok ["bold yellow".toList])
      (by decide +kernel) message
  exact ⟨success, warning, printsFramed_error message⟩

/-- Three backslashes at the end of a message make the closing tag plain text. -/
example :
    activeTags (successMarkup "\\\\\\".toList) = [(0, "bold green".toList)] := by
  decide +kernel

end ModSkeleton.Console
