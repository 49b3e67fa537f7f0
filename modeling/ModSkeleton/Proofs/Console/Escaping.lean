import Mathlib.Data.List.TakeDrop
import Mathlib.Data.List.TakeWhile
import ModSkeleton.Console.Message

namespace ModSkeleton.Console

/-!
# Escaped text in markup

`Markup.tags` lists the tags of markup that open or close a style; whether markup
can be printed depends on them alone (`Markup.isOk_renderChunks`). Escaped text has
no such tags, whatever the text, and whatever tag stands behind it
(`Markup.tags_cut_escape`). The only thing that a text can do to a tag behind it is
to end in backslashes and so to make it plain. Hence every message of a run can be
printed.
-/

namespace Markup

/-- What stands between the brackets of a tag. -/
structure IsBody
    (body : Text) :
    Prop where
  start : ∃ c, body.head? = some c ∧ isTagStart c = true
  noOpening : '[' ∉ body
  noClosing : ']' ∉ body

theorem ne_of_isTagStart
    {c : Char}
    (start : isTagStart c = true) :
    c ≠ '[' ∧ c ≠ ']' ∧ c ≠ '\\' := by
  refine ⟨?_, ?_, ?_⟩
  all_goals
    rintro rfl
    revert start
    decide

/-- Opening and closing brackets. -/
def isBracket
    (c : Char) :
    Bool :=
  c == '[' || c == ']'

/-- A tag is read exactly up to the first bracket, which has to close it. -/
theorem body?_eq_some_iff
    {text body : Text} :
    body? text = some body ↔ IsBody body ∧ ∃ after, text = body ++ ']' :: after := by
  constructor
  · intro read
    cases text with
    | nil => cases read
    | cons c rest =>
        rw [body?, List.span_eq_takeWhile_dropWhile] at read
        split at read
        case isFalse => cases read
        case isTrue isStart =>
          split at read
          case h_2 => cases read
          case h_1 inner after shape =>
            cases read
            obtain ⟨rfl, dropped⟩ := Prod.mk.inj shape
            have split := List.takeWhile_append_dropWhile
              (p := fun c => c != '[' && c != ']') (l := rest)
            rw [dropped] at split
            have isPlain :
                ∀ d ∈ rest.takeWhile fun c => c != '[' && c != ']', d ≠ '[' ∧ d ≠ ']' := by
              intro d member
              simpa using List.mem_takeWhile_imp member
            obtain ⟨notOpening, notClosing, _⟩ := ne_of_isTagStart isStart
            refine ⟨⟨⟨c, rfl, isStart⟩, ?_, ?_⟩, after, by rw [List.cons_append, split]⟩
            · intro member
              rcases List.mem_cons.mp member with same | inner
              · exact notOpening same.symm
              · exact (isPlain _ inner).1 rfl
            · intro member
              rcases List.mem_cons.mp member with same | inner
              · exact notClosing same.symm
              · exact (isPlain _ inner).2 rfl
  · rintro ⟨⟨⟨c, isHead, isStart⟩, noOpening, noClosing⟩, after, rfl⟩
    obtain ⟨inner, rfl⟩ : ∃ inner, body = c :: inner := by
      cases body with
      | nil => cases isHead
      | cons d inner =>
          cases isHead
          exact ⟨inner, rfl⟩
    have isPlain : ∀ d ∈ inner, (d != '[' && d != ']') = true := by
      intro d member
      have notOpening : d ≠ '[' := fun same => noOpening (same ▸ List.mem_cons_of_mem _ member)
      have notClosing : d ≠ ']' := fun same => noClosing (same ▸ List.mem_cons_of_mem _ member)
      simp [notOpening, notClosing]
    rw [List.cons_append, body?, if_pos isStart, List.span_eq_takeWhile_dropWhile,
      List.takeWhile_append_of_pos isPlain, List.dropWhile_append_of_pos isPlain]
    simp

/-- A tag is found exactly where a text starts with backslashes and a tag. -/
theorem tagAt?_eq_some_iff
    {text body : Text}
    {slashes : Nat} :
    tagAt? text = some (slashes, body) ↔
      IsBody body ∧
        ∃ after, text = List.replicate slashes '\\' ++ (written body ++ after) := by
  rw [tagAt?, List.span_eq_takeWhile_dropWhile]
  constructor
  · intro read
    split at read
    case h_2 => cases read
    case h_1 front rest shape =>
      obtain ⟨rfl, dropped⟩ := Prod.mk.inj shape
      obtain ⟨found, bodyRead, same⟩ := Option.map_eq_some_iff.mp read
      cases same
      obtain ⟨isBody, after, rfl⟩ := body?_eq_some_iff.mp bodyRead
      have split := List.takeWhile_append_dropWhile (p := (· == '\\')) (l := text)
      have allSlashes :
          text.takeWhile (· == '\\') =
            List.replicate (text.takeWhile (· == '\\')).length '\\' := by
        refine List.eq_replicate_iff.mpr ⟨rfl, ?_⟩
        intro c member
        simpa using List.mem_takeWhile_imp member
      refine ⟨isBody, after, ?_⟩
      rw [← allSlashes, written, List.cons_append, List.append_assoc, List.singleton_append,
        ← dropped, split]
  · rintro ⟨isBody, after, rfl⟩
    have isSlash : ∀ c ∈ List.replicate slashes '\\', (c == '\\') = true := by
      intro c member
      simpa using (List.mem_replicate.mp member).2
    have bodyRead : body? (body ++ ']' :: after) = some body :=
      body?_eq_some_iff.mpr ⟨isBody, after, rfl⟩
    rw [List.takeWhile_append_of_pos isSlash, List.dropWhile_append_of_pos isSlash]
    simp [written, bodyRead]

theorem tagAt?_tag
    {body : Text}
    (isBody : IsBody body)
    (slashes : Nat)
    (after : Text) :
    tagAt? (List.replicate slashes '\\' ++ (written body ++ after)) = some (slashes, body) :=
  tagAt?_eq_some_iff.mpr ⟨isBody, after, rfl⟩

/-! ### Texts as sequences of tags and plain characters -/

theorem escapeFrom_eq_drop
    (done : Nat)
    (text : Text) :
    escapeFrom done text = escapeFrom 0 (text.drop done) := by
  induction text generalizing done with
  | nil => simp [escapeFrom]
  | cons c rest inductionHypothesis =>
      cases done with
      | zero => rfl
      | succ done =>
          rw [escapeFrom, List.drop_succ_cons]
          exact inductionHypothesis done

theorem Chunk.cut_eq_drop
    (position done : Nat)
    (text : Text) :
    cut position done text = cut (position + done) 0 (text.drop done) := by
  induction text generalizing position done with
  | nil => simp [cut]
  | cons c rest inductionHypothesis =>
      cases done with
      | zero => rfl
      | succ done =>
          rw [cut, List.drop_succ_cons, inductionHypothesis]
          congr 1
          omega

/-- Behind the first character of a tag and its backslashes, this many more are done. -/
theorem drop_tag
    (slashes : Nat)
    (body after : Text)
    {c : Char}
    {rest : Text}
    (shape : List.replicate slashes '\\' ++ (written body ++ after) = c :: rest) :
    rest.drop (slashes + body.length + 1) = after := by
  have whole : (c :: rest).drop (slashes + body.length + 2) = after := by
    rw [← shape, ← List.append_assoc]
    apply List.drop_left'
    simp [written]
    omega
  simpa using whole

theorem exists_cons_of_tag
    (slashes : Nat)
    (body after : Text) :
    ∃ c rest, List.replicate slashes '\\' ++ (written body ++ after) = c :: rest := by
  cases slashes with
  | zero => exact ⟨_, _, rfl⟩
  | succ slashes => exact ⟨_, _, rfl⟩

theorem escapeFrom_tag
    {body : Text}
    (isBody : IsBody body)
    (slashes : Nat)
    (after : Text) :
    escapeFrom 0 (List.replicate slashes '\\' ++ (written body ++ after)) =
      List.replicate (2 * slashes + 1) '\\' ++ (written body ++ escapeFrom 0 after) := by
  have read := tagAt?_tag isBody slashes after
  obtain ⟨c, rest, shape⟩ := exists_cons_of_tag slashes body after
  rw [shape] at read
  rw [shape, escapeFrom, read]
  simp only [escapeFrom_eq_drop (slashes + body.length + 1) rest,
    drop_tag slashes body after shape, List.append_assoc]

theorem escapeFrom_plain
    {c : Char}
    {rest : Text}
    (plain : tagAt? (c :: rest) = none) :
    escapeFrom 0 (c :: rest) = c :: escapeFrom 0 rest := by
  rw [escapeFrom, plain]

theorem Chunk.cut_tag
    {body : Text}
    (isBody : IsBody body)
    (position slashes : Nat)
    (after : Text) :
    cut position 0 (List.replicate slashes '\\' ++ (written body ++ after)) =
      ofTag position slashes body ++ cut (position + slashes + body.length + 2) 0 after := by
  have read := tagAt?_tag isBody slashes after
  obtain ⟨c, rest, shape⟩ := exists_cons_of_tag slashes body after
  have behind :
      position + 1 + (slashes + body.length + 1) = position + slashes + body.length + 2 := by
    omega
  rw [shape] at read
  rw [shape, cut, read]
  simp only [cut_eq_drop _ (slashes + body.length + 1) rest,
    drop_tag slashes body after shape, behind]

theorem Chunk.cut_plain
    {c : Char}
    {rest : Text}
    (plain : tagAt? (c :: rest) = none)
    (position : Nat) :
    cut position 0 (c :: rest) = push c (cut (position + 1) 0 rest) := by
  rw [cut, plain]

/-- Induction over a text by its tags and its plain characters. -/
theorem tag_induction
    {motive : Text → Prop}
    (nil : motive [])
    (tag :
      ∀ slashes body after,
        IsBody body → motive after →
        motive (List.replicate slashes '\\' ++ (written body ++ after)))
    (plain :
      ∀ c rest, tagAt? (c :: rest) = none → motive rest → motive (c :: rest))
    (text : Text) :
    motive text := by
  induction size : text.length using Nat.strongRecOn generalizing text with
  | ind size inductionHypothesis =>
      subst size
      cases text with
      | nil => exact nil
      | cons c rest =>
          cases read : tagAt? (c :: rest) with
          | none =>
              have shorter : rest.length < (c :: rest).length := Nat.lt_succ_self _
              exact plain c rest read (inductionHypothesis rest.length shorter rest rfl)
          | some pair =>
              obtain ⟨isBody, after, shape⟩ := tagAt?_eq_some_iff.mp read
              have shorter : after.length < (c :: rest).length := by
                rw [shape]
                simp only [written, List.length_append, List.length_replicate, List.length_cons]
                omega
              rw [shape]
              exact tag _ _ after isBody (inductionHypothesis after.length shorter after rfl)

/-! ### The tags of escaped text -/

namespace Chunk

/-- The tags among chunks, in order. -/
def tags
    (chunks : List Chunk) :
    List Text :=
  chunks.filterMap fun
    | .tag _ body => some body
    | _ => none

/-- The tags among chunks with the places where they stand. -/
def places
    (chunks : List Chunk) :
    List (Nat × Text) :=
  chunks.filterMap fun
    | .tag position body => some (position, body)
    | _ => none

theorem tags_eq_map_places
    (chunks : List Chunk) :
    tags chunks = (places chunks).map Prod.snd := by
  rw [tags, places, List.map_filterMap]
  congr 1
  funext chunk
  cases chunk <;> rfl

@[simp]
theorem places_push
    (c : Char)
    (chunks : List Chunk) :
    places (push c chunks) = places chunks := by
  cases chunks with
  | nil => rfl
  | cons chunk chunks => cases chunk <;> rfl

@[simp]
theorem places_append
    (first second : List Chunk) :
    places (first ++ second) = places first ++ places second :=
  List.filterMap_append

/-- A tag is one unless an odd number of backslashes stands before it. -/
theorem places_ofTag
    (position slashes : Nat)
    (body : Text) :
    places (ofTag position slashes body) =
      if slashes % 2 = 1 then [] else [(position + slashes, body)] := by
  by_cases odd : slashes % 2 = 1
  all_goals by_cases few : slashes < 2
  all_goals simp [ofTag, places, odd, few]

end Chunk

/-- Escaping adds backslashes only. -/
theorem filter_escapeFrom
    (text : Text) :
    (escapeFrom 0 text).filter (· != '\\') = text.filter (· != '\\') := by
  induction text using tag_induction with
  | nil => rfl
  | tag slashes body after isBody inductionHypothesis =>
      rw [escapeFrom_tag isBody]
      simp [inductionHypothesis]
  | plain c rest plain inductionHypothesis =>
      rw [escapeFrom_plain plain]
      simp [List.filter_cons, inductionHypothesis]

/-- Escaping does not change which bracket comes first. -/
theorem find?_escapeFrom
    (text : Text) :
    (escapeFrom 0 text).find? isBracket = text.find? isBracket := by
  have noSlash :
      (fun c => decide ((c != '\\') = true ∧ isBracket c = true)) = isBracket := by
    funext c
    by_cases isSlash : c = '\\'
    · subst isSlash
      rfl
    · simp [isSlash]
  have same := congrArg (List.find? isBracket) (filter_escapeFrom text)
  rwa [List.find?_filter, List.find?_filter, noSlash] at same

/-- Escaped text starts as the text does, or with a backslash. -/
theorem head?_escapeFrom
    (text : Text) :
    (escapeFrom 0 text).head? = text.head? ∨ (escapeFrom 0 text).head? = some '\\' := by
  cases text with
  | nil => exact .inl rfl
  | cons c rest =>
      cases read : tagAt? (c :: rest) with
      | none =>
          rw [escapeFrom_plain read]
          exact .inl rfl
      | some pair =>
          obtain ⟨isBody, after, shape⟩ := tagAt?_eq_some_iff.mp read
          rw [shape, escapeFrom_tag isBody]
          exact .inr (by simp [List.replicate_succ])

/-- A tag is read from a text exactly by how it starts and by its first bracket. -/
theorem exists_body?_iff
    (text : Text) :
    (∃ body, body? text = some body) ↔
      (∃ c, text.head? = some c ∧ isTagStart c = true) ∧ text.find? isBracket = some ']' := by
  simp only [body?_eq_some_iff]
  constructor
  · rintro ⟨body, ⟨⟨c, isHead, isStart⟩, noOpening, noClosing⟩, after, rfl⟩
    have noBracket : body.find? isBracket = none := by
      refine List.find?_eq_none.mpr ?_
      intro d member
      have notOpening : d ≠ '[' := fun same => noOpening (same ▸ member)
      have notClosing : d ≠ ']' := fun same => noClosing (same ▸ member)
      simp [isBracket, notOpening, notClosing]
    refine ⟨⟨c, by simp [List.head?_append, isHead], isStart⟩, ?_⟩
    rw [List.find?_append, noBracket]
    rfl
  · rintro ⟨⟨c, isHead, isStart⟩, first⟩
    obtain ⟨_, body, after, rfl, noBracket⟩ := List.find?_eq_some_iff_append.mp first
    have different :
        ∀ d ∈ body, d ≠ '[' ∧ d ≠ ']' := by
      intro d member
      simpa [isBracket] using noBracket d member
    refine ⟨body, ⟨⟨c, ?_, isStart⟩, ?_, ?_⟩, after, rfl⟩
    · cases body with
      | nil =>
          cases isHead
          exact ((ne_of_isTagStart isStart).2.1 rfl).elim
      | cons d rest => exact isHead
    · exact fun member => (different _ member).1 rfl
    · exact fun member => (different _ member).2 rfl

/-- What may stand behind escaped text: backslashes, and perhaps a tag at the end. -/
def ending
    (slashes : Nat)
    (closing? : Option Text) :
    Text :=
  List.replicate slashes '\\' ++ closing?.elim [] written

/-- Neither escaping nor what may stand behind it closes a bracket. -/
theorem exists_body?_of_escapeFrom
    {text : Text}
    {slashes : Nat}
    {closing? : Option Text}
    (read : ∃ body, body? (escapeFrom 0 text ++ ending slashes closing?) = some body) :
    ∃ body, body? text = some body := by
  rw [exists_body?_iff] at read ⊢
  obtain ⟨⟨c, isHead, isStart⟩, first⟩ := read
  obtain ⟨notOpening, _, notSlash⟩ := ne_of_isTagStart isStart
  have slashesFirst : (List.replicate slashes '\\').find? isBracket = none := by
    refine List.find?_eq_none.mpr ?_
    intro d member
    rw [(List.mem_replicate.mp member).2]
    decide
  have endingFirst : (ending slashes closing?).find? isBracket ≠ some ']' := by
    rw [ending, List.find?_append, slashesFirst]
    cases closing? with
    | none => simp
    | some body => simp [written, isBracket]
  have endingHead : (ending slashes closing?).head? ≠ some c := by
    cases slashes with
    | succ slashes => simpa [ending, List.replicate_succ] using notSlash.symm
    | zero =>
        cases closing? with
        | none => simp [ending]
        | some body => simpa [ending, written] using notOpening.symm
  rw [List.head?_append] at isHead
  rw [List.find?_append, find?_escapeFrom] at first
  have isTextHead : text.head? = some c := by
    rcases head?_escapeFrom text with same | isSlash
    · rw [same] at isHead
      cases text with
      | nil => exact (endingHead (by simpa using isHead)).elim
      | cons d rest => simpa using isHead
    · rw [isSlash] at isHead
      exact (notSlash (by simpa using isHead.symm)).elim
  refine ⟨⟨c, isTextHead, isStart⟩, ?_⟩
  cases found : text.find? isBracket with
  | none =>
      rw [found] at first
      exact (endingFirst (by simpa using first)).elim
  | some bracket =>
      rw [found] at first
      simpa using first

/-- At an opening bracket, a tag begins exactly if its body can be read. -/
theorem tagAt?_opening
    (rest : Text) :
    tagAt? ('[' :: rest) = (body? rest).map fun body => (0, body) := by
  rw [tagAt?, List.span_eq_takeWhile_dropWhile]
  rfl

/-- A backslash before a tag counts as one more. -/
theorem tagAt?_slash
    {rest body : Text}
    {slashes : Nat}
    (read : tagAt? rest = some (slashes, body)) :
    tagAt? ('\\' :: rest) = some (slashes + 1, body) := by
  obtain ⟨isBody, after, rfl⟩ := tagAt?_eq_some_iff.mp read
  exact tagAt?_tag isBody (slashes + 1) after

/-- Behind escaped text, backslashes and a tag are read as they are. -/
theorem closing_of_ending
    {slashes : Nat}
    {closing? : Option Text}
    (closingBody : ∀ body ∈ closing?, IsBody body)
    {count : Nat}
    {body after : Text}
    (isBody : IsBody body)
    (shape :
      ending slashes closing? = List.replicate count '\\' ++ (written body ++ after)) :
    closing? = some body ∧ after = [] := by
  cases closing? with
  | none =>
      have isOpening : '[' ∈ ending slashes none := by
        rw [shape]
        simp [written]
      simp [ending] at isOpening
  | some closing =>
      have read := tagAt?_tag isBody count after
      have readEnding := tagAt?_tag (closingBody closing rfl) slashes []
      rw [← shape] at read
      rw [List.append_nil] at readEnding
      have same := readEnding.symm.trans read
      cases same
      have behind : written body = written body ++ after := List.append_cancel_left shape
      exact ⟨rfl, by simpa using behind⟩

/--
A tag that begins where a text has none, in the escaped text and what stands
behind it, is the one that stands behind it.
-/
theorem closing_of_plain
    {slashes : Nat}
    {closing? : Option Text}
    (closingBody : ∀ body ∈ closing?, IsBody body)
    {c : Char}
    {rest : Text}
    (plain : tagAt? (c :: rest) = none)
    {count : Nat}
    {body after : Text}
    (isBody : IsBody body)
    (shape :
      c :: (escapeFrom 0 rest ++ ending slashes closing?) =
        List.replicate count '\\' ++ (written body ++ after)) :
    closing? = some body ∧ after = [] := by
  induction rest generalizing c count with
  | nil =>
      cases count with
      | zero =>
          obtain ⟨rfl, inside⟩ := List.cons.inj shape
          obtain ⟨found, read⟩ :=
            exists_body?_of_escapeFrom
              ⟨body, body?_eq_some_iff.mpr ⟨isBody, after, by simpa using inside⟩⟩
          cases read
      | succ count => exact closing_of_ending closingBody isBody (List.cons.inj shape).2
  | cons d rest inductionHypothesis =>
      cases count with
      | zero =>
          obtain ⟨rfl, inside⟩ := List.cons.inj shape
          obtain ⟨found, read⟩ :=
            exists_body?_of_escapeFrom
              ⟨body, body?_eq_some_iff.mpr ⟨isBody, after, by simpa using inside⟩⟩
          rw [tagAt?_opening, read] at plain
          cases plain
      | succ count =>
          obtain ⟨rfl, inside⟩ := List.cons.inj shape
          have restPlain : tagAt? (d :: rest) = none := by
            cases read : tagAt? (d :: rest) with
            | none => rfl
            | some pair =>
                rw [tagAt?_slash read] at plain
                cases plain
          rw [escapeFrom_plain restPlain] at inside
          exact inductionHypothesis restPlain inside

/-- Where there is no opening bracket, there are no tags. -/
theorem places_cut_of_no_opening
    {text : Text}
    (noOpening : '[' ∉ text)
    (position : Nat) :
    Chunk.places (Chunk.cut position 0 text) = [] := by
  induction text generalizing position with
  | nil => rfl
  | cons c rest inductionHypothesis =>
      have plain : tagAt? (c :: rest) = none := by
        cases read : tagAt? (c :: rest) with
        | none => rfl
        | some pair =>
            obtain ⟨_, after, shape⟩ := tagAt?_eq_some_iff.mp read
            rw [shape] at noOpening
            simp [written] at noOpening
      rw [Chunk.cut_plain plain, Chunk.places_push]
      exact inductionHypothesis (fun member => noOpening (List.mem_cons_of_mem _ member)) _

theorem tags_cut_of_no_opening
    {text : Text}
    (noOpening : '[' ∉ text)
    (position : Nat) :
    Chunk.tags (Chunk.cut position 0 text) = [] := by
  rw [Chunk.tags_eq_map_places, places_cut_of_no_opening noOpening]
  rfl

/-- Escaped text has no tags; one behind it is the only one, or made plain by it. -/
theorem places_cut_escapeFrom
    {slashes : Nat}
    {closing? : Option Text}
    (closingBody : ∀ body ∈ closing?, IsBody body)
    (text : Text)
    (position : Nat) :
    Chunk.places (Chunk.cut position 0 (escapeFrom 0 text ++ ending slashes closing?)) = [] ∨
      Chunk.places (Chunk.cut position 0 (escapeFrom 0 text ++ ending slashes closing?)) =
        closing?.toList.map
          (fun body => (position + (escapeFrom 0 text).length + slashes, body)) := by
  induction text using tag_induction generalizing position with
  | nil =>
      cases closing? with
      | none =>
          refine .inl (places_cut_of_no_opening ?_ position)
          simp [escapeFrom, ending]
      | some closing =>
          have cuts := Chunk.cut_tag (closingBody closing rfl) position slashes []
          rw [List.append_nil] at cuts
          rw [escapeFrom, List.nil_append, ending, Option.elim_some, cuts, Chunk.places_append,
            Chunk.places_ofTag]
          split
          case isTrue => exact .inl rfl
          case isFalse => exact .inr rfl
  | tag count body after isBody inductionHypothesis =>
      have cuts :=
        Chunk.cut_tag isBody position (2 * count + 1)
          (escapeFrom 0 after ++ ending slashes closing?)
      have odd : (2 * count + 1) % 2 = 1 := by omega
      have sum :
          ∀ rest : Text,
            (List.replicate (2 * count + 1) '\\' ++ (written body ++ rest)).length =
              2 * count + 1 + body.length + 2 + rest.length := by
        intro rest
        simp [written]
        omega
      have later := inductionHypothesis (position + (2 * count + 1) + body.length + 2)
      rw [escapeFrom_tag isBody, sum, List.append_assoc, List.append_assoc, cuts,
        Chunk.places_append, Chunk.places_ofTag, if_pos odd, List.nil_append]
      simpa only [Nat.add_assoc] using later
  | plain c rest plain inductionHypothesis =>
      rw [escapeFrom_plain plain, List.cons_append]
      cases read : tagAt? (c :: (escapeFrom 0 rest ++ ending slashes closing?)) with
      | none =>
          have later := inductionHypothesis (position + 1)
          rw [Chunk.cut_plain read, Chunk.places_push, List.length_cons]
          simpa only [Nat.add_assoc, Nat.add_comm 1] using later
      | some pair =>
          obtain ⟨isBody, after, shape⟩ := tagAt?_eq_some_iff.mp read
          obtain ⟨rfl, rfl⟩ := closing_of_plain closingBody plain isBody shape
          have cuts := Chunk.cut_tag isBody position pair.1 []
          have sizes := congrArg List.length shape
          simp only [ending, Option.elim_some, List.length_cons, List.length_append,
            List.length_replicate, List.append_nil] at sizes
          have place :
              position + (c :: escapeFrom 0 rest).length + slashes = position + pair.1 := by
            rw [List.length_cons]
            omega
          rw [shape, cuts, Chunk.places_append, Chunk.places_ofTag, place]
          split
          case isTrue => exact .inl rfl
          case isFalse => exact .inr rfl

/-- The same of escaped text as it is printed, with or without a tag behind it. -/
theorem places_cut_escape
    (closing? : Option Text)
    (closingBody : ∀ body ∈ closing?, IsBody body)
    (text : Text)
    (position : Nat) :
    Chunk.places (Chunk.cut position 0 (escape text ++ closing?.elim [] written)) = [] ∨
      Chunk.places (Chunk.cut position 0 (escape text ++ closing?.elim [] written)) =
        closing?.toList.map (fun body => (position + (escape text).length, body)) := by
  by_cases loneSlash : endsInLoneSlash (escapeFrom 0 text) = true
  · have shape :
        escape text ++ closing?.elim [] written = escapeFrom 0 text ++ ending 1 closing? := by
      simp [escape, loneSlash, ending]
    have size : (escape text).length = (escapeFrom 0 text).length + 1 := by
      simp [escape, loneSlash]
    rw [shape, size]
    exact places_cut_escapeFrom closingBody text position
  · have shape :
        escape text ++ closing?.elim [] written = escapeFrom 0 text ++ ending 0 closing? := by
      simp [escape, loneSlash, ending]
    have size : (escape text).length = (escapeFrom 0 text).length + 0 := by
      simp [escape, loneSlash]
    rw [shape, size]
    exact places_cut_escapeFrom closingBody text position

/-- The tags of escaped text, wherever they stand. -/
theorem tags_cut_escape
    (closing? : Option Text)
    (closingBody : ∀ body ∈ closing?, IsBody body)
    (text : Text)
    (position : Nat) :
    Chunk.tags (Chunk.cut position 0 (escape text ++ closing?.elim [] written)) = [] ∨
      Chunk.tags (Chunk.cut position 0 (escape text ++ closing?.elim [] written)) =
        closing?.toList := by
  rw [Chunk.tags_eq_map_places]
  rcases places_cut_escape closing? closingBody text position with none | one
  · rw [none]
    exact .inl rfl
  · rw [one]
    exact .inr (by cases closing? <;> rfl)

/-! ### What can be printed -/

/-- The open styles after some tags, if all of them can be opened and closed. -/
def afterTags :
    List Text → List Text → Option (List Text)
  | styles, [] => some styles
  | styles, body :: bodies =>
      match step styles 0 body with
      | .error _ => none
      | .ok inner => afterTags inner bodies

/-- Where a tag stands has no influence on the styles behind it. -/
theorem toOption_step
    (styles : List Text)
    (position : Nat)
    (body : Text) :
    (step styles position body).toOption = (step styles 0 body).toOption := by
  unfold step
  split
  · split
    · cases styles with
      | nil => rfl
      | cons style outer => rfl
    · unfold close
      split
      · rfl
      · split <;> rfl
  · rfl

theorem isOk_map
    {ε α β : Type}
    (change : α → β)
    (outcome : Except ε α) :
    (outcome.map change).isOk = outcome.isOk := by
  cases outcome <;> rfl

/-- Whether chunks can be printed depends on their tags. -/
theorem isOk_renderChunks
    (styles : List Text)
    (chunks : List Chunk) :
    (renderChunks styles chunks).isOk = (afterTags styles (Chunk.tags chunks)).isSome := by
  induction chunks generalizing styles with
  | nil => rfl
  | cons chunk chunks inductionHypothesis =>
      cases chunk with
      | between text =>
          rw [renderChunks, isOk_map]
          exact inductionHypothesis styles
      | plain text =>
          rw [renderChunks, isOk_map]
          exact inductionHypothesis styles
      | tag position body =>
          have tagFirst : Chunk.tags (.tag position body :: chunks) = body :: Chunk.tags chunks :=
            rfl
          have samePlace := toOption_step styles position body
          rw [renderChunks, tagFirst, afterTags]
          cases here : step styles position body with
          | error error =>
              rw [here] at samePlace
              cases atStart : step styles 0 body with
              | error other => rfl
              | ok inner =>
                  rw [atStart] at samePlace
                  cases samePlace
          | ok inner =>
              rw [here] at samePlace
              cases atStart : step styles 0 body with
              | error other =>
                  rw [atStart] at samePlace
                  cases samePlace
              | ok other =>
                  rw [atStart] at samePlace
                  cases samePlace
                  exact inductionHypothesis inner

theorem exists_render
    {markup : Text}
    (balanced : (afterTags [] (Chunk.tags (Chunk.cut 0 0 markup))).isSome = true) :
    ∃ plain, render markup = .ok plain := by
  rw [← isOk_renderChunks] at balanced
  unfold render
  split
  case isFalse => exact ⟨_, rfl⟩
  case isTrue =>
    cases rendered : renderChunks [] (Chunk.cut 0 0 markup) with
    | ok plain => exact ⟨plain, rfl⟩
    | error error =>
        rw [rendered] at balanced
        cases balanced

/-- A tag in front of markup comes first. -/
theorem places_cut_written
    {body : Text}
    (isBody : IsBody body)
    (position : Nat)
    (after : Text) :
    Chunk.places (Chunk.cut position 0 (written body ++ after)) =
      (position, body) :: Chunk.places (Chunk.cut (position + body.length + 2) 0 after) := by
  have cuts := Chunk.cut_tag isBody position 0 after
  rw [List.replicate_zero, List.nil_append] at cuts
  rw [cuts, Chunk.places_append, Chunk.places_ofTag]
  rfl

theorem tags_cut_written
    {body : Text}
    (isBody : IsBody body)
    (position : Nat)
    (after : Text) :
    Chunk.tags (Chunk.cut position 0 (written body ++ after)) =
      body :: Chunk.tags (Chunk.cut (position + body.length + 2) 0 after) := by
  simp only [Chunk.tags_eq_map_places, places_cut_written isBody, List.map_cons]

/-- Characters that begin no tag do not count. -/
theorem places_cut_plain
    (before : Text)
    (plain : ∀ c ∈ before, c ≠ '\\' ∧ c ≠ '[')
    (position : Nat)
    (after : Text) :
    Chunk.places (Chunk.cut position 0 (before ++ after)) =
      Chunk.places (Chunk.cut (position + before.length) 0 after) := by
  induction before generalizing position with
  | nil => rfl
  | cons c rest inductionHypothesis =>
      obtain ⟨notSlash, notOpening⟩ := plain c List.mem_cons_self
      have noTag : tagAt? (c :: (rest ++ after)) = none := by
        simp [tagAt?, List.span_eq_takeWhile_dropWhile, notSlash, notOpening]
      have later :=
        inductionHypothesis (fun other member => plain other (List.mem_cons_of_mem _ member))
          (position + 1)
      rw [List.cons_append, Chunk.cut_plain noTag, Chunk.places_push, later, List.length_cons,
        Nat.add_assoc, Nat.add_comm 1]

theorem tags_cut_plain
    (before : Text)
    (plain : ∀ c ∈ before, c ≠ '\\' ∧ c ≠ '[')
    (position : Nat)
    (after : Text) :
    Chunk.tags (Chunk.cut position 0 (before ++ after)) =
      Chunk.tags (Chunk.cut (position + before.length) 0 after) := by
  rw [Chunk.tags_eq_map_places, places_cut_plain before plain, Chunk.tags_eq_map_places]

end Markup

open Markup

theorem exists_printMarkup
    {markup : Text}
    (balanced : (afterTags [] (Chunk.tags (Chunk.cut 0 0 markup))).isSome = true) :
    ∃ printed, printMarkup markup = .ok printed := by
  obtain ⟨plain, rendered⟩ := exists_render balanced
  exact ⟨_, by rw [printMarkup, rendered]⟩

/-- Any text can be printed in a style that its tags open and close. -/
theorem exists_printMarkup_styled
    (style : Text)
    (opening : IsBody style)
    (closing : IsBody ('/' :: style))
    (opens : (afterTags [] [style]).isSome = true)
    (closes : (afterTags [] [style, '/' :: style]).isSome = true)
    (message : Text) :
    ∃ printed,
      printMarkup (written style ++ escape message ++ written ('/' :: style)) =
        .ok printed := by
  apply exists_printMarkup
  have closingBody : ∀ body ∈ some ('/' :: style), IsBody body := by
    intro body isClosing
    cases isClosing
    exact closing
  rw [List.append_assoc, tags_cut_written opening]
  rcases tags_cut_escape _ closingBody message _ with none | one
  · rw [Option.elim_some] at none
    rwa [none]
  · rw [Option.elim_some] at one
    rwa [one]

/-- Every warning can be printed. -/
theorem exists_printMarkup_warningMarkup
    (message : Text) :
    ∃ printed, printMarkup (warningMarkup message) = .ok printed :=
  exists_printMarkup_styled "bold yellow".toList
    ⟨⟨'b', rfl, rfl⟩, by decide, by decide⟩ ⟨⟨'/', rfl, rfl⟩, by decide, by decide⟩
    (by decide +kernel) (by decide +kernel) message

/-- Any text can be printed behind a label in a style. -/
theorem exists_printMarkup_labelled
    {before style label : Text}
    (beforePlain : ∀ c ∈ before, c ≠ '\\' ∧ c ≠ '[')
    (opening : IsBody style)
    (labelPlain : ∀ c ∈ label, c ≠ '\\' ∧ c ≠ '[')
    (closing : IsBody ('/' :: style))
    (closes : (afterTags [] [style, '/' :: style]).isSome = true)
    (message : Text) :
    ∃ printed,
      printMarkup
          (before ++ (written style ++ (label ++ (written ('/' :: style) ++
            ([' '] ++ escape message))))) =
        .ok printed := by
  apply exists_printMarkup
  rw [tags_cut_plain before beforePlain, tags_cut_written opening,
    tags_cut_plain label labelPlain, tags_cut_written closing, tags_cut_plain [' '] (by simp)]
  have none := tags_cut_escape none (by simp) message
  simp only [Option.elim_none, List.append_nil, Option.toList_none, or_self] at none
  rwa [none]

/-- Every error can be printed. -/
theorem exists_printMarkup_errorMarkup
    (message : Text) :
    ∃ printed, printMarkup (errorMarkup message) = .ok printed := by
  have nothing : ∀ c ∈ ([] : Text), c ≠ '\\' ∧ c ≠ '[' := by
    simp
  have label : ∀ c ∈ "Error:".toList, c ≠ '\\' ∧ c ≠ '[' := by
    simp
  have opening : IsBody "bold red".toList := ⟨⟨'b', rfl, rfl⟩, by decide, by decide⟩
  have closing : IsBody "/bold red".toList := ⟨⟨'/', rfl, rfl⟩, by decide, by decide⟩
  exact exists_printMarkup_labelled nothing opening label closing (by decide +kernel) message

end ModSkeleton.Console
