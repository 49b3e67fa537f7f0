import ModSkeleton.Proofs.Text.Newlines
import ModSkeleton.Template.Node

namespace ModSkeleton.Template

/-!
# Sources written item by item

An item is a stretch of text that opens no tag, an output of a word, or a directive on a
line of its own with any indentation. A source that is written item by item is cut where it
was put together, its directives take their lines with them, and everything else is kept:
the pieces of the source can be read off the items (`Item.ofSource?_sources`).

The directives have to stand where a line starts. A stretch must not end with a brace
unless it is the last item, since the brace might open a tag together with what follows.
-/

/-! ## Characters of identifiers -/

/-- The codes of all blanks. -/
def blankCodes : List Nat :=
  [0x9, 0xA, 0xB, 0xC, 0xD, 0x1C, 0x1D, 0x1E, 0x1F, 0x20, 0x85, 0xA0, 0x1680, 0x2000, 0x2001,
   0x2002, 0x2003, 0x2004, 0x2005, 0x2006, 0x2007, 0x2008, 0x2009, 0x200A, 0x2028, 0x2029,
   0x202F, 0x205F, 0x3000]

theorem mem_blankCodes
    {c : Char}
    (blank : Text.isBlank c = true) :
    c.toNat ∈ blankCodes := by
  simp only [Text.isBlank, Text.isSpace, Bool.or_eq_true, Bool.and_eq_true, decide_eq_true_eq,
    beq_iff_eq, or_assoc] at blank
  simp only [blankCodes, List.mem_cons, List.not_mem_nil, or_false]
  rcases blank with ⟨_, _⟩ | _ | _ | _ | _ | ⟨_, _⟩ | _ | _ | _ | _ | _ | ⟨_, _⟩ <;> omega

theorem not_isIdentifierChar_of_mem_blankCodes :
    ∀ code ∈ blankCodes, Text.isIdentifierChar (Char.ofNat code) = false := by
  decide +kernel

/-- No blank is part of an identifier. -/
theorem not_isBlank_of_isIdentifierChar
    {c : Char}
    (inIdentifier : Text.isIdentifierChar c = true) :
    Text.isBlank c = false := by
  rw [← Bool.not_eq_true]
  intro blank
  have outside := not_isIdentifierChar_of_mem_blankCodes _ (mem_blankCodes blank)
  rw [Char.ofNat_toNat, inIdentifier] at outside
  cases outside

/-- The signs at which a tag ends or a literal begins, and the carriage return. -/
def tagSigns : Text :=
  ['"', '\'', '\x7d', '%', '#', '\r']

theorem not_mem_tagSigns_of_isIdentifierChar
    {c : Char}
    (inIdentifier : Text.isIdentifierChar c = true) :
    c ∉ tagSigns := by
  have noneInIdentifiers : tagSigns.all (!Text.isIdentifierChar ·) = true := by decide +kernel
  intro isSign
  have outside := List.all_eq_true.mp noneInIdentifiers c isSign
  rw [inIdentifier] at outside
  cases outside

/-! ## Words in a tag -/

/-- A word of a tag. -/
structure Word where
  text : Text
  isIdentifier : Text.isIdentifier text = true
  deriving DecidableEq

namespace Word

theorem isIdentifierChar_of_mem
    (word : Word)
    {c : Char}
    (member : c ∈ word.text) :
    Text.isIdentifierChar c = true := by
  obtain ⟨text, isIdentifier⟩ := word
  cases text with
  | nil => cases member
  | cons first rest =>
      obtain ⟨start, later⟩ := Bool.and_eq_true_iff.mp isIdentifier
      rcases List.mem_cons.mp member with rfl | inRest
      · exact Text.isIdentifierChar_of_isIdentifierStart start
      · exact List.all_eq_true.mp later c inRest

theorem text_ne_nil
    (word : Word) :
    word.text ≠ [] := by
  intro isNil
  have isIdentifier := word.isIdentifier
  rw [isNil] at isIdentifier
  cases isIdentifier

/-- Words with a space before and behind each of them. -/
def padded
    (words : List Word) :
    Text :=
  ' ' :: words.flatMap fun word => word.text ++ [' ']

theorem not_mem_tagSigns_of_mem_padded
    {words : List Word}
    {c : Char}
    (member : c ∈ padded words) :
    c ∉ tagSigns := by
  rcases List.mem_cons.mp member with rfl | inWords
  · decide
  · obtain ⟨word, _, inWord⟩ := List.mem_flatMap.mp inWords
    rcases List.mem_append.mp inWord with inText | isSpace
    · exact not_mem_tagSigns_of_isIdentifierChar (word.isIdentifierChar_of_mem inText)
    · rw [List.mem_singleton.mp isSpace]
      decide

theorem getLast?_padded
    (words : List Word) :
    (padded words).getLast? = some ' ' := by
  induction words with
  | nil => rfl
  | cons word later inductionHypothesis =>
      have split : padded (word :: later) = ' ' :: word.text ++ padded later := by
        rw [padded, padded, List.flatMap_cons, List.append_assoc, List.singleton_append,
          List.cons_append]
      rw [split, List.getLast?_append, inductionHypothesis]
      rfl

end Word

namespace Lexeme

/-- A word is one lexeme if a blank follows. -/
theorem scan_word
    {text : Text}
    (inIdentifier : ∀ c ∈ text, Text.isIdentifierChar c = true)
    (nonempty : text ≠ [])
    (rest : Text) :
    scan none (text ++ ' ' :: rest) = (scan none rest).map (.word text :: ·) := by
  induction text with
  | nil => exact absurd rfl nonempty
  | cons c more inductionHypothesis =>
      have isFirst := inIdentifier c List.mem_cons_self
      have notBlank := not_isBlank_of_isIdentifierChar isFirst
      rw [List.cons_append, scan, if_neg (by rw [notBlank]; decide), if_pos isFirst]
      -- The last character starts the word, whichever lexeme stands behind the space.
      cases more with
      | nil =>
          have spaceIsBlank : scan none (' ' :: rest) = scan none rest := by
            rw [scan, if_pos (by decide)]
          rw [List.nil_append, spaceIsBlank]
          congr 1
          funext lexemes
          have stops : Text.isIdentifierChar ' ' = false := by decide +kernel
          rw [List.head?_cons, Option.map_some, stops, Option.getD_some]
          cases lexemes with
          | nil => rfl
          | cons lexeme later => cases lexeme <;> rfl
      | cons d others =>
          have isSecond := inIdentifier d (List.mem_cons_of_mem c List.mem_cons_self)
          have laterChars : ∀ e ∈ d :: others, Text.isIdentifierChar e = true :=
            fun e member => inIdentifier e (List.mem_cons_of_mem c member)
          rw [inductionHypothesis laterChars (List.cons_ne_nil d others), List.cons_append,
            List.head?_cons, Option.map_some, isSecond, Option.getD_some, Option.map_map]
          rfl

/-- Padded words are one lexeme each. -/
theorem scan_padded
    (words : List Word) :
    scan none (Word.padded words) = some (words.map fun word => .word word.text) := by
  rw [Word.padded, scan, if_pos (by decide)]
  induction words with
  | nil => rfl
  | cons word later inductionHypothesis =>
      rw [List.flatMap_cons, List.append_assoc, List.singleton_append,
        scan_word (fun _ => word.isIdentifierChar_of_mem) word.text_ne_nil,
        inductionHypothesis]
      rfl

end Lexeme

/-- The tokens of padded words are their names. -/
theorem Token.ofContent?_padded
    (words : List Word) :
    ofContent? (Word.padded words) = some (words.map fun word => .name word.text) := by
  rw [ofContent?, Lexeme.scan_padded, Option.bind_some]
  induction words with
  | nil => rfl
  | cons word later inductionHypothesis =>
      rw [List.map_cons, ofLexemes?, inductionHypothesis, ofLexeme?, if_pos word.isIdentifier]
      rfl

/-! ## Items -/

/-- A stretch of text that opens no tag. -/
structure Stretch where
  text : Text
  noReturn : '\r' ∉ text
  opensNothing : ∀ kind : TagKind, ¬kind.opening <:+: text

/-- Whether a stretch opens no tag whatever follows it. -/
def Stretch.IsClosed
    (stretch : Stretch) :
    Prop :=
  stretch.text.getLast? ≠ some '\x7b'

instance decidableIsClosed
    (stretch : Stretch) :
    Decidable stretch.IsClosed :=
  inferInstanceAs (Decidable (stretch.text.getLast? ≠ some '\x7b'))

/-- Spaces and tabulators in front of a directive. -/
structure Indentation where
  text : Text
  isBlank : text.all (fun c => c = ' ' || c = '\t') = true

namespace Indentation

variable
    (indentation : Indentation)

theorem eq_or_eq_of_mem
    {c : Char}
    (member : c ∈ indentation.text) :
    c = ' ' ∨ c = '\t' := by
  simpa using List.all_eq_true.mp indentation.isBlank c member

theorem not_mem
    {c : Char}
    (notSpace : c ≠ ' ')
    (notTabulator : c ≠ '\t') :
    c ∉ indentation.text := by
  intro member
  rcases indentation.eq_or_eq_of_mem member with isSpace | isTabulator
  · exact notSpace isSpace
  · exact notTabulator isTabulator

theorem allBlank :
    Text.allBlank indentation.text = true := by
  refine List.all_eq_true.mpr ?_
  intro c member
  rcases indentation.eq_or_eq_of_mem member with rfl | rfl <;> rfl

theorem opensNothing
    (kind : TagKind) :
    ¬kind.opening <:+: indentation.text := by
  intro opens
  have brace : '\x7b' ∈ indentation.text := opens.subset List.mem_cons_self
  exact indentation.not_mem (by decide) (by decide) brace

theorem isClosed :
    indentation.text.getLast? ≠ some '\x7b' := by
  intro isBrace
  exact indentation.not_mem (by decide) (by decide) (List.mem_of_getLast? isBrace)

end Indentation

/-- A stretch of text, an output of a word, or a directive on a line of its own. -/
inductive Item where
  | text (stretch : Stretch)
  | output (word : Word)
  | directive (indentation : Indentation) (words : List Word)

namespace Item

/-- The source of an item. -/
def source : Item → Text
  | .text stretch => stretch.text
  | .output word =>
      TagKind.output.opening ++ (Word.padded [word] ++ TagKind.output.closing)
  | .directive indentation words =>
      indentation.text ++
        (TagKind.block.opening ++ (Word.padded words ++ (TagKind.block.closing ++ ['\n'])))

/-- The source of items that stand one after another. -/
def sources
    (items : List Item) :
    Text :=
  items.flatMap source

theorem sources_cons
    (item : Item)
    (items : List Item) :
    sources (item :: items) = item.source ++ sources items :=
  List.flatMap_cons

/-- Whether a line starts behind a text that may itself stand at the start of a line. -/
def startsLine
    (atStart : Bool)
    (text : Text) :
    Bool :=
  match text.getLast? with
  | none => atStart
  | some c => c == '\n'

/--
Items of which each directive stands at the start of a line, and each stretch but the last
item is closed.
-/
def Tidy : Bool → List Item → Prop
  | _, [] => True
  | atStart, .text stretch :: items =>
      (items = [] ∨ stretch.IsClosed) ∧ Tidy (startsLine atStart stretch.text) items
  | _, .output _ :: items => Tidy false items
  | atStart, .directive _ _ :: items => atStart = true ∧ Tidy true items

/-! ## Cutting -/

/-- The text in front of the first tag of items. -/
def leading : List Item → Text
  | [] => []
  | .text stretch :: items => stretch.text ++ leading items
  | .output _ :: _ => []
  | .directive indentation _ :: _ => indentation.text

/-- The segments from the first tag of items on. -/
def following : List Item → List Segment
  | [] => []
  | .text _ :: items => following items
  | .output word :: items =>
      .tag .output (Word.padded [word]) :: .text (leading items) :: following items
  | .directive _ words :: items =>
      .tag .block (Word.padded words) :: .text ('\n' :: leading items) :: following items

end Item

namespace Segment

/-- A character that opens no tag stays in its text. -/
theorem cut_text_cons
    {c : Char}
    {rest : Text}
    (opensNothing : ∀ (kind : TagKind) (after : Text), c :: rest ≠ kind.opening ++ after) :
    cut .text (c :: rest) = keep c (cut .text rest) := by
  rw [cut]
  · rintro after rfl rfl
    exact opensNothing .output after rfl
  · rintro after rfl rfl
    exact opensNothing .block after rfl
  · rintro after rfl rfl
    exact opensNothing .comment after rfl

theorem cut_text_append
    {content rest : Text}
    (opensNothing : ∀ kind : TagKind, ¬kind.opening <:+: content)
    (closed : rest = [] ∨ content.getLast? ≠ some '\x7b')
    {first : Text}
    {later : List Segment}
    (found : cut .text rest = some (.text first :: later)) :
    cut .text (content ++ rest) = some (.text (content ++ first) :: later) := by
  induction content with
  | nil => exact found
  | cons c more inductionHypothesis =>
      have moreOpensNothing : ∀ kind : TagKind, ¬kind.opening <:+: more :=
        fun kind opens => opensNothing kind (opens.trans (List.suffix_cons c more).isInfix)
      have moreClosed : rest = [] ∨ more.getLast? ≠ some '\x7b' := by
        refine closed.imp_right ?_
        intro notBrace isBrace
        rw [List.getLast?_cons, isBrace] at notBrace
        exact notBrace rfl
      -- A delimiter that begins here lies in the stretch, unless the stretch ends with its
      -- brace; that it does not is what closes it.
      have opensNothingHere :
          ∀ (kind : TagKind) (after : Text), c :: (more ++ rest) ≠ kind.opening ++ after := by
        intro kind after same
        rw [TagKind.opening, List.cons_append, List.cons.injEq] at same
        obtain ⟨rfl, sameRest⟩ := same
        cases more with
        | nil =>
            rcases closed with rfl | notBrace
            · cases sameRest
            · exact notBrace rfl
        | cons d others =>
            obtain ⟨rfl, _⟩ := List.cons.inj sameRest
            exact opensNothing kind ⟨[], others, rfl⟩
      rw [List.cons_append, cut_text_cons opensNothingHere,
        inductionHypothesis moreOpensNothing moreClosed]
      rfl

/-- A character that is no sign of a tag stays in its tag. -/
theorem cut_tag_cons
    (kind : TagKind)
    {c : Char}
    (noSign : c ∉ tagSigns)
    (rest : Text) :
    cut (.tag kind) (c :: rest) = keep c (cut (.tag kind) rest) := by
  have different : ∀ sign ∈ tagSigns, c ≠ sign := by
    rintro sign isSign rfl
    exact noSign isSign
  rw [cut]
  · refine if_neg ?_
    rintro ⟨_, isDouble | isSingle⟩
    · exact different '"' (by decide) isDouble
    · exact different '\'' (by decide) isSingle
  · exact fun _ _ isBrace => absurd isBrace (different '\x7d' (by decide))
  · exact fun _ _ isPercent => absurd isPercent (different '%' (by decide))
  · exact fun _ _ isHash => absurd isHash (different '#' (by decide))

theorem cut_tag_append
    (kind : TagKind)
    {body : Text}
    (noSigns : ∀ c ∈ body, c ∉ tagSigns)
    {rest : Text}
    {segments : List Segment}
    (found : cut .text rest = some segments) :
    cut (.tag kind) (body ++ (kind.closing ++ rest)) = some (.tag kind body :: segments) := by
  induction body with
  | nil =>
      have closes :
          cut (.tag kind) (kind.closing ++ rest) = start (.tag kind []) (cut .text rest) := by
        cases kind <;> rfl
      rw [List.nil_append, closes, found]
      rfl
  | cons c more inductionHypothesis =>
      rw [List.cons_append, cut_tag_cons kind (noSigns c List.mem_cons_self),
        inductionHypothesis fun d member => noSigns d (List.mem_cons_of_mem c member)]
      rfl

theorem cut_opening
    (kind : TagKind)
    (rest : Text) :
    cut .text (kind.opening ++ rest) = start (.text []) (cut (.tag kind) rest) := by
  cases kind <;> rfl

/-- A tag with padded words is cut out of the text. -/
theorem cut_tag_padded
    (kind : TagKind)
    (words : List Word)
    {rest : Text}
    {segments : List Segment}
    (found : cut .text rest = some segments) :
    cut .text (kind.opening ++ (Word.padded words ++ (kind.closing ++ rest))) =
      some (.text [] :: .tag kind (Word.padded words) :: segments) := by
  rw [cut_opening, cut_tag_append kind (fun _ => Word.not_mem_tagSigns_of_mem_padded) found]
  rfl

end Segment

namespace Item

/-- Tidy items are cut where they were put together. -/
theorem cut_sources
    {atStart : Bool}
    {items : List Item}
    (tidy : Tidy atStart items) :
    Segment.cut .text (sources items) = some (.text (leading items) :: following items) := by
  induction items generalizing atStart with
  | nil => rfl
  | cons item later inductionHypothesis =>
      rw [sources_cons]
      cases item with
      | text stretch =>
          obtain ⟨closed, laterTidy⟩ := tidy
          have closedHere : sources later = [] ∨ stretch.text.getLast? ≠ some '\x7b' := by
            refine closed.imp_left ?_
            rintro rfl
            rfl
          exact
            Segment.cut_text_append stretch.opensNothing closedHere
              (inductionHypothesis laterTidy)
      | output word =>
          rw [source, List.append_assoc, List.append_assoc]
          exact Segment.cut_tag_padded .output [word] (inductionHypothesis tidy)
      | directive indentation words =>
          have newline : Segment.cut .text ('\n' :: sources later) =
              some (.text ('\n' :: leading later) :: following later) := by
            rw [Segment.cut_text_cons (by rintro kind after ⟨⟩), inductionHypothesis tidy.2]
            rfl
          have tag := Segment.cut_tag_padded .block words newline
          have whole :=
            Segment.cut_text_append indentation.opensNothing (.inr indentation.isClosed) tag
          rw [List.append_nil] at whole
          simp only [source, List.append_assoc, List.singleton_append]
          exact whole

/-- No carriage return is written. -/
theorem return_not_mem_sources
    (items : List Item) :
    '\r' ∉ sources items := by
  intro member
  obtain ⟨item, _, inSource⟩ := List.mem_flatMap.mp member
  have notInTag {kind : TagKind} {words : List Word} :
      '\r' ∉ kind.opening ∧ '\r' ∉ Word.padded words ∧ '\r' ∉ kind.closing := by
    refine ⟨by cases kind <;> decide, ?_, by cases kind <;> decide⟩
    exact fun inWords => Word.not_mem_tagSigns_of_mem_padded inWords (by decide)
  cases item with
  | text stretch => exact stretch.noReturn inSource
  | output word =>
      obtain ⟨notOpening, notWords, notClosing⟩ := @notInTag .output [word]
      simp only [source, List.mem_append, notOpening, notWords, notClosing, or_self] at inSource
  | directive indentation words =>
      obtain ⟨notOpening, notWords, notClosing⟩ := @notInTag .block words
      have notIndentation := indentation.not_mem (c := '\r') (by decide) (by decide)
      simp only [source, List.mem_append, notIndentation, notOpening, notWords, notClosing,
        false_or, List.mem_singleton] at inSource
      exact absurd inSource (by decide)

end Item

/-! ## Settling -/

/-- Padding keeps signs away from the delimiters. -/
theorem Tag.ofBody_padded
    (kind : TagKind)
    (words : List Word) :
    ofBody kind (Word.padded words) = ⟨kind, .usual, Word.padded words, .usual⟩ := by
  have noSignInFront : splitFront (Word.padded words) = (.usual, Word.padded words) := rfl
  have noSignAtEnd : splitBack kind (Word.padded words) = (Word.padded words, .usual) := by
    rw [splitBack, Word.getLast?_padded, if_neg (by decide), if_neg fun isPlus => nomatch isPlus.1]
  simp only [ofBody, noSignInFront, noSignAtEnd]

/-- A settled text that ends where a line starts. -/
def EndsAtLineStart
    (atLineStart : Bool)
    (front : Text) :
    Prop :=
  (front = [] ∧ atLineStart = true) ∨ front.getLast? = some '\n'

/-- The indentation is all that is dropped in front of a directive. -/
theorem Piece.dropIndentation_append
    {atLineStart : Bool}
    {front : Text}
    (ends : EndsAtLineStart atLineStart front)
    (indentation : Indentation) :
    dropIndentation atLineStart (front ++ indentation.text) = front := by
  have noNewline : '\n' ∉ indentation.text := indentation.not_mem (by decide) (by decide)
  have found :
      Text.afterLast '\n' (front ++ indentation.text) = indentation.text ∧
        (atLineStart || (front ++ indentation.text).contains '\n') = true := by
    rcases ends with ⟨rfl, rfl⟩ | isNewline
    · exact ⟨Text.afterLast_of_not_mem noNewline, rfl⟩
    · obtain ⟨before, rfl⟩ := List.getLast?_eq_some_iff.mp isNewline
      rw [List.append_assoc, List.singleton_append]
      refine ⟨Text.afterLast_append_separator _ noNewline, ?_⟩
      simp
  rw [dropIndentation]
  simp only [found.1, found.2, indentation.allBlank, Bool.and_self, if_true]
  rw [List.length_append, Nat.add_sub_cancel, List.take_left]

namespace Item

/-- The pieces of items that stand behind a text. -/
def pieces : Text → List Item → List Piece
  | front, [] => [.text front]
  | front, .text stretch :: items => pieces (front ++ stretch.text) items
  | front, .output word :: items =>
      .text front :: .output (Word.padded [word]) :: pieces [] items
  | front, .directive _ words :: items =>
      .text front :: .block (Word.padded words) :: pieces [] items

/-- Behind a stretch a line starts if it ends with a newline or was started before. -/
theorem endsAtLineStart_append
    {atStart atLineStart : Bool}
    {front : Text}
    (starts : atStart = true → EndsAtLineStart atLineStart front)
    {text : Text}
    (startsBehind : startsLine atStart text = true) :
    EndsAtLineStart atLineStart (front ++ text) := by
  unfold startsLine at startsBehind
  split at startsBehind
  case h_1 isEmpty =>
    rw [List.getLast?_eq_none_iff.mp isEmpty, List.append_nil]
    exact starts startsBehind
  case h_2 c isLast =>
    right
    rw [List.getLast?_append, isLast, eq_of_beq startsBehind]
    rfl

/-- Tidy items settle to their pieces, wherever the text behind an edge starts. -/
theorem ofSegments_items
    {atStart : Bool}
    {items : List Item}
    (tidy : Tidy atStart items)
    {edge : Edge}
    {raw front : Text}
    {atLineStart : Bool}
    (settles : ∀ text, edge.settle (raw ++ text) = (front ++ text, atLineStart))
    (starts : atStart = true → EndsAtLineStart atLineStart front) :
    Piece.ofSegments edge (.text (raw ++ leading items) :: following items) =
      pieces front items := by
  -- What is raw and what is in front differ by the newline that a directive took with it.
  induction items generalizing atStart edge raw front atLineStart with
  | nil =>
      rw [Piece.ofSegments, settles, leading, following, List.append_nil]
      rfl
  | cons item later inductionHypothesis =>
      cases item with
      | text stretch =>
          have settlesBehind :
              ∀ text, edge.settle (raw ++ stretch.text ++ text) =
                (front ++ stretch.text ++ text, atLineStart) := by
            intro text
            rw [List.append_assoc, List.append_assoc, settles]
          have behind :=
            inductionHypothesis tidy.2 settlesBehind (endsAtLineStart_append starts)
          rwa [List.append_assoc] at behind
      | output word =>
          have behind :
              Piece.ofSegments (.tagEnd ⟨.output, .usual, Word.padded [word], .usual⟩)
                  (.text ([] ++ leading later) :: following later) =
                pieces [] later :=
            inductionHypothesis tidy (fun _ => rfl) (fun impossible => nomatch impossible)
          rw [Piece.ofSegments, settles, leading, following, Piece.ofSegments, Piece.nextTag?,
            Tag.ofBody_padded, List.append_nil]
          exact congrArg _ (congrArg _ behind)
      | directive indentation words =>
          have behind :
              Piece.ofSegments (.tagEnd ⟨.block, .usual, Word.padded words, .usual⟩)
                  (.text (['\n'] ++ leading later) :: following later) =
                pieces [] later :=
            inductionHypothesis tidy.2 (fun _ => rfl) (fun _ => .inl ⟨rfl, rfl⟩)
          rw [Piece.ofSegments, settles, leading, following, Piece.ofSegments, Piece.nextTag?,
            Tag.ofBody_padded]
          dsimp only [Piece.settleBefore]
          rw [if_neg (by decide), Piece.dropIndentation_append (starts tidy.1)]
          exact congrArg _ (congrArg _ behind)

/-- The pieces of a source that is written item by item. -/
theorem ofSource?_sources
    {items : List Item}
    (tidy : Tidy true items) :
    Piece.ofSource? (sources items) = some (pieces [] items) := by
  rw [Piece.ofSource?, Segment.ofSource?,
    Text.unifyNewlines_of_not_mem (return_not_mem_sources items), cut_sources tidy,
    Option.map_some]
  have settled :
      Piece.ofSegments .sourceStart (.text ([] ++ leading items) :: following items) =
        pieces [] items :=
    ofSegments_items tidy (fun _ => rfl) (fun _ => .inl ⟨rfl, rfl⟩)
  exact congrArg some settled

end Item

end ModSkeleton.Template
