import ModSkeleton.Text.Blank

namespace ModSkeleton.Template

/-!
# Segments of a template source

A template source is plain text interspersed with tags: outputs between double
braces, blocks between a brace and a percent sign, comments between a brace and
a hash sign. Cutting a source yields segments that alternate between text and
tags, beginning and ending with text. A closing delimiter inside a quoted string
of an output or a block does not close the tag.

`Segment.source` writes a segment back, and `Segment.flatMap_source_of_cut` says
that a source is the concatenation of its segments.
-/

/-- The kinds of tags. -/
inductive TagKind where
  | output
  | block
  | comment
  deriving Repr, DecidableEq

namespace TagKind

/-- The character beside the brace in the delimiters of a kind. -/
def mark : TagKind → Char
  | .output => '\x7b'
  | .block => '%'
  | .comment => '#'

/-- The delimiter that opens a tag. -/
def opening
    (kind : TagKind) :
    Text :=
  ['\x7b', kind.mark]

/-- The delimiter that closes a tag. -/
def closing : TagKind → Text
  | .output => ['\x7d', '\x7d']
  | .block => ['%', '\x7d']
  | .comment => ['#', '\x7d']

end TagKind

/-- A stretch of plain text, or a tag with everything between its delimiters. -/
inductive Segment where
  | text (content : Text)
  | tag (kind : TagKind) (body : Text)
  deriving Repr, DecidableEq

namespace Segment

/-- The source that a segment was cut from. -/
def source : Segment → Text
  | .text content => content
  | .tag kind body => kind.opening ++ body ++ kind.closing

/-- A segment with one more character in front. -/
def push
    (c : Char) :
    Segment → Segment
  | .text content => .text (c :: content)
  | .tag kind body => .tag kind (c :: body)

/-- What the cutter is inside of. -/
inductive Mode where
  | text
  | tag (kind : TagKind)
  | quoted (kind : TagKind) (quote : Char)
  deriving Repr, DecidableEq

/-- Segments whose first one takes one more character in front. -/
def keep
    (c : Char) :
    Option (List Segment) → Option (List Segment)
  | some (segment :: segments) => some (segment.push c :: segments)
  | _ => none

/-- Segments after the beginning of a new one. -/
def start
    (segment : Segment)
    (segments : Option (List Segment)) :
    Option (List Segment) :=
  segments.map (segment :: ·)

/--
The segments of a text that is read in a mode; the first of them is the one the
mode is inside of. There are none if a tag is not closed.
-/
def cut : Mode → Text → Option (List Segment)
  | .text, [] => some [.text []]
  | .text, '\x7b' :: '\x7b' :: rest => start (.text []) (cut (.tag .output) rest)
  | .text, '\x7b' :: '%' :: rest => start (.text []) (cut (.tag .block) rest)
  | .text, '\x7b' :: '#' :: rest => start (.text []) (cut (.tag .comment) rest)
  | .text, c :: rest => keep c (cut .text rest)
  | .tag _, [] => none
  | .tag .output, '\x7d' :: '\x7d' :: rest => start (.tag .output []) (cut .text rest)
  | .tag .block, '%' :: '\x7d' :: rest => start (.tag .block []) (cut .text rest)
  | .tag .comment, '#' :: '\x7d' :: rest => start (.tag .comment []) (cut .text rest)
  | .tag kind, c :: rest =>
      if kind ≠ .comment ∧ (c = '"' ∨ c = '\'') then
        keep c (cut (.quoted kind c) rest)
      else
        keep c (cut (.tag kind) rest)
  | .quoted _ _, [] => none
  | .quoted kind quote, '\\' :: c :: rest =>
      keep '\\' (keep c (cut (.quoted kind quote) rest))
  | .quoted kind quote, c :: rest =>
      if c = quote then keep c (cut (.tag kind) rest)
      else keep c (cut (.quoted kind quote) rest)

/-- The segments of a template source, whose newlines are unified first. -/
def ofSource?
    (source : Text) :
    Option (List Segment) :=
  cut .text (Text.unifyNewlines source)

/-- The kind of tag that a segment is, if it is one. -/
def kind? : Segment → Option TagKind
  | .text _ => none
  | .tag kind _ => some kind

/-- The kind of tag that a mode is inside of, if it is inside of one. -/
def Mode.kind? : Mode → Option TagKind
  | .text => none
  | .tag kind => some kind
  | .quoted kind _ => some kind

/-- What is read before the body of a tag or before a text. -/
def openingOf : Option TagKind → Text
  | none => []
  | some kind => kind.opening

/-- Segments that write a text out again, the first of a given kind. -/
def Spells
    (inside : Option TagKind)
    (text : Text)
    (segments : List Segment) :
    Prop :=
  ∃ first later,
    segments = first :: later ∧ first.kind? = inside ∧
      first.source ++ later.flatMap source = openingOf inside ++ text

/-- A character in front of the first segment stands in front of the text. -/
theorem spells_keep
    {inside : Option TagKind}
    {text : Text}
    {found : Option (List Segment)}
    (spells : ∀ segments, found = some segments → Spells inside text segments)
    (c : Char)
    {segments : List Segment}
    (kept : keep c found = some segments) :
    Spells inside (c :: text) segments := by
  cases found with
  | none => simp [keep] at kept
  | some cutSegments =>
      obtain ⟨first, later, rfl, kind, whole⟩ := spells cutSegments rfl
      simp only [keep, Option.some.injEq] at kept
      subst kept
      refine ⟨first.push c, later, rfl, ?_, ?_⟩
      · cases first <;> exact kind
      · subst kind
        cases first <;>
          simpa [push, source, Segment.kind?, openingOf, TagKind.opening] using whole

/-- A new segment in front of segments that spell the rest. -/
theorem spells_start
    {inside : Option TagKind}
    {text rest : Text}
    {found : Option (List Segment)}
    (spells : ∀ segments, found = some segments → Spells inside rest segments)
    (segment : Segment)
    (whole : segment.source ++ (openingOf inside ++ rest) = openingOf segment.kind? ++ text)
    {segments : List Segment}
    (started : start segment found = some segments) :
    Spells segment.kind? text segments := by
  cases found with
  | none => simp [start] at started
  | some cutSegments =>
      obtain ⟨first, later, rfl, _, spelled⟩ := spells cutSegments rfl
      simp only [start, Option.map_some, Option.some.injEq] at started
      subst started
      refine ⟨segment, first :: later, rfl, rfl, ?_⟩
      rw [List.flatMap_cons, spelled, whole]

/-- Cutting loses nothing: the segments spell what was cut. -/
theorem spells_cut
    (mode : Mode)
    (text : Text)
    {segments : List Segment}
    (found : cut mode text = some segments) :
    Spells mode.kind? text segments := by
  fun_induction cut mode text generalizing segments with
  | case1 =>
      simp only [Option.some.injEq] at found
      exact ⟨.text [], [], found.symm, rfl, rfl⟩
  | case2 rest inductionHypothesis =>
      exact spells_start (fun _ => inductionHypothesis) (.text []) rfl found
  | case3 rest inductionHypothesis =>
      exact spells_start (fun _ => inductionHypothesis) (.text []) rfl found
  | case4 rest inductionHypothesis =>
      exact spells_start (fun _ => inductionHypothesis) (.text []) rfl found
  | case5 c rest _ _ _ inductionHypothesis =>
      exact spells_keep (fun _ => inductionHypothesis) c found
  | case6 => simp at found
  | case7 rest inductionHypothesis =>
      exact spells_start (fun _ => inductionHypothesis) (.tag .output []) rfl found
  | case8 rest inductionHypothesis =>
      exact spells_start (fun _ => inductionHypothesis) (.tag .block []) rfl found
  | case9 rest inductionHypothesis =>
      exact spells_start (fun _ => inductionHypothesis) (.tag .comment []) rfl found
  | case10 kind c rest _ _ _ _ inductionHypothesis =>
      exact spells_keep (fun _ => inductionHypothesis) c found
  | case11 kind c rest _ _ _ _ inductionHypothesis =>
      exact spells_keep (fun _ => inductionHypothesis) c found
  | case12 => simp at found
  | case13 kind quote c rest inductionHypothesis =>
      exact
        spells_keep
          (fun _ kept => spells_keep (fun _ => inductionHypothesis) c kept) '\\' found
  | case14 kind c rest _ inductionHypothesis =>
      exact spells_keep (fun _ => inductionHypothesis) c found
  | case15 kind quote c rest _ _ inductionHypothesis =>
      exact spells_keep (fun _ => inductionHypothesis) c found

/-- The segments of a source, written one after another, are the source. -/
theorem flatMap_source_of_cut
    {text : Text}
    {segments : List Segment}
    (found : cut .text text = some segments) :
    segments.flatMap source = text := by
  obtain ⟨first, later, rfl, _, whole⟩ := spells_cut .text text found
  simpa [Mode.kind?, openingOf] using whole

end Segment

end ModSkeleton.Template
