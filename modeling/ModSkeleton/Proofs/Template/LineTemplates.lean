import ModSkeleton.Proofs.Template.Cutting
import ModSkeleton.Proofs.Template.Outline

namespace ModSkeleton.Template

/-!
# Templates made of lines

A template made of lines is a sequence of lines of text with slots for names, and of blocks
that show other such sequences or not. What begins a block, what divides it and what ends it
stand on lines of their own.

Such a template has an obvious meaning: the lines of the branches that are taken, with the
slots filled, and nothing of the lines in between (`LineTemplate.expand`). Rendering gives
just that (`LineTemplate.renderSource_source`), provided that no two of the names are
spellings of one identifier.
-/

/-! ## Names and what they are bound to -/

/-- The words that are no names: the constants, the negation, and the own name. -/
def reservedWords : List Text :=
  ["true".toList, "True".toList, "false".toList, "False".toList, "none".toList, "None".toList,
   Expr.notWord, Builtin.ownName]

/-- A name of a slot or of a test. -/
structure Name extends Word where
  notReserved : text ∉ reservedWords

namespace Name

variable
    (name : Name)

theorem text_ne
    {word : Text}
    (reserved : word ∈ reservedWords) :
    name.text ≠ word := by
  intro same
  exact name.notReserved (same ▸ reserved)

theorem ofWord_text :
    Expr.ofWord name.text = .name name.text := by
  have notSmallTrue : name.text ≠ "true".toList := name.text_ne (by decide)
  have notTrue : name.text ≠ "True".toList := name.text_ne (by decide)
  have notSmallFalse : name.text ≠ "false".toList := name.text_ne (by decide)
  have notFalse : name.text ≠ "False".toList := name.text_ne (by decide)
  have notSmallNone : name.text ≠ "none".toList := name.text_ne (by decide)
  have notNone : name.text ≠ "None".toList := name.text_ne (by decide)
  simp only [Expr.ofWord, notSmallTrue, notTrue, notSmallFalse, notFalse, notSmallNone,
    notNone, decide_false, Bool.or_self, Bool.false_eq_true, if_false]

theorem parse?_text :
    Expr.parse? [.name name.text] = some (.name name.text) := by
  rw [Expr.parse?_word (name.text_ne (by decide)), ofWord_text]

end Name

/-- What a name is bound to: a text, or an answer to a test. -/
inductive Binding where
  | text (content : Text)
  | answer (holds : Bool)

namespace Binding

/-- The value of a binding. -/
def value : Binding → Json.Value
  | .text content => .text content
  | .answer holds => .bool holds

/-- What fills a slot: a text as it is, and the word for an answer. -/
def written : Binding → Text
  | .text content => content
  | .answer true => "True".toList
  | .answer false => "False".toList

/-- Whether a test holds: an answer as it is, and a text unless it is empty. -/
def holds : Binding → Bool
  | .text content => !content.isEmpty
  | .answer holds => holds

theorem display_value
    (binding : Binding) :
    binding.value.display = binding.written := by
  cases binding with
  | text content => rfl
  | answer holds => cases holds <;> rfl

theorem truthy_value
    (binding : Binding) :
    binding.value.truthy = binding.holds := by
  cases binding <;> rfl

end Binding

/-! ## Lines and blocks -/

/-- Text with slots. -/
inductive Passage where
  | text (stretch : Stretch)
  | slot (stretch : Stretch) (closed : stretch.IsClosed) (name : Name) (later : Passage)

namespace Passage

/-- Whether a passage ends with a newline. -/
def EndsLine : Passage → Prop
  | .text stretch => stretch.text.getLast? = some '\n'
  | .slot _ _ _ later => later.EndsLine

/-- The items that a passage is written with. -/
def items : Passage → List Item
  | .text stretch => [.text stretch]
  | .slot stretch _ name later => .text stretch :: .output name.toWord :: later.items

/-- The names of the slots. -/
def names : Passage → List Text
  | .text _ => []
  | .slot _ _ name later => name.text :: later.names

/-- A passage with its slots filled. -/
def expand
    (binding : Text → Binding) :
    Passage → Text
  | .text stretch => stretch.text
  | .slot stretch _ name later =>
      stretch.text ++ ((binding name.text).written ++ later.expand binding)

end Passage

/-- Whole lines, or a block with one branch or with two. -/
inductive Block where
  | lines (passage : Passage) (whole : passage.EndsLine)
  | branch (test : Name) (opening : Indentation) (yes : List Block) (closing : Indentation)
  | choice (test : Name) (opening : Indentation) (yes : List Block) (middle : Indentation)
      (no : List Block) (closing : Indentation)

namespace Block

/-- The line that begins a block. -/
def ifLine
    (indentation : Indentation)
    (test : Name) :
    Item :=
  .directive indentation [⟨"if".toList, by decide +kernel⟩, test.toWord]

/-- The line between two branches. -/
def elseLine
    (indentation : Indentation) :
    Item :=
  .directive indentation [⟨"else".toList, by decide +kernel⟩]

/-- The line that ends a block. -/
def endLine
    (indentation : Indentation) :
    Item :=
  .directive indentation [⟨"endif".toList, by decide +kernel⟩]

mutual

/-- The items that a block is written with. -/
def items : Block → List Item
  | .lines passage _ => passage.items
  | .branch test opening yes closing =>
      ifLine opening test :: (itemsIn yes ++ [endLine closing])
  | .choice test opening yes middle no closing =>
      ifLine opening test :: (itemsIn yes ++ elseLine middle :: (itemsIn no ++ [endLine closing]))

/-- The items that some blocks are written with. -/
def itemsIn : List Block → List Item
  | [] => []
  | block :: blocks => items block ++ itemsIn blocks

end

mutual

/-- The names of a block. -/
def names : Block → List Text
  | .lines passage _ => passage.names
  | .branch test _ yes _ => test.text :: namesIn yes
  | .choice test _ yes _ no _ => test.text :: (namesIn yes ++ namesIn no)

/-- The names of some blocks. -/
def namesIn : List Block → List Text
  | [] => []
  | block :: blocks => names block ++ namesIn blocks

end

mutual

/-- The lines of a block that are shown, with their slots filled. -/
def expand
    (binding : Text → Binding) :
    Block → Text
  | .lines passage _ => passage.expand binding
  | .branch test _ yes _ => if (binding test.text).holds then expandIn binding yes else []
  | .choice test _ yes _ no _ =>
      if (binding test.text).holds then expandIn binding yes else expandIn binding no

/-- The lines of some blocks that are shown, with their slots filled. -/
def expandIn
    (binding : Text → Binding) :
    List Block → Text
  | [] => []
  | block :: blocks => expand binding block ++ expandIn binding blocks

end

end Block

/-- A template made of lines, of which the last may be without a newline. -/
structure LineTemplate where
  blocks : List Block
  last : Passage

namespace LineTemplate

/-- The items that a template is written with. -/
def items
    (template : LineTemplate) :
    List Item :=
  Block.itemsIn template.blocks ++ template.last.items

/-- The source of a template. -/
def source
    (template : LineTemplate) :
    Text :=
  Item.sources template.items

/-- The names of a template. -/
def names
    (template : LineTemplate) :
    List Text :=
  Block.namesIn template.blocks ++ template.last.names

/-- What a template means: the lines that are shown, with their slots filled. -/
def expand
    (binding : Text → Binding)
    (template : LineTemplate) :
    Text :=
  Block.expandIn binding template.blocks ++ template.last.expand binding

end LineTemplate

/-! ## Sources are tidy -/

namespace Passage

theorem tidy_items
    (passage : Passage)
    (atStart : Bool) :
    Item.Tidy atStart passage.items := by
  induction passage generalizing atStart with
  | text stretch => exact ⟨.inl rfl, trivial⟩
  | slot stretch closed name later inductionHypothesis =>
      exact ⟨.inr closed, inductionHypothesis false⟩

/-- Behind whole lines another line starts. -/
theorem tidy_items_append
    {passage : Passage}
    (whole : passage.EndsLine)
    {rest : List Item}
    (restTidy : Item.Tidy true rest)
    (atStart : Bool) :
    Item.Tidy atStart (passage.items ++ rest) := by
  induction passage generalizing atStart with
  | text stretch =>
      have isNewline : stretch.text.getLast? = some '\n' := whole
      have closed : stretch.IsClosed := by
        rw [Stretch.IsClosed, isNewline]
        decide
      have starts : Item.startsLine atStart stretch.text = true := by
        rw [Item.startsLine, isNewline]
        rfl
      refine ⟨.inr closed, ?_⟩
      rwa [starts]
  | slot stretch closed name later inductionHypothesis =>
      exact ⟨.inr closed, inductionHypothesis whole false⟩

end Passage

namespace Block

mutual

theorem tidy_items_append
    (block : Block)
    {rest : List Item}
    (restTidy : Item.Tidy true rest) :
    Item.Tidy true (block.items ++ rest) := by
  match block with
  | .lines passage whole =>
      rw [items]
      exact Passage.tidy_items_append whole restTidy true
  | .branch test opening yes closing =>
      have endTidy : Item.Tidy true ([endLine closing] ++ rest) := ⟨rfl, restTidy⟩
      rw [items, List.cons_append, List.append_assoc]
      exact ⟨rfl, tidy_itemsIn_append yes endTidy⟩
  | .choice test opening yes middle no closing =>
      have endTidy : Item.Tidy true ([endLine closing] ++ rest) := ⟨rfl, restTidy⟩
      have elseTidy :
          Item.Tidy true (elseLine middle :: (itemsIn no ++ [endLine closing] ++ rest)) := by
        rw [List.append_assoc]
        exact ⟨rfl, tidy_itemsIn_append no endTidy⟩
      rw [items, List.cons_append, List.append_assoc]
      exact ⟨rfl, tidy_itemsIn_append yes elseTidy⟩

theorem tidy_itemsIn_append
    (blocks : List Block)
    {rest : List Item}
    (restTidy : Item.Tidy true rest) :
    Item.Tidy true (itemsIn blocks ++ rest) := by
  match blocks with
  | [] =>
      rw [itemsIn]
      exact restTidy
  | block :: later =>
      rw [itemsIn, List.append_assoc]
      exact tidy_items_append block (tidy_itemsIn_append later restTidy)

end

end Block

namespace LineTemplate

theorem tidy_items
    (template : LineTemplate) :
    Item.Tidy true template.items :=
  Block.tidy_itemsIn_append template.blocks (template.last.tidy_items true)

end LineTemplate

/-! ## Nodes -/

/-- Nodes that are complete, and the text behind them that may still go on. -/
structure Draft where
  nodes : List Node
  pending : Text

namespace Draft

/-- The nodes of a draft that is complete. -/
def whole
    (draft : Draft) :
    List Node :=
  draft.nodes ++ [.text draft.pending]

/-- A draft that goes on behind another one, from the text that is pending there. -/
def andThen
    (first : Draft)
    (next : Text → Draft) :
    Draft :=
  let later := next first.pending
  ⟨first.nodes ++ later.nodes, later.pending⟩

end Draft

/-- The draft of a passage behind a text. -/
def Passage.draft
    (front : Text) :
    Passage → Draft
  | .text stretch => ⟨[], front ++ stretch.text⟩
  | .slot stretch _ name later =>
      let rest := later.draft []
      ⟨.text (front ++ stretch.text) :: .output (.name name.text) :: rest.nodes, rest.pending⟩

namespace Block

mutual

/-- The draft of a block behind a text. -/
def draft
    (front : Text) :
    Block → Draft
  | .lines passage _ => passage.draft front
  | .branch test _ yes _ =>
      ⟨[.text front, .choice (.name test.text) (draftIn [] yes).whole []], []⟩
  | .choice test _ yes _ no _ =>
      ⟨[.text front, .choice (.name test.text) (draftIn [] yes).whole (draftIn [] no).whole], []⟩

/-- The draft of some blocks behind a text. -/
def draftIn
    (front : Text) :
    List Block → Draft
  | [] => ⟨[], front⟩
  | block :: blocks => (draft front block).andThen fun pending => draftIn pending blocks

end

end Block

/-- The nodes of a template. -/
def LineTemplate.nodes
    (template : LineTemplate) :
    List Node :=
  ((Block.draftIn [] template.blocks).andThen template.last.draft).whole

/-! ## Sources have these nodes -/

namespace Directive

theorem parse?_if
    (test : Name) :
    parse? [.name "if".toList, .name test.text] = some (.branch (.name test.text)) := by
  have noColon : dropColon [.name test.text] = [.name test.text] := rfl
  rw [parse?, if_pos rfl, noColon, test.parse?_text]
  rfl

end Directive

section

variable
    (frames : List OpenChoice)
    (nodes : List Node)
    (front : Text)
    (rest : List Item)

namespace Node

theorem build_output
    (name : Name) :
    build frames nodes (Item.pieces front (.output name.toWord :: rest)) =
      build frames (nodes ++ [.text front, .output (.name name.text)])
        (Item.pieces [] rest) := by
  have parsed :
      (Token.ofContent? (Word.padded [name.toWord])).bind Expr.parse? =
        some (.name name.text) := by
    rw [Token.ofContent?_padded]
    exact name.parse?_text
  rw [Item.pieces, build, build, parsed]
  dsimp only
  rw [List.append_assoc]
  rfl

/-- The line that begins a block opens a choice. -/
theorem build_ifLine
    (indentation : Indentation)
    (test : Name) :
    build frames nodes (Item.pieces front (Block.ifLine indentation test :: rest)) =
      build (⟨nodes ++ [.text front], .name test.text, none, false⟩ :: frames) []
        (Item.pieces [] rest) := by
  have parsed :
      (Token.ofContent? (Word.padded [⟨"if".toList, by decide +kernel⟩, test.toWord])).bind
          Directive.parse? =
        some (.branch (.name test.text)) := by
    rw [Token.ofContent?_padded]
    exact Directive.parse?_if test
  rw [Block.ifLine, Item.pieces, build, build]
  exact parsed

/-- The line between two branches keeps the first and begins the other. -/
theorem build_elseLine
    (before : List Node)
    (test : Expr)
    (indentation : Indentation) :
    build (⟨before, test, none, false⟩ :: frames) nodes
        (Item.pieces front (Block.elseLine indentation :: rest)) =
      build (⟨before, test, some (nodes ++ [.text front]), false⟩ :: frames) []
        (Item.pieces [] rest) := by
  have parsed :
      (Token.ofContent? (Word.padded [⟨"else".toList, by decide +kernel⟩])).bind
          Directive.parse? =
        some .otherwise := by
    rw [Token.ofContent?_padded]
    rfl
  simp only [Block.elseLine, Item.pieces, build, parsed]

/-- The line that ends a block closes its choice. -/
theorem build_endLine
    (before : List Node)
    (test : Expr)
    (yes : Option (List Node))
    (indentation : Indentation) :
    build (⟨before, test, yes, false⟩ :: frames) nodes
        (Item.pieces front (Block.endLine indentation :: rest)) =
      build frames
        (before ++ [OpenChoice.finish ⟨before, test, yes, false⟩ (nodes ++ [.text front])])
        (Item.pieces [] rest) := by
  have parsed :
      (Token.ofContent? (Word.padded [⟨"endif".toList, by decide +kernel⟩])).bind
          Directive.parse? =
        some .close := by
    rw [Token.ofContent?_padded]
    rfl
  simp only [Block.endLine, Item.pieces, build, parsed]
  rfl

end Node

end

/-- The items of a passage build its draft. -/
theorem Passage.build_items
    (passage : Passage)
    (frames : List OpenChoice)
    (nodes : List Node)
    (front : Text)
    (rest : List Item) :
    Node.build frames nodes (Item.pieces front (passage.items ++ rest)) =
      Node.build frames (nodes ++ (passage.draft front).nodes)
        (Item.pieces (passage.draft front).pending rest) := by
  induction passage generalizing nodes front with
  | text stretch =>
      rw [items, draft, List.append_nil]
      rfl
  | slot stretch closed name later inductionHypothesis =>
      rw [items, List.cons_append, List.cons_append, Item.pieces, Node.build_output,
        inductionHypothesis, draft, List.append_assoc]
      rfl

namespace Block

mutual

/-- The items of a block build its draft, whichever choices are open around it. -/
theorem build_items
    (block : Block)
    (frames : List OpenChoice)
    (nodes : List Node)
    (front : Text)
    (rest : List Item) :
    Node.build frames nodes (Item.pieces front (block.items ++ rest)) =
      Node.build frames (nodes ++ (block.draft front).nodes)
        (Item.pieces (block.draft front).pending rest) := by
  match block with
  | .lines passage _ =>
      rw [items, draft]
      exact passage.build_items frames nodes front rest
  | .branch test opening yes closing =>
      rw [items, List.cons_append, List.append_assoc, List.singleton_append,
        Node.build_ifLine, build_itemsIn yes, List.nil_append, Node.build_endLine, draft,
        List.append_assoc]
      rfl
  | .choice test opening yes middle no closing =>
      -- The branches are built inside the choice that the first line opens, so nothing of
      -- them is pending when it closes.
      rw [items, List.cons_append, List.append_assoc, List.cons_append, List.append_assoc,
        List.singleton_append, Node.build_ifLine, build_itemsIn yes, List.nil_append,
        Node.build_elseLine, build_itemsIn no, List.nil_append, Node.build_endLine, draft,
        List.append_assoc]
      rfl

theorem build_itemsIn
    (blocks : List Block)
    (frames : List OpenChoice)
    (nodes : List Node)
    (front : Text)
    (rest : List Item) :
    Node.build frames nodes (Item.pieces front (itemsIn blocks ++ rest)) =
      Node.build frames (nodes ++ (draftIn front blocks).nodes)
        (Item.pieces (draftIn front blocks).pending rest) := by
  match blocks with
  | [] =>
      rw [itemsIn, draftIn, List.append_nil]
      rfl
  | block :: later =>
      rw [itemsIn, List.append_assoc, build_items block, build_itemsIn later, draftIn,
        Draft.andThen, List.append_assoc]

end

end Block

/-! ## Nodes use the names of slots and tests only -/

namespace Node

theorem unknownFilter?_append
    {first second : List Node}
    (firstKnown : unknownFilter? first = none)
    (secondKnown : unknownFilter? second = none) :
    unknownFilter? (first ++ second) = none := by
  induction first with
  | nil => exact secondKnown
  | cons node later inductionHypothesis =>
      cases node with
      | text _ => exact inductionHypothesis firstKnown
      | choice _ _ _ => exact inductionHypothesis firstKnown
      | output expr =>
          cases exprKnown : expr.unknownFilter? with
          | some name =>
              simp only [unknownFilter?, exprKnown] at firstKnown
              cases firstKnown
          | none =>
              simp only [unknownFilter?, exprKnown] at firstKnown
              simp only [List.cons_append, unknownFilter?, exprKnown]
              exact inductionHypothesis firstKnown

theorem namesIn_append
    (first second : List Node) :
    namesIn (first ++ second) = namesIn first ++ namesIn second := by
  induction first with
  | nil => rfl
  | cons node later inductionHypothesis =>
      rw [List.cons_append, namesIn, namesIn, inductionHypothesis, List.append_assoc]

/-- The names of a text and a choice by a name. -/
theorem namesIn_choice
    (front test : Text)
    (yes no : List Node) :
    namesIn [.text front, .choice (.name test) yes no] = test :: (namesIn yes ++ namesIn no) := by
  simp only [namesIn, names, Expr.names, List.nil_append, List.append_nil, List.cons_append]

end Node

/-- Nodes with given names, in which no filter is missing. -/
structure Draft.Uses
    (draft : Draft)
    (names : List Text) :
    Prop where
  names : Node.namesIn draft.nodes = names
  filters : Node.unknownFilter? draft.nodes = none

namespace Draft.Uses

theorem whole
    {draft : Draft}
    {names : List Text}
    (uses : draft.Uses names) :
    Node.namesIn draft.whole = names ∧ Node.unknownFilter? draft.whole = none := by
  refine ⟨?_, Node.unknownFilter?_append uses.filters rfl⟩
  rw [Draft.whole, Node.namesIn_append, uses.names]
  exact List.append_nil names

theorem andThen
    {first : Draft}
    {next : Text → Draft}
    {names more : List Text}
    (uses : first.Uses names)
    (nextUses : ∀ pending, (next pending).Uses more) :
    (first.andThen next).Uses (names ++ more) := by
  have later := nextUses first.pending
  refine ⟨?_, Node.unknownFilter?_append uses.filters later.filters⟩
  rw [Draft.andThen, Node.namesIn_append, uses.names, later.names]

end Draft.Uses

theorem Passage.uses_draft
    (passage : Passage)
    (front : Text) :
    (passage.draft front).Uses passage.names := by
  induction passage generalizing front with
  | text stretch => exact ⟨rfl, rfl⟩
  | slot stretch closed name later inductionHypothesis =>
      have rest := inductionHypothesis []
      exact ⟨congrArg (name.text :: ·) rest.names, rest.filters⟩

namespace Block

mutual

theorem uses_draft
    (block : Block)
    (front : Text) :
    (block.draft front).Uses block.names := by
  match block with
  | .lines passage _ =>
      rw [draft, names]
      exact passage.uses_draft front
  | .branch test _ yes _ =>
      have inYes := (uses_draftIn yes []).whole.1
      rw [draft, names]
      refine ⟨?_, rfl⟩
      rw [Node.namesIn_choice, inYes]
      exact congrArg _ (List.append_nil _)
  | .choice test _ yes _ no _ =>
      have inYes := (uses_draftIn yes []).whole.1
      have inNo := (uses_draftIn no []).whole.1
      rw [draft, names]
      refine ⟨?_, rfl⟩
      rw [Node.namesIn_choice, inYes, inNo]

theorem uses_draftIn
    (blocks : List Block)
    (front : Text) :
    (draftIn front blocks).Uses (namesIn blocks) := by
  match blocks with
  | [] => exact ⟨rfl, rfl⟩
  | block :: later =>
      rw [draftIn, namesIn]
      exact (uses_draft block front).andThen fun pending => uses_draftIn later pending

end

end Block

/-! ## Drafts show what a template means -/

/-- A draft that shows a text, the pending part of which is at its end. -/
def Draft.Shows
    (draft : Draft)
    (scope : Scope)
    (text : Text) :
    Prop :=
  ∃ shown, Node.renderAll scope draft.nodes = .ok shown ∧ shown ++ draft.pending = text

namespace Draft.Shows

variable
    {scope : Scope}

theorem whole
    {draft : Draft}
    {text : Text}
    (shows : draft.Shows scope text) :
    Node.renderAll scope draft.whole = .ok text := by
  obtain ⟨shown, rendered, rfl⟩ := shows
  rw [Draft.whole, Node.renderAll_append, rendered]
  exact congrArg (fun last => Except.ok (shown ++ last)) (List.append_nil draft.pending)

/-- What is pending in front of a draft is shown by that draft. -/
theorem andThen
    {first : Draft}
    {next : Text → Draft}
    {text more : Text}
    (shows : first.Shows scope text)
    (nextShows : ∀ pending, (next pending).Shows scope (pending ++ more)) :
    (first.andThen next).Shows scope (text ++ more) := by
  obtain ⟨shown, rendered, rfl⟩ := shows
  obtain ⟨others, othersRendered, whole⟩ := nextShows first.pending
  refine ⟨shown ++ others, ?_, ?_⟩
  · rw [Draft.andThen, Node.renderAll_append, rendered]
    dsimp only [Except.bind]
    rw [othersRendered]
    rfl
  · rw [Draft.andThen, List.append_assoc, whole, List.append_assoc]

end Draft.Shows

section

variable
    (template? : Option Text)
    {context : Context}
    {binding : Text → Binding}

theorem Expr.print_name
    {word : Text}
    (bound : context.lookup word = some (binding word).value) :
    (Expr.name word).print (.plain template? context) = .ok (binding word).written := by
  rw [print_eq, eval_name bound, ← Binding.display_value]
  rfl

theorem Expr.test_name
    {word : Text}
    (bound : context.lookup word = some (binding word).value) :
    (Expr.name word).test (.plain template? context) = .ok (binding word).holds := by
  rw [test_eq, eval_name bound, ← Binding.truthy_value]
  rfl

/-- A choice by a name, behind a text, shows the branch that the name is bound to choose. -/
theorem Draft.shows_choice
    (front : Text)
    {test : Text}
    (bound : context.lookup test = some (binding test).value)
    {yes no : List Node}
    {text : Text}
    (renders :
      Node.renderAll (.plain template? context) (if (binding test).holds then yes else no) =
        .ok text) :
    Shows ⟨[.text front, .choice (.name test) yes no], []⟩ (.plain template? context)
      (front ++ text) := by
  have chosen :
      Node.render (.plain template? context) (.choice (.name test) yes no) = .ok text := by
    rw [Node.render_choice, Expr.test_name template? bound]
    exact renders
  refine ⟨front ++ text, ?_, List.append_nil _⟩
  rw [Node.renderAll_cons, Node.renderAll_cons, chosen]
  exact congrArg (fun last => Except.ok (front ++ last)) (List.append_nil text)

/-- A passage shows its stretches and what its slots are bound to, behind any text. -/
theorem Passage.shows_draft
    (passage : Passage)
    (binds : ∀ word ∈ passage.names, context.lookup word = some (binding word).value)
    (front : Text) :
    (passage.draft front).Shows (.plain template? context) (front ++ passage.expand binding) := by
  induction passage generalizing front with
  | text stretch => exact ⟨[], rfl, rfl⟩
  | slot stretch closed name later inductionHypothesis =>
      have laterBinds := fun word member => binds word (List.mem_cons_of_mem name.text member)
      obtain ⟨shown, rendered, whole⟩ := inductionHypothesis laterBinds []
      have printed := Expr.print_name template? (binds name.text List.mem_cons_self)
      refine ⟨front ++ stretch.text ++ ((binding name.text).written ++ shown), ?_, ?_⟩
      · rw [draft]
        dsimp only
        rw [Node.renderAll_cons, Node.renderAll_cons, rendered, Node.render, Node.render,
          printed]
        rfl
      · simp only [draft, expand, List.append_assoc, whole, List.nil_append]

namespace Block

mutual

/-- A block shows what it expands to, behind any text. -/
theorem shows_draft
    (block : Block)
    (binds : ∀ word ∈ block.names, context.lookup word = some (binding word).value)
    (front : Text) :
    (block.draft front).Shows (.plain template? context) (front ++ block.expand binding) := by
  match block with
  | .lines passage _ =>
      rw [names] at binds
      rw [draft, expand]
      exact passage.shows_draft template? binds front
  | .branch test _ yes _ =>
      rw [names] at binds
      have bound := binds test.text List.mem_cons_self
      have yesBinds := fun word member => binds word (List.mem_cons_of_mem test.text member)
      have inYes := (shows_draftIn yes yesBinds []).whole
      rw [draft, expand]
      refine Draft.shows_choice template? front bound ?_
      cases (binding test.text).holds with
      | true => exact inYes
      | false => rfl
  | .choice test _ yes _ no _ =>
      rw [names] at binds
      have bound := binds test.text List.mem_cons_self
      have branchBinds := fun word member => binds word (List.mem_cons_of_mem test.text member)
      have yesBinds := fun word member => branchBinds word (List.mem_append_left _ member)
      have noBinds := fun word member => branchBinds word (List.mem_append_right _ member)
      have inYes := (shows_draftIn yes yesBinds []).whole
      have inNo := (shows_draftIn no noBinds []).whole
      rw [draft, expand]
      refine Draft.shows_choice template? front bound ?_
      cases (binding test.text).holds with
      | true => exact inYes
      | false => exact inNo

theorem shows_draftIn
    (blocks : List Block)
    (binds : ∀ word ∈ namesIn blocks, context.lookup word = some (binding word).value)
    (front : Text) :
    (draftIn front blocks).Shows (.plain template? context)
      (front ++ expandIn binding blocks) := by
  match blocks with
  | [] =>
      refine ⟨[], rfl, ?_⟩
      rw [draftIn, expandIn, List.append_nil]
      rfl
  | block :: later =>
      rw [namesIn] at binds
      have blockBinds := fun word member => binds word (List.mem_append_left _ member)
      have laterBinds := fun word member => binds word (List.mem_append_right _ member)
      rw [draftIn, expandIn, ← List.append_assoc]
      exact
        (shows_draft block blockBinds front).andThen fun pending =>
          shows_draftIn later laterBinds pending

end

end Block

end

/-! ## Rendering -/

namespace LineTemplate

theorem build_items
    (template : LineTemplate) :
    Node.build [] [] (Item.pieces [] template.items) = some template.nodes := by
  have last :=
    template.last.build_items [] (Block.draftIn [] template.blocks).nodes
      (Block.draftIn [] template.blocks).pending []
  rw [List.append_nil] at last
  rw [items, Block.build_itemsIn, List.nil_append, last]
  rfl

theorem uses_nodes
    (template : LineTemplate) :
    Node.namesIn template.nodes = template.names ∧
      Node.unknownFilter? template.nodes = none :=
  ((Block.uses_draftIn template.blocks []).andThen template.last.uses_draft).whole

/-- The source of a template is parsed as its nodes. -/
theorem parse_source
    (template : LineTemplate) :
    Node.parse template.source = .ok template.nodes := by
  rw [Node.parse, source, Item.ofSource?_sources template.tidy_items, Option.bind_some,
    build_items]
  dsimp only
  rw [template.uses_nodes.2]

/--
A template made of lines renders to what it means, in every context that binds each of its
names to a text or an answer and leaves the own name alone, if no two of the names are
spellings of one identifier.
-/
theorem renderSource_source
    (template : LineTemplate)
    (apart : NamesApart template.names)
    {context : Context}
    (unowned : context.lookup Builtin.ownName = none)
    {binding : Text → Binding}
    (binds : ∀ word ∈ template.names, context.lookup word = some (binding word).value) :
    renderSource context template.source = .ok (template.expand binding) := by
  have blockBinds := fun word member => binds word (List.mem_append_left _ member)
  have lastBinds := fun word member => binds word (List.mem_append_right _ member)
  have shown :=
    ((Block.shows_draftIn none template.blocks blockBinds []).andThen
      (template.last.shows_draft none lastBinds)).whole
  rw [← template.uses_nodes.1] at apart
  rw [renderSource, renderAs_of_namesApart template.parse_source apart, unowned]
  exact congrArg (Except.mapError TemplateError.render) shown

/-- Lines with a slot, around a block in the second branch of another block. -/
def nested : LineTemplate where
  blocks :=
    [.lines
      (.slot ⟨"# ".toList, by decide, by intro kind; cases kind <;> decide⟩ (by decide)
        ⟨⟨"name".toList, by decide⟩, by decide⟩
        (.text ⟨"\x7d\n".toList, by decide, by intro kind; cases kind <;> decide⟩))
      rfl,
     .choice ⟨⟨"plain".toList, by decide⟩, by decide⟩ ⟨"  ".toList, by decide⟩
      [.lines (.text ⟨"a\n".toList, by decide, by intro kind; cases kind <;> decide⟩) rfl]
      ⟨"\t".toList, by decide⟩
      [.branch ⟨⟨"name".toList, by decide⟩, by decide⟩ ⟨[], by decide⟩
        [.lines (.text ⟨" b\n".toList, by decide, by intro kind; cases kind <;> decide⟩) rfl]
        ⟨" ".toList, by decide⟩]
      ⟨[], by decide⟩]
  last :=
    .slot ⟨[], by decide, by intro kind; cases kind <;> decide⟩ (by decide)
      ⟨⟨"plain".toList, by decide⟩, by decide⟩
      (.text ⟨"\n".toList, by decide, by intro kind; cases kind <;> decide⟩)

/-- A context for the nested template, in which a text looks like a slot. -/
def nestedLinesContext : Context :=
  [("name".toList, .text "{{ plain }}".toList), ("plain".toList, .bool false)]

/-- What the names of the nested template are bound to in this context. -/
def nestedBinding
    (word : Text) :
    Binding :=
  if word = "name".toList then .text "{{ plain }}".toList else .answer false

/-- The source of the nested template, and what it renders to. -/
theorem renderSource_source_nested :
    nested.source =
        ("# {{ name }}\x7d\n  {% if plain %}\na\n\t{% else %}\n{% if name %}\n b\n" ++
          " {% endif %}\n{% endif %}\n{{ plain }}\n").toList ∧
      renderSource nestedLinesContext nested.source =
        .ok "# {{ plain }}\x7d\n b\nFalse\n".toList := by
  have binds :
      ∀ word ∈ nested.names,
        nestedLinesContext.lookup word = some (nestedBinding word).value := by
    have names : nested.names = ["name", "plain", "name", "plain"].map String.toList := by
      decide +kernel
    rw [names]
    simp only [List.map_cons, List.map_nil, List.mem_cons, List.not_mem_nil, or_false]
    rintro word (rfl | rfl | rfl | rfl) <;> rfl
  have expands :
      nested.expand nestedBinding = "# {{ plain }}\x7d\n b\nFalse\n".toList := by
    decide +kernel
  refine ⟨by decide +kernel, ?_⟩
  rw [renderSource_source nested (by decide +kernel) rfl binds, expands]

/-- A line with slots for two spellings of one identifier. -/
def spelledTwice : LineTemplate where
  blocks := []
  last :=
    .slot ⟨[], by decide, by intro kind; cases kind <;> decide⟩ (by decide)
      ⟨⟨['ª'], by decide⟩, by decide⟩
      (.slot ⟨[], by decide, by intro kind; cases kind <;> decide⟩ (by decide)
        ⟨⟨['a'], by decide⟩, by decide⟩
        (.text ⟨['\n'], by decide, by intro kind; cases kind <;> decide⟩))

/-- What the two spellings are bound to. -/
def spelledTwiceBinding
    (word : Text) :
    Binding :=
  .text (if word = ['a'] then ['2'] else ['1'])

/--
Both conditions are needed. Of two spellings of one identifier, the second decides on what
fills the slots of both. A context that binds the own name is refused.
-/
theorem renderSource_source_conditions :
    (¬∀ (template : LineTemplate) (context : Context) (binding : Text → Binding),
        context.lookup Builtin.ownName = none →
        (∀ word ∈ template.names, context.lookup word = some (binding word).value) →
        renderSource context template.source = .ok (template.expand binding)) ∧
      ¬∀ (template : LineTemplate) (context : Context) (binding : Text → Binding),
        NamesApart template.names →
        (∀ word ∈ template.names, context.lookup word = some (binding word).value) →
        renderSource context template.source = .ok (template.expand binding) := by
  refine ⟨?_, ?_⟩
  · intro agrees
    have binds :
        ∀ word ∈ spelledTwice.names,
          List.lookup word [(['ª'], .text ['1']), (['a'], .text ['2'])] =
            some (spelledTwiceBinding word).value := by
      have names : spelledTwice.names = [['ª'], ['a']] := by rfl
      rw [names]
      simp only [List.mem_cons, List.not_mem_nil, or_false]
      rintro word (rfl | rfl) <;> rfl
    have rendered := agrees spelledTwice _ spelledTwiceBinding rfl binds
    rw [renderSource, renderAs_of_parse spelledTwice.parse_source] at rendered
    cases rendered
  · intro agrees
    have rendered :=
      agrees ⟨[], .text ⟨['a'], by decide, by intro kind; cases kind <;> decide⟩⟩
        [(Builtin.ownName, .int 1)] (fun _ => .answer true) (by decide +kernel)
        (fun _ member => nomatch member)
    cases rendered

end LineTemplate

end ModSkeleton.Template
