import ModSkeleton.Proofs.Template.Evaluation

namespace ModSkeleton.Template

/-!
# Outlines of templates

An outline is what remains of a template once its choices are made: literal
texts, and slots that take the text of a name, with more text behind it and
filtered or not. In a context that binds the names of an outline, the template
renders, and the result is the outline with its slots filled.

Outlines are computed from the nodes of a template, so that statements about all
contexts come down to evaluating one template.
-/

/-- A filter that exists. -/
def Filter.isKnown : Filter → Bool
  | .unknown _ => false
  | _ => true

/-- What a filter makes of a text; a filter that does not exist makes nothing of it. -/
def Filter.ofText : Filter → Text → Text
  | .jsonString, text => Json.writeText text
  | .groovyString, text => Groovy.quote text
  | .unknown _, _ => []

/-- A literal text, or a slot for the text of a name. -/
inductive Chunk where
  | text (content : Text)
  | slot (word : Text)
  | filtered (filter : Filter) (word : Text) (suffix : Text)
  deriving Repr, DecidableEq

namespace Chunk

/-- The slot that an expression stands for, if it is simple enough. -/
def ofExpr? : Expr → Option Chunk
  | .name word => some (.slot word)
  | .filtered filter (.name word) => some (.filtered filter word [])
  | .filtered filter (.concat [.name word, .constant (.text suffix)]) =>
      some (.filtered filter word suffix)
  | _ => none

/-- The text of a name in a context. -/
def textOf
    (context : Context)
    (word : Text) :
    Text :=
  ((context.lookup word).map Json.Value.display).getD []

/-- The text of a chunk in a context. -/
def fill
    (context : Context) :
    Chunk → Text
  | .text content => content
  | .slot word => textOf context word
  | .filtered filter word suffix => filter.ofText (textOf context word ++ suffix)

/-- Whether a chunk uses given names only, and filters only those that are texts. -/
def uses
    (texts others : List Text) :
    Chunk → Bool
  | .text _ => true
  | .slot word => texts.contains word || others.contains word
  | .filtered filter word _ => filter.isKnown && texts.contains word

end Chunk

/-- A context that binds some names to texts and others to any values. -/
structure Context.Binds
    (context : Context)
    (texts others : List Text) :
    Prop where
  texts : ∀ word ∈ texts, ∃ text, context.lookup word = some (.text text)
  others : ∀ word ∈ others, ∃ value, context.lookup word = some value

theorem Filter.apply_text
    {filter : Filter}
    (known : filter.isKnown = true)
    (text : Text) :
    filter.apply (.bound (.text text)) = .ok (filter.ofText text) := by
  cases filter with
  | jsonString => rfl
  | groovyString => rfl
  | unknown name => cases known

theorem Expr.eval_name
    {template? : Option Text}
    {context : Context}
    {word : Text}
    {value : Json.Value}
    (bound : context.lookup word = some value) :
    (Expr.name word).eval (.plain template? context) = .ok (.bound value) := by
  rw [Expr.eval, Scope.ofName_plain template? bound]

/-- A simple expression prints what fills its slot. -/
theorem Expr.print_of_chunk
    (template? : Option Text)
    {context : Context}
    {texts others : List Text}
    (binds : context.Binds texts others)
    {expr : Expr}
    {chunk : Chunk}
    (outlined : Chunk.ofExpr? expr = some chunk)
    (uses : chunk.uses texts others = true) :
    expr.print (.plain template? context) = .ok (chunk.fill context) := by
  unfold Chunk.ofExpr? at outlined
  split at outlined
  case h_1 word =>
    cases outlined
    obtain ⟨value, bound⟩ : ∃ value, context.lookup word = some value := by
      rcases Bool.or_eq_true_iff.mp uses with inTexts | inOthers
      · obtain ⟨text, bound⟩ := binds.texts word (List.contains_iff_mem.mp inTexts)
        exact ⟨.text text, bound⟩
      · exact binds.others word (List.contains_iff_mem.mp inOthers)
    simp [Expr.print, Expr.eval_name bound, Operand.printed, Chunk.fill, Chunk.textOf, bound]
  case h_2 filter word =>
    cases outlined
    obtain ⟨known, inTexts⟩ := Bool.and_eq_true_iff.mp uses
    obtain ⟨text, bound⟩ := binds.texts word (List.contains_iff_mem.mp inTexts)
    simp [Expr.print, Expr.eval, Scope.ofName_plain template? bound, bound,
      Filter.apply_text known, Operand.printed, Chunk.fill, Chunk.textOf]
  case h_3 filter word suffix =>
    cases outlined
    obtain ⟨known, inTexts⟩ := Bool.and_eq_true_iff.mp uses
    obtain ⟨text, bound⟩ := binds.texts word (List.contains_iff_mem.mp inTexts)
    simp [Expr.print, Expr.eval, Expr.evalAll, Scope.ofName_plain template? bound, bound,
      Operand.printedAll, Filter.apply_text known, Operand.printed, Chunk.fill, Chunk.textOf]
  case h_4 => cases outlined

namespace Node

mutual

/-- The outline of a node when names are tested as given. -/
def outline?
    (holds : Text → Option Bool) :
    Node → Option (List Chunk)
  | .text content => some [.text content]
  | .output expr => (Chunk.ofExpr? expr).map ([·])
  | .choice (.name word) yes no =>
      match holds word with
      | some true => outlineAll? holds yes
      | some false => outlineAll? holds no
      | none => none
  | .choice _ _ _ => none

/-- The outline of nodes when names are tested as given. -/
def outlineAll?
    (holds : Text → Option Bool) :
    List Node → Option (List Chunk)
  | [] => some []
  | node :: nodes =>
      match outline? holds node, outlineAll? holds nodes with
      | some first, some others => some (first ++ others)
      | _, _ => none

end

end Node

/-- A context in which names hold or do not hold as given. -/
def Context.Decides
    (context : Context)
    (holds : Text → Option Bool) :
    Prop :=
  ∀ word answer,
    holds word = some answer →
    ∃ value, context.lookup word = some value ∧ value.truthy = answer

namespace Node

section

variable
    {template? : Option Text}
    {context : Context}
    {texts others : List Text}
    {holds : Text → Option Bool}

mutual

/-- A node renders to its outline with the slots filled. -/
theorem render_of_outline
    (binds : context.Binds texts others)
    (decides : context.Decides holds)
    (node : Node)
    (chunks : List Chunk)
    (outlined : node.outline? holds = some chunks)
    (uses : ∀ chunk ∈ chunks, chunk.uses texts others = true) :
    node.render (.plain template? context) = .ok (chunks.flatMap (Chunk.fill context)) := by
  match node with
  | .text content =>
      cases outlined
      simp [render, Chunk.fill]
  | .output expr =>
      simp only [outline?, Option.map_eq_some_iff] at outlined
      obtain ⟨chunk, found, rfl⟩ := outlined
      have printed := Expr.print_of_chunk template? binds found (uses chunk List.mem_cons_self)
      simp [render, printed]
  | .choice (.name word) yes no =>
      simp only [outline?] at outlined
      split at outlined
      case h_1 isTrue =>
        obtain ⟨value, bound, truthy⟩ := decides word true isTrue
        have branch := renderAll_of_outline binds decides yes chunks outlined uses
        simp [render, Expr.test, Expr.eval_name bound, Operand.truthy, truthy, branch]
      case h_2 isFalse =>
        obtain ⟨value, bound, falsy⟩ := decides word false isFalse
        have branch := renderAll_of_outline binds decides no chunks outlined uses
        simp [render, Expr.test, Expr.eval_name bound, Operand.truthy, falsy, branch]
      case h_3 => cases outlined
  | .choice (.constant _) _ _ => cases outlined
  | .choice (.concat _) _ _ => cases outlined
  | .choice (.filtered _ _) _ _ => cases outlined
  | .choice (.negation _) _ _ => cases outlined
  | .choice (.conjunction _) _ _ => cases outlined
  | .choice (.disjunction _) _ _ => cases outlined
  | .choice (.tuple _) _ _ => cases outlined

/-- Nodes render to their outline with the slots filled. -/
theorem renderAll_of_outline
    (binds : context.Binds texts others)
    (decides : context.Decides holds)
    (nodes : List Node)
    (chunks : List Chunk)
    (outlined : outlineAll? holds nodes = some chunks)
    (uses : ∀ chunk ∈ chunks, chunk.uses texts others = true) :
    renderAll (.plain template? context) nodes =
      .ok (chunks.flatMap (Chunk.fill context)) := by
  match nodes with
  | [] =>
      cases outlined
      rfl
  | node :: later =>
      simp only [outlineAll?] at outlined
      split at outlined
      case h_1 first rest firstOutlined restOutlined =>
        cases outlined
        have head := render_of_outline binds decides node first firstOutlined
          (fun chunk member => uses chunk (List.mem_append_left _ member))
        have tail := renderAll_of_outline binds decides later rest restOutlined
          (fun chunk member => uses chunk (List.mem_append_right _ member))
        simp [renderAll, head, tail]
      case h_2 => cases outlined

end

end

end Node

/-- The outline of a template source when names are tested as given. -/
def outlineOf?
    (holds : Text → Option Bool)
    (source : Text) :
    Option (List Chunk) :=
  match Node.parse source with
  | .ok nodes => Node.outlineAll? holds nodes
  | .error _ => none

/-- A source whose names share no variables renders to its outline with the slots filled. -/
theorem renderAs_of_outline
    {context : Context}
    {texts others : List Text}
    (binds : context.Binds texts others)
    {holds : Text → Option Bool}
    (decides : context.Decides holds)
    (unowned : context.lookup Builtin.ownName = none)
    {source : Text}
    {nodes : List Node}
    (parsed : Node.parse source = .ok nodes)
    (apart : NamesApart (Node.namesIn nodes))
    {chunks : List Chunk}
    (outlined : Node.outlineAll? holds nodes = some chunks)
    (uses : chunks.all (·.uses texts others) = true)
    (template? : Option Text) :
    renderAs template? context source = .ok (chunks.flatMap (Chunk.fill context)) := by
  have rendered :
      Node.renderAll (.plain template? context) nodes =
        .ok (chunks.flatMap (Chunk.fill context)) :=
    Node.renderAll_of_outline binds decides nodes chunks outlined (List.all_eq_true.mp uses)
  rw [renderAs_of_namesApart parsed apart, unowned, rendered]
  rfl

end ModSkeleton.Template
