import ModSkeleton.Template.Render

namespace ModSkeleton.Template

/-!
# Evaluated names

What a template renders to depends on the names that are evaluated on the way: those of
its outputs, of its tests and of the branches that are taken (`Node.renderAll_congr`).

Names that are spellings of one identifier share a variable. In a template without such
names (`NamesApart`) every name stands for what the context binds it to, and the template
renders as if there were no variables (`renderAs_of_namesApart`).
-/

/-! ## Uses of names -/

/-- A use of a name: as the operand of the filter for JSON, or in any other way. -/
inductive Use where
  | plain (word : Text)
  | json (word : Text)
  deriving Repr, DecidableEq

namespace Use

/-- The name that is used. -/
def word : Use → Text
  | .plain word => word
  | .json word => word

/-- The error of a use if its name is missing. -/
def error : Use → RenderError
  | .plain word => .undefined word
  | .json _ => .notJson "StrictUndefined".toList

/-- The names that are used. -/
def words
    (uses : List Use) :
    List Text :=
  uses.map word

theorem words_append
    (first second : List Use) :
    words (first ++ second) = words first ++ words second :=
  List.map_append

end Use

namespace Expr

mutual

/-- The uses of names in an expression. -/
def uses : Expr → List Use
  | .constant _ => []
  | .name word => [.plain word]
  | .concat operands => usesIn operands
  | .filtered .jsonString (.name word) => [.json word]
  | .filtered _ operand => uses operand
  | .negation operand => uses operand
  | .conjunction operands => usesIn operands
  | .disjunction operands => usesIn operands
  | .tuple items => usesIn items

/-- The uses of names in some expressions. -/
def usesIn : List Expr → List Use
  | [] => []
  | expr :: exprs => uses expr ++ usesIn exprs

end

/-- A filter uses its operand for JSON if that is a name, and else as the operand says. -/
theorem uses_filtered_cases
    (filter : Filter)
    (operand : Expr) :
    (∃ word,
        filter = .jsonString ∧ operand = .name word ∧
          (filtered filter operand).uses = [.json word]) ∨
      (filtered filter operand).uses = operand.uses := by
  by_cases direct : filter = .jsonString ∧ ∃ word, operand = .name word
  · obtain ⟨rfl, word, rfl⟩ := direct
    exact .inl ⟨word, rfl, rfl, by rw [uses]⟩
  · right
    rw [uses]
    intro word isJson isName
    exact direct ⟨isJson, word, isName⟩

theorem words_filtered
    (filter : Filter)
    (operand : Expr) :
    Use.words (filtered filter operand).uses = Use.words operand.uses := by
  rcases uses_filtered_cases filter operand with ⟨word, _, rfl, isUsed⟩ | isUsed
  · rw [isUsed, uses]
    rfl
  · rw [isUsed]

mutual

/-- Every name of an expression is used. -/
theorem words_uses
    (expr : Expr) :
    Use.words expr.uses = expr.names := by
  match expr with
  | .constant _ => rw [uses, names, Use.words, List.map_nil]
  | .name word => rw [uses, names, Use.words, List.map_singleton, Use.word]
  | .concat operands => rw [uses, names, words_usesIn operands]
  | .filtered filter operand => rw [words_filtered, names, words_uses operand]
  | .negation operand => rw [uses, names, words_uses operand]
  | .conjunction operands => rw [uses, names, words_usesIn operands]
  | .disjunction operands => rw [uses, names, words_usesIn operands]
  | .tuple items => rw [uses, names, words_usesIn items]

theorem words_usesIn
    (exprs : List Expr) :
    Use.words (usesIn exprs) = namesIn exprs := by
  match exprs with
  | [] => rfl
  | expr :: later =>
      rw [usesIn, namesIn, Use.words_append, words_uses expr, words_usesIn later]

end

end Expr

namespace Node

mutual

/-- The uses of names in a node, in either branch of a choice. -/
def uses : Node → List Use
  | .text _ => []
  | .output expr => expr.uses
  | .choice test yes no => test.uses ++ (usesIn yes ++ usesIn no)

/-- The uses of names in some nodes. -/
def usesIn : List Node → List Use
  | [] => []
  | node :: nodes => uses node ++ usesIn nodes

end

mutual

/-- The uses of names that are evaluated in a scope: of a choice, its test and one branch. -/
def evaluated
    (scope : Scope) :
    Node → List Use
  | .text _ => []
  | .output expr => expr.uses
  | .choice test yes no =>
      match test.test scope with
      | .error _ => test.uses
      | .ok true => test.uses ++ evaluatedIn scope yes
      | .ok false => test.uses ++ evaluatedIn scope no

/-- The uses of names in some nodes that are evaluated in a scope. -/
def evaluatedIn
    (scope : Scope) :
    List Node → List Use
  | [] => []
  | node :: nodes => evaluated scope node ++ evaluatedIn scope nodes

end

mutual

theorem words_uses
    (node : Node) :
    Use.words node.uses = node.names := by
  match node with
  | .text _ => rfl
  | .output expr => rw [uses, names, Expr.words_uses expr]
  | .choice test yes no =>
      rw [uses, names, Use.words_append, Use.words_append, Expr.words_uses test,
        words_usesIn yes, words_usesIn no]

/-- Every name of some nodes is used. -/
theorem words_usesIn
    (nodes : List Node) :
    Use.words (usesIn nodes) = namesIn nodes := by
  match nodes with
  | [] => rfl
  | node :: later =>
      rw [usesIn, namesIn, Use.words_append, words_uses node, words_usesIn later]

end

section

variable
    (scope : Scope)

mutual

/-- What is evaluated in a node occurs in it. -/
theorem evaluated_subset
    (node : Node) :
    evaluated scope node ⊆ node.uses := by
  match node with
  | .text _ => exact List.Subset.refl _
  | .output _ => exact List.Subset.refl _
  | .choice test yes no =>
      rw [evaluated, uses]
      have inTest : test.uses ⊆ test.uses ++ (usesIn yes ++ usesIn no) :=
        List.subset_append_left _ _
      have inYes : evaluatedIn scope yes ⊆ test.uses ++ (usesIn yes ++ usesIn no) :=
        fun _ member =>
          List.mem_append_right _ (List.mem_append_left _ (evaluatedIn_subset yes member))
      have inNo : evaluatedIn scope no ⊆ test.uses ++ (usesIn yes ++ usesIn no) :=
        fun _ member =>
          List.mem_append_right _ (List.mem_append_right _ (evaluatedIn_subset no member))
      split
      case h_1 => exact inTest
      case h_2 => exact List.append_subset.mpr ⟨inTest, inYes⟩
      case h_3 => exact List.append_subset.mpr ⟨inTest, inNo⟩

theorem evaluatedIn_subset
    (nodes : List Node) :
    evaluatedIn scope nodes ⊆ usesIn nodes := by
  match nodes with
  | [] => exact List.Subset.refl _
  | node :: later =>
      rw [evaluatedIn, usesIn]
      refine List.append_subset.mpr ⟨?_, ?_⟩
      · exact fun _ member => List.mem_append_left _ (evaluated_subset node member)
      · exact fun _ member => List.mem_append_right _ (evaluatedIn_subset later member)

end

theorem words_evaluatedIn_subset
    (nodes : List Node) :
    Use.words (evaluatedIn scope nodes) ⊆ namesIn nodes := by
  rw [← words_usesIn]
  exact List.map_subset _ (evaluatedIn_subset scope nodes)

/-- Where the test of a choice has an outcome, the branch it chooses is evaluated as well. -/
theorem evaluated_choice
    {test : Expr}
    {holds : Bool}
    (tested : test.test scope = .ok holds)
    (yes no : List Node) :
    evaluated scope (.choice test yes no) =
      test.uses ++ evaluatedIn scope (if holds then yes else no) := by
  cases holds with
  | true => simp only [evaluated, tested, if_true]
  | false => simp only [evaluated, tested, Bool.false_eq_true, if_false]

end

end Node

/-! ## Rendering step by step -/

namespace Expr

variable
    (scope : Scope)

theorem print_eq
    (expr : Expr) :
    expr.print scope = (expr.eval scope).bind Operand.printed := by
  rw [print]
  cases expr.eval scope <;> rfl

theorem test_eq
    (expr : Expr) :
    expr.test scope = (expr.eval scope).bind Operand.truthy := by
  rw [test]
  cases expr.eval scope <;> rfl

end Expr

namespace Node

variable
    (scope : Scope)

theorem render_choice
    (test : Expr)
    (yes no : List Node) :
    (choice test yes no).render scope =
      (test.test scope).bind fun holds => renderAll scope (if holds then yes else no) := by
  rw [render]
  cases test.test scope with
  | error error => rfl
  | ok holds => cases holds <;> rfl

theorem renderAll_cons
    (node : Node)
    (nodes : List Node) :
    renderAll scope (node :: nodes) =
      (node.render scope).bind fun text => (renderAll scope nodes).map (text ++ ·) := by
  rw [renderAll]
  cases node.render scope with
  | error error => rfl
  | ok text =>
      dsimp only [Except.bind]
      cases renderAll scope nodes <;> rfl

theorem renderAll_append
    (first second : List Node) :
    renderAll scope (first ++ second) =
      (renderAll scope first).bind fun text => (renderAll scope second).map (text ++ ·) := by
  induction first with
  | nil =>
      rw [List.nil_append, renderAll]
      dsimp only [Except.bind]
      cases renderAll scope second <;> rfl
  | cons node later inductionHypothesis =>
      rw [List.cons_append, renderAll_cons, renderAll_cons, inductionHypothesis]
      cases node.render scope with
      | error error => rfl
      | ok text =>
          dsimp only [Except.bind]
          cases renderAll scope later with
          | error error => rfl
          | ok texts =>
              dsimp only [Except.map]
              cases renderAll scope second with
              | error error => rfl
              | ok others => exact congrArg Except.ok (List.append_assoc text texts others).symm

end Node

/-! ## Only evaluated names matter -/

/-- Two scopes in which some names stand for the same. -/
def Scope.Agree
    (first second : Scope)
    (words : List Text) :
    Prop :=
  ∀ word ∈ words, Operand.ofName first word = Operand.ofName second word

namespace Scope.Agree

variable
    {first second : Scope}
    {words more : List Text}

theorem left
    (agree : first.Agree second (words ++ more)) :
    first.Agree second words :=
  fun word member => agree word (List.mem_append_left _ member)

theorem right
    (agree : first.Agree second (words ++ more)) :
    first.Agree second more :=
  fun word member => agree word (List.mem_append_right _ member)

end Scope.Agree

section

variable
    {first second : Scope}

namespace Expr

mutual

/-- An expression means the same in scopes that agree on its names. -/
theorem eval_congr
    (expr : Expr)
    (agree : first.Agree second (Use.words expr.uses)) :
    expr.eval first = expr.eval second := by
  match expr with
  | .constant _ => rfl
  | .name word =>
      rw [uses] at agree
      rw [eval, eval, agree word List.mem_cons_self]
  | .concat operands =>
      rw [uses] at agree
      rw [eval, eval, evalAll_congr operands agree]
  | .filtered filter operand =>
      rw [words_filtered] at agree
      rw [eval, eval, eval_congr operand agree]
  | .negation operand =>
      rw [uses] at agree
      rw [eval, eval, eval_congr operand agree]
  | .conjunction operands =>
      rw [uses] at agree
      rw [eval, eval, evalUntil_congr false operands agree]
  | .disjunction operands =>
      rw [uses] at agree
      rw [eval, eval, evalUntil_congr true operands agree]
  | .tuple items =>
      rw [uses] at agree
      rw [eval, eval, evalAll_congr items agree]

theorem evalAll_congr
    (exprs : List Expr)
    (agree : first.Agree second (Use.words (usesIn exprs))) :
    evalAll first exprs = evalAll second exprs := by
  match exprs with
  | [] => rfl
  | expr :: later =>
      rw [usesIn, Use.words_append] at agree
      rw [evalAll, evalAll, eval_congr expr agree.left, evalAll_congr later agree.right]

theorem evalUntil_congr
    (wanted : Bool)
    (exprs : List Expr)
    (agree : first.Agree second (Use.words (usesIn exprs))) :
    evalUntil first wanted exprs = evalUntil second wanted exprs := by
  match exprs with
  | [] => rfl
  | [expr] =>
      rw [usesIn, Use.words_append] at agree
      rw [evalUntil, evalUntil, eval_congr expr agree.left]
  | expr :: next :: later =>
      rw [usesIn, Use.words_append] at agree
      rw [evalUntil, evalUntil, eval_congr expr agree.left,
        evalUntil_congr wanted (next :: later) agree.right]

end

theorem print_congr
    (expr : Expr)
    (agree : first.Agree second (Use.words expr.uses)) :
    expr.print first = expr.print second := by
  rw [print_eq, print_eq, eval_congr expr agree]

theorem test_congr
    (expr : Expr)
    (agree : first.Agree second (Use.words expr.uses)) :
    expr.test first = expr.test second := by
  rw [test_eq, test_eq, eval_congr expr agree]

end Expr

namespace Node

mutual

/-- A node renders alike in scopes that agree on what is evaluated in it. -/
theorem render_congr
    (node : Node)
    (agree : first.Agree second (Use.words (evaluated first node))) :
    node.render first = node.render second := by
  match node with
  | .text _ => rfl
  | .output expr =>
      rw [evaluated] at agree
      rw [render, render, Expr.print_congr expr agree]
  | .choice test yes no =>
      cases tested : test.test first with
      | error error =>
          simp only [evaluated, tested] at agree
          rw [render_choice, render_choice, ← Expr.test_congr test agree, tested]
          rfl
      | ok holds =>
          rw [evaluated_choice first tested, Use.words_append] at agree
          rw [render_choice, render_choice, ← Expr.test_congr test agree.left, tested]
          cases holds with
          | true => exact renderAll_congr yes agree.right
          | false => exact renderAll_congr no agree.right

theorem renderAll_congr
    (nodes : List Node)
    (agree : first.Agree second (Use.words (evaluatedIn first nodes))) :
    renderAll first nodes = renderAll second nodes := by
  match nodes with
  | [] => rfl
  | node :: later =>
      rw [evaluatedIn, Use.words_append] at agree
      rw [renderAll, renderAll, render_congr node agree.left,
        renderAll_congr later agree.right]

end

end Node

end

/-! ## Names that share no variable -/

/-- No two names are spellings of one identifier. -/
def NamesApart
    (names : List Text) :
    Prop :=
  ∀ first ∈ names, ∀ second ∈ names,
    Text.compatibleForm first = Text.compatibleForm second → first = second

instance decidableNamesApart
    (names : List Text) :
    Decidable (NamesApart names) :=
  inferInstanceAs
    (Decidable
      (∀ first ∈ names, ∀ second ∈ names,
        Text.compatibleForm first = Text.compatibleForm second → first = second))

/-- In ASCII there is one spelling of each identifier. -/
theorem namesApart_of_isAscii
    {names : List Text}
    (ascii : names.all Text.isAscii = true) :
    NamesApart names := by
  intro first inNames second alsoInNames sameForm
  have firstAscii := List.all_eq_true.mp ascii first inNames
  have secondAscii := List.all_eq_true.mp ascii second alsoInNames
  rwa [Text.compatibleForm_of_isAscii firstAscii,
    Text.compatibleForm_of_isAscii secondAscii] at sameForm

namespace Scope

theorem mem_sharing
    {scope : Scope}
    {word name : Text}
    (shares : name ∈ scope.sharing word) :
    name ∈ scope.names ∧ Text.compatibleForm name = Text.compatibleForm word := by
  rw [sharing, List.mem_filter, List.mem_eraseDups, List.mem_filter] at shares
  exact ⟨shares.1.1, of_decide_eq_true shares.2⟩

/-- The name that decides on a value is the name itself or another one of the template. -/
theorem decider_cases
    (scope : Scope)
    (word : Text) :
    scope.decider word = word ∨
      scope.decider word ∈ scope.names ∧
        Text.compatibleForm (scope.decider word) = Text.compatibleForm word := by
  have isLast : scope.decider word ∈ word :: scope.sharing word := List.getLastD_mem_cons
  rcases List.mem_cons.mp isLast with same | shares
  · exact .inl same
  · exact .inr (mem_sharing shares)

/-- Contexts that bind the names of a template alike make them stand for the same. -/
theorem agree_of_lookup
    {first second : Context}
    {names : List Text}
    (same : ∀ word ∈ names, first.lookup word = second.lookup word)
    (template? : Option Text) :
    Agree ⟨template?, first, names⟩ ⟨template?, second, names⟩ names := by
  intro word member
  -- The decider of a name does not depend on the context, and is a name itself.
  have isName : decider ⟨template?, first, names⟩ word ∈ names := by
    rcases decider_cases ⟨template?, first, names⟩ word with itself | ⟨inNames, _⟩
    · rwa [itself]
    · exact inNames
  have sameValue :
      first.lookup (decider ⟨template?, first, names⟩ word) =
        second.lookup (decider ⟨template?, second, names⟩ word) :=
    same _ isName
  simp only [Operand.ofName, sameValue]
  rfl

/-- A name that shares its variable with no other one decides on its own value. -/
theorem decider_of_namesApart
    {scope : Scope}
    (apart : NamesApart scope.names)
    {word : Text}
    (member : word ∈ scope.names) :
    scope.decider word = word := by
  rcases scope.decider_cases word with same | ⟨inNames, sameForm⟩
  · exact same
  · exact apart _ inNames _ member sameForm

/-- A scope of a template whose variables are left out of account. -/
def plain
    (template? : Option Text)
    (context : Context) :
    Scope :=
  ⟨template?, context, []⟩

theorem decider_plain
    (template? : Option Text)
    (context : Context)
    (word : Text) :
    (plain template? context).decider word = word :=
  rfl

theorem ofName_plain
    (template? : Option Text)
    {context : Context}
    {word : Text}
    {value : Json.Value}
    (bound : context.lookup word = some value) :
    Operand.ofName (plain template? context) word = .bound value := by
  have found : (plain template? context).context.lookup word = some value := bound
  simp only [Operand.ofName, decider_plain, found]

/-- Where names share no variables, variables may be left out of account. -/
theorem agree_plain
    {names : List Text}
    (apart : NamesApart names)
    (template? : Option Text)
    (context : Context) :
    Agree ⟨template?, context, names⟩ (plain template? context) names := by
  intro word member
  have alone : decider ⟨template?, context, names⟩ word = word :=
    decider_of_namesApart apart member
  simp only [Operand.ofName, alone, decider_plain]
  rfl

end Scope

/-- What a source that is a template renders to: nothing if a context binds the own name. -/
theorem renderAs_of_parse
    {source : Text}
    {nodes : List Node}
    (parsed : Node.parse source = .ok nodes)
    (template? : Option Text)
    (context : Context) :
    renderAs template? context source =
      if (context.lookup Builtin.ownName).isSome then .error (.render .ownNameBound)
      else
        (Node.renderAll ⟨template?, context, Node.namesIn nodes⟩ nodes).mapError .render := by
  unfold renderAs
  simp only [parsed]
  congr 1
  cases Node.renderAll ⟨template?, context, Node.namesIn nodes⟩ nodes <;> rfl

/-- A template whose names share no variables renders as if there were none. -/
theorem renderAs_of_namesApart
    {source : Text}
    {nodes : List Node}
    (parsed : Node.parse source = .ok nodes)
    (apart : NamesApart (Node.namesIn nodes))
    (template? : Option Text)
    (context : Context) :
    renderAs template? context source =
      if (context.lookup Builtin.ownName).isSome then .error (.render .ownNameBound)
      else (Node.renderAll (.plain template? context) nodes).mapError .render := by
  have agree := Scope.agree_plain apart template? context
  have same :
      Node.renderAll ⟨template?, context, Node.namesIn nodes⟩ nodes =
        Node.renderAll (.plain template? context) nodes :=
    Node.renderAll_congr nodes fun word member =>
      agree word (Node.words_evaluatedIn_subset _ nodes member)
  rw [renderAs_of_parse parsed, same]

end ModSkeleton.Template
