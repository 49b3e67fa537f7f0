import ModSkeleton.Proofs.Template.Reading

namespace ModSkeleton.Template

/-!
# Missing names

No name that is evaluated on the way can be missing without an error
(`renderSource_strict`). A name that is bound to nothing is only noticed where it is used:
printed, joined to other texts, tested or quoted for a build script, it is reported as
undefined; as the operand of the filter for JSON, as something that is no JSON.

Tuples are left out, since a missing name inside of one is shown and not reported, and so
are the connectives, which do not evaluate all of their operands.
-/

namespace Expr

mutual

/-- Whether an expression is made of names, constants, concatenations and filters only. -/
def isSimple : Expr → Bool
  | .constant _ => true
  | .name _ => true
  | .concat operands => areSimple operands
  | .filtered _ operand => isSimple operand
  | _ => false

/-- Whether some expressions are. -/
def areSimple : List Expr → Bool
  | [] => true
  | expr :: exprs => isSimple expr && areSimple exprs

end

end Expr

namespace Node

mutual

/-- Whether the outputs and tests of a node are simple. -/
def isSimple : Node → Bool
  | .text _ => true
  | .output expr => expr.isSimple
  | .choice test yes no => test.isSimple && (areSimple yes && areSimple no)

/-- Whether the outputs and tests of some nodes are simple. -/
def areSimple : List Node → Bool
  | [] => true
  | node :: nodes => isSimple node && areSimple nodes

end

end Node

/-! ## Evaluating step by step -/

section

variable
    {α β : Type}

theorem exists_of_bind_eq_ok
    {outcome : Except RenderError α}
    {next : α → Except RenderError β}
    {result : β}
    (succeeds : outcome.bind next = .ok result) :
    ∃ value, outcome = .ok value ∧ next value = .ok result := by
  cases outcome with
  | error error => cases succeeds
  | ok value => exact ⟨value, rfl, succeeds⟩

theorem exists_of_map_eq_ok
    {outcome : Except RenderError α}
    {change : α → β}
    {result : β}
    (succeeds : outcome.map change = .ok result) :
    ∃ value, outcome = .ok value := by
  cases outcome with
  | error error => cases succeeds
  | ok value => exact ⟨value, rfl⟩

end

namespace Expr

/-- The joined texts of expressions, which are all evaluated before any is printed. -/
def join
    (scope : Scope)
    (exprs : List Expr) :
    Except RenderError Text :=
  (evalAll scope exprs).bind Operand.printedAll

section

variable
    (scope : Scope)

theorem eval_concat
    (exprs : List Expr) :
    (concat exprs).eval scope = (join scope exprs).map fun text => .bound (.text text) := by
  rw [eval, join]
  cases evalAll scope exprs with
  | error error => rfl
  | ok operands =>
      dsimp only [Except.bind]
      cases Operand.printedAll operands <;> rfl

theorem eval_filtered
    (filter : Filter)
    (expr : Expr) :
    (filtered filter expr).eval scope =
      (expr.eval scope).bind fun operand =>
        (filter.apply operand).map fun text => .bound (.text text) := by
  rw [eval]
  cases expr.eval scope with
  | error error => rfl
  | ok operand =>
      dsimp only [Except.bind]
      cases filter.apply operand <;> rfl

theorem join_cons
    (expr : Expr)
    (exprs : List Expr) :
    join scope (expr :: exprs) =
      (expr.eval scope).bind fun operand =>
        (evalAll scope exprs).bind fun operands =>
          operand.printed.bind fun text =>
            (Operand.printedAll operands).map (text ++ ·) := by
  rw [join, evalAll]
  cases expr.eval scope with
  | error error => rfl
  | ok operand =>
      dsimp only [Except.bind]
      cases evalAll scope exprs with
      | error error => rfl
      | ok operands =>
          dsimp only [Operand.printedAll]
          cases operand.printed with
          | error error => rfl
          | ok text => cases Operand.printedAll operands <;> rfl

/-- Behind a text that can be printed, joining goes on as it does without it. -/
theorem join_cons_of_printed
    {expr : Expr}
    {operand : Operand}
    (evaluates : expr.eval scope = .ok operand)
    {text : Text}
    (prints : operand.printed = .ok text)
    (exprs : List Expr) :
    join scope (expr :: exprs) = (join scope exprs).map (text ++ ·) := by
  rw [join_cons, evaluates]
  dsimp only [Except.bind]
  rw [prints, join]
  cases evalAll scope exprs <;> rfl

/-- Something undefined is not reported before everything behind it is evaluated. -/
theorem join_cons_of_undefined
    {expr : Expr}
    {word : Text}
    (undefined : expr.eval scope = .ok (.undefined word))
    (exprs : List Expr) :
    join scope (expr :: exprs) =
      (evalAll scope exprs).bind fun _ => .error (.undefined word) := by
  rw [join_cons, undefined]
  rfl

end

end Expr

/-! ## Evaluated names cannot be missing -/

/-- A name that is taken out of a context is bound to nothing. -/
theorem Context.lookup_without_of_mem
    {removed : List Text}
    {word : Text}
    (isRemoved : word ∈ removed)
    (context : Context) :
    (context.without removed).lookup word = none := by
  rw [List.lookup_eq_none_iff]
  intro entry member
  have kept := (List.mem_filter.mp member).2
  rw [bne_iff_ne]
  rintro rfl
  simp [isRemoved] at kept

/-- A scope without some names. -/
def Scope.without
    (removed : List Text)
    (scope : Scope) :
    Scope :=
  { scope with context := scope.context.without removed }

/-- Whether a name that was taken away is among the uses. -/
def Affected
    (removed : List Text)
    (uses : List Use) :
    Prop :=
  ∃ word ∈ Use.words uses, word ∈ removed

/-- Uses of names that stand for what a context binds them to, and else for nothing. -/
def Ordinary
    (scope : Scope)
    (uses : List Use) :
    Prop :=
  ∀ word ∈ Use.words uses,
    scope.decider word = word ∧ Builtin.find? scope.template? word = none

/-- An outcome that is the error of some use whose name was taken away. -/
def FailsFor
    {α : Type}
    (removed : List Text)
    (uses : List Use)
    (outcome : Except RenderError α) :
    Prop :=
  ∃ use ∈ uses, use.word ∈ removed ∧ outcome = .error use.error

section

variable
    {α β : Type}
    {scope : Scope}
    {removed : List Text}
    {uses more : List Use}
    {outcome : Except RenderError α}

theorem affected_append :
    Affected removed (uses ++ more) ↔ Affected removed uses ∨ Affected removed more := by
  simp only [Affected, Use.words_append, List.mem_append, or_and_right, exists_or]

theorem Ordinary.mono
    (ordinary : Ordinary scope more)
    (subset : uses ⊆ more) :
    Ordinary scope uses :=
  fun word member => ordinary word (List.map_subset _ subset member)

theorem Ordinary.agree_of_not_affected
    (ordinary : Ordinary scope uses)
    (unaffected : ¬Affected removed uses) :
    scope.Agree (scope.without removed) (Use.words uses) := by
  intro word member
  have present : word ∉ removed := fun isRemoved => unaffected ⟨word, member, isRemoved⟩
  have alone := (ordinary word member).1
  have stillAlone : (scope.without removed).decider word = word := alone
  have same : (scope.without removed).context.lookup word = scope.context.lookup word :=
    Context.lookup_without present scope.context
  simp only [Operand.ofName, alone, stillAlone, same]
  rfl

theorem Operand.ofName_without
    {word : Text}
    (isRemoved : word ∈ removed)
    (alone : scope.decider word = word)
    (noBuiltin : Builtin.find? scope.template? word = none) :
    Operand.ofName (scope.without removed) word = .undefined word := by
  have stillAlone : (scope.without removed).decider word = word := alone
  have stillNoBuiltin : Builtin.find? (scope.without removed).template? word = none := noBuiltin
  have unbound : (scope.without removed).context.lookup word = none :=
    Context.lookup_without_of_mem isRemoved scope.context
  have notOwn : word ≠ Builtin.ownName := by
    rintro rfl
    rw [Builtin.find?, if_pos rfl] at noBuiltin
    cases noBuiltin
  simp only [ofName, stillAlone, unbound, stillNoBuiltin, if_neg notOwn]

namespace FailsFor

theorem mono
    (fails : FailsFor removed uses outcome)
    (subset : uses ⊆ more) :
    FailsFor removed more outcome := by
  obtain ⟨use, member, reported⟩ := fails
  exact ⟨use, subset member, reported⟩

/-- The first error decides. -/
theorem bind
    (fails : FailsFor removed uses outcome)
    (next : α → Except RenderError β) :
    FailsFor removed uses (outcome.bind next) := by
  obtain ⟨use, member, isRemoved, rfl⟩ := fails
  exact ⟨use, member, isRemoved, rfl⟩

theorem map
    (fails : FailsFor removed uses outcome)
    (change : α → β) :
    FailsFor removed uses (outcome.map change) := by
  obtain ⟨use, member, isRemoved, rfl⟩ := fails
  exact ⟨use, member, isRemoved, rfl⟩

end FailsFor

end

namespace Expr

variable
    {scope : Scope}
    {removed : List Text}

theorem plain_mem_uses_name
    (word : Text) :
    .plain word ∈ (name word).uses := by
  rw [uses]
  exact List.mem_cons_self

/-- Filters that exist refuse a missing name. -/
theorem failsFor_apply_undefined
    {filter : Filter}
    {operand : Operand}
    {text : Text}
    (applies : filter.apply operand = .ok text)
    {word : Text}
    (isRemoved : word ∈ removed) :
    FailsFor removed (filtered filter (.name word)).uses
      (filter.apply (.undefined word)) := by
  cases filter with
  | jsonString =>
      refine ⟨.json word, ?_, isRemoved, rfl⟩
      rw [uses]
      exact List.mem_cons_self
  | groovyString =>
      refine ⟨.plain word, ?_, isRemoved, rfl⟩
      rw [uses]
      · exact plain_mem_uses_name word
      · simp
  | unknown name => cases operand <;> cases applies

mutual

/--
A simple expression that can be evaluated fails once a name of it is taken away, unless it
is this name alone: then it stands for something undefined.
-/
theorem eval_of_affected
    (expr : Expr)
    (simple : expr.isSimple = true)
    (ordinary : Ordinary scope expr.uses)
    {operand : Operand}
    (evaluates : expr.eval scope = .ok operand)
    (affected : Affected removed expr.uses) :
    (∃ word ∈ removed,
        expr = .name word ∧ expr.eval (scope.without removed) = .ok (.undefined word)) ∨
      FailsFor removed expr.uses (expr.eval (scope.without removed)) := by
  match expr with
  | .constant _ =>
      obtain ⟨word, member, _⟩ := affected
      rw [uses] at member
      cases member
  | .name word =>
      obtain ⟨_, member, isRemoved⟩ := affected
      have isOrdinary := ordinary _ member
      rw [uses] at member
      obtain rfl := List.mem_singleton.mp member
      have undefined := Operand.ofName_without isRemoved isOrdinary.1 isOrdinary.2
      exact .inl ⟨_, isRemoved, rfl, congrArg Except.ok undefined⟩
  | .concat operands =>
      rw [eval_concat] at evaluates
      rw [uses] at affected ordinary ⊢
      obtain ⟨text, joins⟩ := exists_of_map_eq_ok evaluates
      have fails := join_of_affected operands simple ordinary joins affected
      rw [eval_concat]
      exact .inr (fails.map _)
  | .filtered filter inner =>
      rw [eval_filtered] at evaluates ⊢
      rw [Affected, words_filtered] at affected
      rw [Ordinary, words_filtered] at ordinary
      obtain ⟨value, innerEvaluates, applied⟩ := exists_of_bind_eq_ok evaluates
      obtain ⟨text, applies⟩ := exists_of_map_eq_ok applied
      right
      rcases eval_of_affected inner simple ordinary innerEvaluates affected with
        ⟨word, isRemoved, rfl, undefined⟩ | fails
      · rw [undefined]
        exact (failsFor_apply_undefined applies isRemoved).map _
      · rcases uses_filtered_cases filter inner with ⟨word, _, rfl, _⟩ | isUsed
        · -- A name alone never fails by itself.
          obtain ⟨_, _, _, failed⟩ := fails
          cases failed
        · rw [isUsed]
          exact fails.bind _
  | .negation _ => cases simple
  | .conjunction _ => cases simple
  | .disjunction _ => cases simple
  | .tuple _ => cases simple

/-- Simple expressions that can be joined fail to be once a name of them is taken away. -/
theorem join_of_affected
    (exprs : List Expr)
    (simple : areSimple exprs = true)
    (ordinary : Ordinary scope (usesIn exprs))
    {text : Text}
    (joins : join scope exprs = .ok text)
    (affected : Affected removed (usesIn exprs)) :
    FailsFor removed (usesIn exprs) (join (scope.without removed) exprs) := by
  match exprs with
  | [] =>
      obtain ⟨word, member, _⟩ := affected
      cases member
  | expr :: later =>
      obtain ⟨exprSimple, laterSimple⟩ := Bool.and_eq_true_iff.mp simple
      rw [usesIn] at ordinary affected ⊢
      have inExpr : expr.uses ⊆ expr.uses ++ usesIn later := List.subset_append_left _ _
      have inLater : usesIn later ⊆ expr.uses ++ usesIn later := List.subset_append_right _ _
      rw [join_cons] at joins
      obtain ⟨operand, evaluates, others⟩ := exists_of_bind_eq_ok joins
      obtain ⟨operands, evaluatesAll, printed⟩ := exists_of_bind_eq_ok others
      obtain ⟨first, prints, rest⟩ := exists_of_bind_eq_ok printed
      obtain ⟨texts, printsAll⟩ := exists_of_map_eq_ok rest
      have laterFails (laterAffected : Affected removed (usesIn later)) :
          FailsFor removed (usesIn later) (join (scope.without removed) later) := by
        have laterJoins : join scope later = .ok texts := by
          rw [join, evaluatesAll]
          exact printsAll
        exact
          join_of_affected later laterSimple (ordinary.mono inLater) laterJoins laterAffected
      by_cases exprAffected : Affected removed expr.uses
      · rcases eval_of_affected expr exprSimple (ordinary.mono inExpr) evaluates exprAffected
          with ⟨word, isRemoved, rfl, undefined⟩ | fails
        · rw [join_cons_of_undefined _ undefined]
          by_cases laterAffected : Affected removed (usesIn later)
          · have fails := laterFails laterAffected
            rw [join] at fails
            cases reduced : evalAll (scope.without removed) later with
            | error error =>
                rw [reduced] at fails
                exact fails.mono inLater
            | ok _ =>
                exact ⟨.plain word, inExpr (plain_mem_uses_name word), isRemoved, rfl⟩
          · have agree := (ordinary.mono inLater).agree_of_not_affected laterAffected
            rw [← evalAll_congr later agree, evaluatesAll]
            exact ⟨.plain word, inExpr (plain_mem_uses_name word), isRemoved, rfl⟩
        · rw [join_cons]
          exact (fails.bind _).mono inExpr
      · have agree := (ordinary.mono inExpr).agree_of_not_affected exprAffected
        rw [eval_congr expr agree] at evaluates
        have laterAffected := (affected_append.mp affected).resolve_left exprAffected
        rw [join_cons_of_printed _ evaluates prints]
        exact ((laterFails laterAffected).map _).mono inLater

end

theorem print_of_affected
    {expr : Expr}
    (simple : expr.isSimple = true)
    (ordinary : Ordinary scope expr.uses)
    {text : Text}
    (prints : expr.print scope = .ok text)
    (affected : Affected removed expr.uses) :
    FailsFor removed expr.uses (expr.print (scope.without removed)) := by
  rw [print_eq] at prints ⊢
  obtain ⟨_, evaluates, _⟩ := exists_of_bind_eq_ok prints
  rcases eval_of_affected expr simple ordinary evaluates affected with
    ⟨word, isRemoved, rfl, undefined⟩ | fails
  · rw [undefined]
    exact ⟨.plain word, plain_mem_uses_name word, isRemoved, rfl⟩
  · exact fails.bind _

theorem test_of_affected
    {expr : Expr}
    (simple : expr.isSimple = true)
    (ordinary : Ordinary scope expr.uses)
    {holds : Bool}
    (tested : expr.test scope = .ok holds)
    (affected : Affected removed expr.uses) :
    FailsFor removed expr.uses (expr.test (scope.without removed)) := by
  rw [test_eq] at tested ⊢
  obtain ⟨_, evaluates, _⟩ := exists_of_bind_eq_ok tested
  rcases eval_of_affected expr simple ordinary evaluates affected with
    ⟨word, isRemoved, rfl, undefined⟩ | fails
  · rw [undefined]
    exact ⟨.plain word, plain_mem_uses_name word, isRemoved, rfl⟩
  · exact fails.bind _

end Expr

namespace Node

variable
    {scope : Scope}
    {removed : List Text}

mutual

/-- A simple node that renders fails once a name that is evaluated in it is taken away. -/
theorem render_of_affected
    (node : Node)
    (simple : node.isSimple = true)
    (ordinary : Ordinary scope node.uses)
    {text : Text}
    (renders : node.render scope = .ok text)
    (affected : Affected removed (evaluated scope node)) :
    FailsFor removed (evaluated scope node) (node.render (scope.without removed)) := by
  match node with
  | .text _ =>
      obtain ⟨word, member, _⟩ := affected
      cases member
  | .output expr => exact Expr.print_of_affected simple ordinary renders affected
  | .choice test yes no =>
      obtain ⟨testSimple, branchesSimple⟩ := Bool.and_eq_true_iff.mp simple
      obtain ⟨yesSimple, noSimple⟩ := Bool.and_eq_true_iff.mp branchesSimple
      rw [uses] at ordinary
      rw [render_choice] at renders ⊢
      obtain ⟨holds, tested, branch⟩ := exists_of_bind_eq_ok renders
      rw [evaluated_choice scope tested] at affected ⊢
      have testOrdinary := ordinary.mono (List.subset_append_left _ _)
      by_cases testAffected : Affected removed test.uses
      · have fails := Expr.test_of_affected testSimple testOrdinary tested testAffected
        exact (fails.bind _).mono (List.subset_append_left _ _)
      · have branchAffected := (affected_append.mp affected).resolve_left testAffected
        have branchesOrdinary := ordinary.mono (List.subset_append_right _ _)
        have agree := testOrdinary.agree_of_not_affected testAffected
        rw [← Expr.test_congr test agree, tested]
        cases holds with
        | true =>
            have yesOrdinary := branchesOrdinary.mono (List.subset_append_left _ _)
            have fails := renderAll_of_affected yes yesSimple yesOrdinary branch branchAffected
            exact fails.mono (List.subset_append_right _ _)
        | false =>
            have noOrdinary := branchesOrdinary.mono (List.subset_append_right _ _)
            have fails := renderAll_of_affected no noSimple noOrdinary branch branchAffected
            exact fails.mono (List.subset_append_right _ _)

theorem renderAll_of_affected
    (nodes : List Node)
    (simple : areSimple nodes = true)
    (ordinary : Ordinary scope (usesIn nodes))
    {text : Text}
    (renders : renderAll scope nodes = .ok text)
    (affected : Affected removed (evaluatedIn scope nodes)) :
    FailsFor removed (evaluatedIn scope nodes) (renderAll (scope.without removed) nodes) := by
  match nodes with
  | [] =>
      obtain ⟨word, member, _⟩ := affected
      cases member
  | node :: later =>
      obtain ⟨nodeSimple, laterSimple⟩ := Bool.and_eq_true_iff.mp simple
      rw [usesIn] at ordinary
      rw [renderAll_cons] at renders ⊢
      obtain ⟨first, nodeRenders, rest⟩ := exists_of_bind_eq_ok renders
      obtain ⟨others, laterRender⟩ := exists_of_map_eq_ok rest
      rw [evaluatedIn] at affected ⊢
      have nodeOrdinary := ordinary.mono (List.subset_append_left _ _)
      by_cases nodeAffected : Affected removed (evaluated scope node)
      · have fails := render_of_affected node nodeSimple nodeOrdinary nodeRenders nodeAffected
        exact (fails.bind _).mono (List.subset_append_left _ _)
      · have laterAffected := (affected_append.mp affected).resolve_left nodeAffected
        have laterOrdinary := ordinary.mono (List.subset_append_right _ _)
        have fails :=
          renderAll_of_affected later laterSimple laterOrdinary laterRender laterAffected
        have evaluatedOrdinary := nodeOrdinary.mono (evaluated_subset scope node)
        have agree := evaluatedOrdinary.agree_of_not_affected nodeAffected
        rw [← render_congr node agree, nodeRenders]
        exact (fails.map _).mono (List.subset_append_right _ _)

end

end Node

/-! ## Rendering without a name -/

/-- The uses of names that are evaluated when nodes are rendered in a context. -/
def Node.evaluatedFor
    (context : Context)
    (nodes : List Node) :
    List Use :=
  evaluatedIn ⟨none, context, namesIn nodes⟩ nodes

theorem renderSource_eq_ok
    {source : Text}
    {nodes : List Node}
    (parsed : Node.parse source = .ok nodes)
    {context : Context}
    {text : Text}
    (renders : renderSource context source = .ok text) :
    context.lookup Builtin.ownName = none ∧
      Node.renderAll ⟨none, context, Node.namesIn nodes⟩ nodes = .ok text := by
  rw [renderSource, renderAs_of_parse parsed] at renders
  split at renders
  case isTrue => cases renders
  case isFalse unbound =>
    refine ⟨Option.not_isSome_iff_eq_none.mp unbound, ?_⟩
    cases rendered : Node.renderAll ⟨none, context, Node.namesIn nodes⟩ nodes with
    | error error =>
        rw [rendered] at renders
        cases renders
    | ok result =>
        rw [rendered] at renders
        cases renders
        rfl

/-- A name that is bound to nothing stays so when names are taken away. -/
theorem Context.lookup_without_of_none
    {context : Context}
    {word : Text}
    (unbound : context.lookup word = none)
    (removed : List Text) :
    (context.without removed).lookup word = none := by
  by_cases isRemoved : word ∈ removed
  · exact lookup_without_of_mem isRemoved context
  · rw [lookup_without isRemoved, unbound]

/-- What a source renders to depends on the bindings of its names and of the own name. -/
theorem renderSource_congr
    {source : Text}
    {nodes : List Node}
    (parsed : Node.parse source = .ok nodes)
    {first second : Context}
    (sameNames : ∀ word ∈ Node.namesIn nodes, first.lookup word = second.lookup word)
    (sameOwn :
      (first.lookup Builtin.ownName).isSome = (second.lookup Builtin.ownName).isSome) :
    renderSource first source = renderSource second source := by
  have agree := Scope.agree_of_lookup sameNames none
  have same :=
    Node.renderAll_congr nodes fun word member =>
      agree word (Node.words_evaluatedIn_subset _ nodes member)
  rw [renderSource, renderSource, renderAs_of_parse parsed, renderAs_of_parse parsed, sameOwn,
    same]

section

variable
    {source : Text}
    {nodes : List Node}
    (parsed : Node.parse source = .ok nodes)
    (apart : NamesApart (Node.namesIn nodes))
    (ordinary : ∀ word ∈ Node.namesIn nodes, Builtin.find? none word = none)
    {context : Context}
    {text : Text}
    (renders : renderSource context source = .ok text)
    {removed : List Text}

include apart ordinary in
theorem ordinary_usesIn
    (context : Context) :
    Ordinary ⟨none, context, Node.namesIn nodes⟩ (Node.usesIn nodes) := by
  intro word member
  rw [Node.words_usesIn] at member
  exact ⟨Scope.decider_of_namesApart apart member, ordinary word member⟩

include parsed renders in
/-- Taking names away from a context in which a source renders is up to its nodes. -/
theorem renderSource_without
    (removed : List Text) :
    renderSource (context.without removed) source =
      (Node.renderAll (Scope.without removed ⟨none, context, Node.namesIn nodes⟩)
        nodes).mapError .render := by
  have unowned := (renderSource_eq_ok parsed renders).1
  rw [renderSource, renderAs_of_parse parsed, Context.lookup_without_of_none unowned removed]
  rfl

include parsed apart ordinary renders in
/-- Names that are not evaluated can be taken away. -/
theorem renderSource_without_of_not_affected
    (unaffected : ¬Affected removed (Node.evaluatedFor context nodes)) :
    renderSource (context.without removed) source = .ok text := by
  have rendered := (renderSource_eq_ok parsed renders).2
  have isOrdinary := ordinary_usesIn apart ordinary context
  have agree :=
    (isOrdinary.mono (Node.evaluatedIn_subset _ nodes)).agree_of_not_affected unaffected
  rw [renderSource_without parsed renders, ← Node.renderAll_congr nodes agree, rendered]
  rfl

include parsed apart ordinary renders in
/-- Without a name that is evaluated, rendering fails with the error of a use of one. -/
theorem renderSource_without_of_affected
    (simple : Node.areSimple nodes = true)
    (affected : Affected removed (Node.evaluatedFor context nodes)) :
    ∃ use ∈ Node.evaluatedFor context nodes,
      use.word ∈ removed ∧
        renderSource (context.without removed) source = .error (.render use.error) := by
  have rendered := (renderSource_eq_ok parsed renders).2
  have isOrdinary := ordinary_usesIn apart ordinary context
  obtain ⟨use, member, isRemoved, fails⟩ :=
    Node.renderAll_of_affected nodes simple isOrdinary rendered affected
  refine ⟨use, member, isRemoved, ?_⟩
  rw [renderSource_without parsed renders, fails]
  rfl

end

/--
The outcome of a template depends only on what its names are bound to, and on whether the
own name is bound, which no template accepts. If a template of simple expressions renders
whose names share no variables, then names can be taken out of its context without a
difference as long as none of them was evaluated, and as soon as one was, rendering fails
with the error of a use of such a name.
-/
theorem renderSource_strict
    {source : Text}
    {nodes : List Node}
    (parsed : Node.parse source = .ok nodes)
    (simple : Node.areSimple nodes = true)
    (ordinary : ∀ word ∈ Node.namesIn nodes, Builtin.find? none word = none) :
    (∀ first second : Context,
        (∀ word ∈ Node.namesIn nodes, first.lookup word = second.lookup word) →
        (first.lookup Builtin.ownName).isSome = (second.lookup Builtin.ownName).isSome →
        renderSource first source = renderSource second source) ∧
      (NamesApart (Node.namesIn nodes) →
        ∀ (context : Context) (text : Text),
          renderSource context source = .ok text →
          Node.evaluatedFor context nodes ⊆ Node.usesIn nodes ∧
            ∀ removed : List Text,
              ((∀ use ∈ Node.evaluatedFor context nodes, use.word ∉ removed) →
                renderSource (context.without removed) source = .ok text) ∧
                ((∃ use ∈ Node.evaluatedFor context nodes, use.word ∈ removed) →
                  ∃ use ∈ Node.evaluatedFor context nodes,
                    use.word ∈ removed ∧
                      renderSource (context.without removed) source =
                        .error (.render use.error))) := by
  refine ⟨fun _ _ => renderSource_congr parsed, ?_⟩
  intro apart context text renders
  refine ⟨Node.evaluatedIn_subset _ nodes, ?_⟩
  intro removed
  refine ⟨?_, ?_⟩
  · intro present
    have unaffected : ¬Affected removed (Node.evaluatedFor context nodes) := by
      rintro ⟨word, member, isRemoved⟩
      obtain ⟨use, isUse, rfl⟩ := List.mem_map.mp member
      exact present use isUse isRemoved
    exact renderSource_without_of_not_affected parsed apart ordinary renders unaffected
  · rintro ⟨use, member, isRemoved⟩
    have affected : Affected removed (Node.evaluatedFor context nodes) :=
      ⟨use.word, List.mem_map_of_mem member, isRemoved⟩
    exact renderSource_without_of_affected parsed apart ordinary renders simple affected

/-- A template with a comment, both filters, a concatenation and a choice inside of another. -/
def nestedSource : Text :=
  ("{# note #}{{ id|json_string }}\n{% if on %}\n{% if deep %}{{ name|groovy_string }}" ++
    "{% else %}{{ other }}{% endif %}: \x7b\x7b (name ~ '.s') \x7d\x7d\n{% endif %}").toList

/-- The nodes of the nested template. -/
def nestedNodes : List Node :=
  [.text [], .text [], .output (.filtered .jsonString (.name "id".toList)), .text ['\n'],
   .choice (.name "on".toList)
    [.text [],
     .choice (.name "deep".toList)
      [.text [], .output (.filtered .groovyString (.name "name".toList)), .text []]
      [.text [], .output (.name "other".toList), .text []],
     .text ": ".toList,
     .output (.concat [.name "name".toList, .constant (.text ".s".toList)]), .text ['\n']]
    [],
   .text []]

/-- A context that binds all names of the nested template, of which it evaluates all but one. -/
def nestedContext : Context :=
  [("id".toList, .int 7), ("on".toList, .bool true), ("deep".toList, .text ['x']),
   ("other".toList, .text ['o']), ("name".toList, .text ['n'])]

set_option maxRecDepth 2000 in
/-- The nested template without the name it skips, and without each of two it needs. -/
theorem renderSource_strict_nested :
    renderSource (nestedContext.without ["other".toList]) nestedSource =
        .ok "7\n'n': n.s\n".toList ∧
      renderSource (nestedContext.without ["name".toList]) nestedSource =
          .error (.render (.undefined "name".toList)) ∧
        renderSource (nestedContext.without ["id".toList]) nestedSource =
          .error (.render (.notJson "StrictUndefined".toList)) := by
  have parsed : Node.parse nestedSource = .ok nestedNodes := by rfl
  have strict := renderSource_strict parsed (by decide +kernel) (by decide +kernel)
  have renders : renderSource nestedContext nestedSource = .ok "7\n'n': n.s\n".toList := by
    rw [renderSource, renderAs_of_parse parsed]
    rfl
  obtain ⟨_, changes⟩ := strict.2 (by decide +kernel) nestedContext _ renders
  refine ⟨(changes _).1 (by decide +kernel), ?_, ?_⟩
  · obtain ⟨use, member, isRemoved, fails⟩ :=
      (changes ["name".toList]).2 ⟨.plain "name".toList, by decide +kernel, by decide +kernel⟩
    have onlyPlain :
        ∀ use ∈ Node.evaluatedFor nestedContext nestedNodes,
          use.word ∈ ["name".toList] → use = .plain "name".toList := by
      decide +kernel
    rw [fails, onlyPlain use member isRemoved]
    rfl
  · obtain ⟨use, member, isRemoved, fails⟩ :=
      (changes ["id".toList]).2 ⟨.json "id".toList, by decide +kernel, by decide +kernel⟩
    have onlyJson :
        ∀ use ∈ Node.evaluatedFor nestedContext nestedNodes,
          use.word ∈ ["id".toList] → use = .json "id".toList := by
      decide +kernel
    rw [fails, onlyJson use member isRemoved]
    rfl

/--
Both conditions are needed. A text that renders in the empty context is refused in a context
that binds the own name. Of two spellings of one identifier, the first can be taken away,
since the second decides on the value of both.
-/
theorem renderSource_strict_conditions :
    (¬∀ (source : Text) (nodes : List Node),
        Node.parse source = .ok nodes →
        Node.areSimple nodes = true →
        (∀ word ∈ Node.namesIn nodes, Builtin.find? none word = none) →
        ∀ first second : Context,
          (∀ word ∈ Node.namesIn nodes, first.lookup word = second.lookup word) →
          renderSource first source = renderSource second source) ∧
      ¬∀ (source : Text) (nodes : List Node),
        Node.parse source = .ok nodes →
        Node.areSimple nodes = true →
        (∀ word ∈ Node.namesIn nodes, Builtin.find? none word = none) →
        ∀ (context : Context) (text : Text),
          renderSource context source = .ok text →
          ∀ use ∈ Node.evaluatedFor context nodes,
            ∃ error, renderSource (context.without [use.word]) source = .error error := by
  refine ⟨?_, ?_⟩
  · intro depends
    have parsed : Node.parse ['a'] = .ok [.text ['a']] := by rfl
    have same :=
      depends _ _ parsed (by decide) (by decide) [] [(Builtin.ownName, .int 1)]
        (fun _ member => nomatch member)
    rw [renderSource, renderSource, renderAs_of_parse parsed, renderAs_of_parse parsed] at same
    cases same
  · intro fails
    have parsed :
        Node.parse "{{ ª }}{{ a }}".toList =
          .ok [.text [], .output (.name ['ª']), .text [], .output (.name ['a']), .text []] := by
      rfl
    have renders :
        renderSource [(['ª'], .int 1), (['a'], .int 2)] "{{ ª }}{{ a }}".toList =
          .ok ['2', '2'] := by
      rw [renderSource, renderAs_of_parse parsed]
      rfl
    have stillRenders :
        renderSource [(['a'], .int 2)] "{{ ª }}{{ a }}".toList = .ok ['2', '2'] := by
      rw [renderSource, renderAs_of_parse parsed]
      rfl
    obtain ⟨error, failure⟩ :=
      fails _ _ parsed (by decide +kernel) (by decide +kernel) _ _ renders (.plain ['ª'])
        (by decide +kernel)
    cases stillRenders.symm.trans failure

end ModSkeleton.Template
