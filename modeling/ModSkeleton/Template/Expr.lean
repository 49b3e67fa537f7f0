import ModSkeleton.Template.Token

namespace ModSkeleton.Template

/-!
# Expressions

An expression is a name, a literal or one of the constants, a concatenation of
operands, a filtered expression, a negation, a conjunction or disjunction, or a
tuple. Filters bind tightest, then come concatenation, negation, conjunction and
disjunction; tuples are written with commas, inside parentheses or not.

`Expr.parse?` reads an expression from tokens with a stack of what is pending
around the current operand, one frame for every open parenthesis.
-/

/-- What a filter makes of its operand. -/
inductive Filter where
  | jsonString
  | groovyString
  | unknown (name : Text)
  deriving Repr, DecidableEq

namespace Filter

/-- The filter with a name. -/
def ofName
    (name : Text) :
    Filter :=
  if name = "json_string".toList then .jsonString
  else if name = "groovy_string".toList then .groovyString
  else .unknown name

end Filter

/-- An expression of a template. -/
inductive Expr where
  | constant (value : Json.Value)
  | name (word : Text)
  | concat (operands : List Expr)
  | filtered (filter : Filter) (operand : Expr)
  | negation (operand : Expr)
  | conjunction (operands : List Expr)
  | disjunction (operands : List Expr)
  | tuple (items : List Expr)
  deriving Repr

namespace Expr

/-- The expression that a word stands for: a constant or a name. -/
def ofWord
    (word : Text) :
    Expr :=
  if word = "true".toList || word = "True".toList then .constant (.bool true)
  else if word = "false".toList || word = "False".toList then .constant (.bool false)
  else if word = "none".toList || word = "None".toList then .constant .null
  else .name word

/-- Operands put together, or the last operand alone. -/
def together
    (combine : List Expr → Expr)
    (operands : List Expr)
    (last : Expr) :
    Expr :=
  if operands.isEmpty then last else combine (operands ++ [last])

/-- An expression under a number of negations. -/
def negated : Nat → Expr → Expr
  | 0, expr => expr
  | count + 1, expr => .negation (negated count expr)

/-- What is pending around the current operand, up to the parenthesis that is open. -/
structure Pending where
  items : List Expr
  disjuncts : List Expr
  conjuncts : List Expr
  negations : Nat
  operands : List Expr
  deriving Repr

namespace Pending

/-- Nothing is pending. -/
def empty : Pending :=
  ⟨[], [], [], 0, []⟩

/-- Whether nothing is pending but items of a tuple. -/
def isFresh
    (pending : Pending) :
    Bool :=
  pending.disjuncts.isEmpty && pending.conjuncts.isEmpty && pending.negations == 0 &&
    pending.operands.isEmpty

/-- The conjunct that ends with an operand. -/
def conjunct
    (pending : Pending)
    (last : Expr) :
    Expr :=
  negated pending.negations (together .concat pending.operands last)

/-- The disjunct that ends with an operand. -/
def disjunct
    (pending : Pending)
    (last : Expr) :
    Expr :=
  together .conjunction pending.conjuncts (pending.conjunct last)

/-- The item that ends with an operand. -/
def item
    (pending : Pending)
    (last : Expr) :
    Expr :=
  together .disjunction pending.disjuncts (pending.disjunct last)

/-- The whole expression that ends with an operand: a tuple if there was a comma. -/
def whole
    (pending : Pending)
    (last : Expr) :
    Expr :=
  together .tuple pending.items (pending.item last)

/-- What is pending after an operand and a concatenation sign. -/
def afterTilde
    (pending : Pending)
    (last : Expr) :
    Pending :=
  { pending with operands := pending.operands ++ [last] }

/-- What is pending after an operand and the word for a conjunction. -/
def afterAnd
    (pending : Pending)
    (last : Expr) :
    Pending :=
  { pending with
    conjuncts := pending.conjuncts ++ [pending.conjunct last]
    negations := 0
    operands := [] }

/-- What is pending after an operand and the word for a disjunction. -/
def afterOr
    (pending : Pending)
    (last : Expr) :
    Pending :=
  { pending with
    disjuncts := pending.disjuncts ++ [pending.disjunct last]
    conjuncts := []
    negations := 0
    operands := [] }

/-- What is pending after an operand and a comma. -/
def afterComma
    (pending : Pending)
    (last : Expr) :
    Pending :=
  { empty with items := pending.items ++ [pending.item last] }

end Pending

/-- The word that negates what follows. -/
def notWord : Text :=
  "not".toList

/-- What is pending after an operand and a word that joins it with another one. -/
def afterWord?
    (pending : Pending)
    (last : Expr)
    (word : Text) :
    Option Pending :=
  if word = "and".toList then some (pending.afterAnd last)
  else if word = "or".toList then some (pending.afterOr last)
  else none

/--
Read on from tokens. `frames` holds what is pending around each open parenthesis,
the next argument what is pending inside the innermost one, and the last argument
but one the operand that was just read, if the next token has to follow one.
-/
def parseFrom? :
    List Pending → Pending → Option Expr → List Token → Option Expr
  | frames, pending, none, .name word :: rest =>
      if word = notWord && pending.operands.isEmpty then
        parseFrom? frames { pending with negations := pending.negations + 1 } none rest
      else
        parseFrom? frames pending (some (ofWord word)) rest
  | frames, pending, none, .literal value :: rest =>
      parseFrom? frames pending (some (.constant (.text value))) rest
  | frames, pending, none, .integer value :: rest =>
      parseFrom? frames pending (some (.constant (.int value))) rest
  | frames, pending, none, .openParen :: rest =>
      parseFrom? (pending :: frames) .empty none rest
  | outer :: frames, pending, none, .closeParen :: rest =>
      if pending.isFresh then parseFrom? frames outer (some (.tuple pending.items)) rest
      else none
  | frames, pending, some last, .name word :: rest =>
      match afterWord? pending last word with
      | some pending => parseFrom? frames pending none rest
      | none => none
  | frames, pending, some last, .tilde :: rest =>
      parseFrom? frames (pending.afterTilde last) none rest
  | frames, pending, some last, .comma :: rest =>
      parseFrom? frames (pending.afterComma last) none rest
  | frames, pending, some last, .pipe :: .name word :: .openParen :: .closeParen :: rest =>
      parseFrom? frames pending (some (.filtered (Filter.ofName word) last)) rest
  | frames, pending, some last, .pipe :: .name word :: rest =>
      parseFrom? frames pending (some (.filtered (Filter.ofName word) last)) rest
  | outer :: frames, pending, some last, .closeParen :: rest =>
      parseFrom? frames outer (some (pending.whole last)) rest
  | [], pending, some last, [] => some (pending.whole last)
  | [], pending, none, [] =>
      if pending.isFresh && !pending.items.isEmpty then some (.tuple pending.items) else none
  | _, _, _, _ => none

/-- The expression that tokens denote. -/
def parse?
    (tokens : List Token) :
    Option Expr :=
  parseFrom? [] .empty none tokens

/-- A lone word other than a negation is its own expression. -/
theorem parse?_word
    {word : Text}
    (notNegation : word ≠ notWord) :
    parse? [.name word] = some (ofWord word) := by
  simp [parse?, parseFrom?, notNegation, Pending.empty, Pending.whole, Pending.item,
    Pending.disjunct, Pending.conjunct, together, negated]

end Expr

/-- What the tokens of a block say. -/
inductive Directive where
  | branch (test : Expr)
  | alternative (test : Expr)
  | otherwise
  | close
  deriving Repr

namespace Directive

/-- Tokens without a colon at their end. -/
def dropColon
    (tokens : List Token) :
    List Token :=
  if tokens.getLast? = some .colon then tokens.dropLast else tokens

/-- The directive that tokens denote; a colon may stand at its end. -/
def parse? : List Token → Option Directive
  | .name word :: rest =>
      if word = "if".toList then (Expr.parse? (dropColon rest)).map .branch
      else if word = "elif".toList then (Expr.parse? (dropColon rest)).map .alternative
      else if word = "else".toList && (dropColon rest).isEmpty then some .otherwise
      else if word = "endif".toList && rest.isEmpty then some .close
      else none
  | _ => none

end Directive

end ModSkeleton.Template
