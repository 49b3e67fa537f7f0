import ModSkeleton.Shell.Syntax
import ModSkeleton.Text.Digit

namespace ModSkeleton.Shell.Arithmetic

/-!
# Arithmetic expressions

Expressions over integers of 64 bits that wrap around. Numbers are decimal, octal
behind a zero or hexadecimal behind `0x`. A name stands for the number in a variable,
and an assignment changes it.
-/

/-- A token of an expression. -/
inductive Token where
  | number (value : Int)
  | name (text : Text)
  | mark (text : Text)
  | unknown
  deriving Repr, DecidableEq

/-- Why an expression has no value. -/
inductive Fault where
  | malformed (complaint : String)
  | illegalNumber (text : Text)
  deriving Repr, DecidableEq

/-- A number as 64 bits hold it. -/
def wrap
    (value : Int) :
    Int :=
  Int.bmod value 0x10000000000000000

/-- A number cut to the range that 64 bits hold. -/
def clamp
    (value : Int) :
    Int :=
  min 0x7FFFFFFFFFFFFFFF (max (-0x8000000000000000) value)

/-- The value of a digit in bases up to sixteen. -/
def digitOf?
    (base : Nat)
    (c : Char) :
    Option Nat :=
  let value :=
    if c.isDigit then c.toNat - '0'.toNat
    else if 'a' ≤ c && c ≤ 'f' then c.toNat - 'a'.toNat + 10
    else if 'A' ≤ c && c ≤ 'F' then c.toNat - 'A'.toNat + 10
    else 16
  if value < base then some value else none

/-- The number that digits in a base denote. -/
def digitsIn
    (base : Nat)
    (digits : Text) :
    Int :=
  digits.foldl (fun value c => value * base + ((digitOf? base c).getD 0 : Nat)) (0 : Int)

/-- The number of any size that a text starts with, and what follows it. -/
def largeNumberOf
    (text : Text) :
    Int × Text :=
  let read (base : Nat) (digits : Text) : Int × Text :=
    (digitsIn base (digits.takeWhile fun c => (digitOf? base c).isSome),
      digits.dropWhile fun c => (digitOf? base c).isSome)
  match text with
  | '0' :: x :: digit :: rest =>
      if (x = 'x' || x = 'X') && (digitOf? 16 digit).isSome then read 16 (digit :: rest)
      else read 8 text
  | '0' :: _ => read 8 text
  | _ => read 10 text

/-- The number that a text starts with, and what follows it. -/
def numberOf
    (text : Text) :
    Int × Text :=
  let (value, rest) := largeNumberOf text
  (clamp value, rest)

/-- Characters that may stand around a number. -/
def isSpace
    (c : Char) :
    Bool :=
  c = ' ' || ('\t' ≤ c && c ≤ '\r')

/-- The number that a text denotes as a whole; an empty text is zero. -/
def wholeNumber?
    (text : Text) :
    Option Int :=
  let trimmed := Text.trim isSpace text
  let (negative, digits) := match trimmed with
    | '-' :: rest => (true, rest)
    | '+' :: rest => (false, rest)
    | _ => (false, trimmed)
  if trimmed.isEmpty then some 0
  else if !(digits.head?.any Char.isDigit) then none
  else
    let (value, rest) := numberOf digits
    if rest.isEmpty then some (if negative then -value else value) else none

/-- The marks of expressions, longer ones first. -/
def marks : List Text :=
  ["<<=", ">>=", "||", "&&", "==", "!=", "<=", ">=", "<<", ">>", "+=", "-=", "*=", "/=", "%=",
   "&=", "|=", "^=", "+", "-", "*", "/", "%", "<", ">", "&", "|", "^", "!", "~", "?", ":", "=",
   "(", ")"].map String.toList

/-- The tokens of an expression, with an upper bound on how many characters it has. -/
def tokensWithin : Nat → Text → List Token
  | 0, _ => []
  | _, [] => []
  | fuel + 1, c :: rest =>
      if isSpace c then tokensWithin fuel rest
      else if c.isDigit then
        let (value, later) := numberOf (c :: rest)
        .number value :: tokensWithin fuel later
      else if isNameStart c then
        .name ((c :: rest).takeWhile isNameChar) ::
          tokensWithin fuel ((c :: rest).dropWhile isNameChar)
      else
        match marks.find? (·.isPrefixOf (c :: rest)) with
        | some mark => .mark mark :: tokensWithin fuel ((c :: rest).drop mark.length)
        | none => [.unknown]

/-- Where an evaluation stands: what is still to be read, and the variables it set. -/
structure Progress where
  tokens : List Token
  assigned : List (Text × Int)
  deriving Repr, DecidableEq

/-- Evaluation of a part of an expression. -/
abbrev Evaluator := StateT Progress (Except Fault)

/-- The next token, which is left behind. -/
def next : Evaluator (Option Token) := do
  let progress ← get
  set { progress with tokens := progress.tokens.drop 1 }
  return progress.tokens.head?

/-- Whether the next token is a mark; if so it is left behind. -/
def accept
    (mark : String) :
    Evaluator Bool := do
  let progress ← get
  if progress.tokens.head? = some (.mark mark.toList) then
    set { progress with tokens := progress.tokens.drop 1 }
    return true
  else
    return false

/-- The value of a name. -/
def valueOf
    (lookUp : Text → Text)
    (name : Text) :
    Evaluator Int := do
  match (← get).assigned.lookup name with
  | some value => return value
  | none =>
      match wholeNumber? (lookUp name) with
      | some value => return value
      | none => throw (.illegalNumber (lookUp name))

/-- How tightly a mark between two operands binds. -/
def precedence? : String → Option Nat
  | "||" => some 1
  | "&&" => some 2
  | "|" => some 3
  | "^" => some 4
  | "&" => some 5
  | "==" => some 6
  | "!=" => some 6
  | "<" => some 7
  | ">" => some 7
  | "<=" => some 7
  | ">=" => some 7
  | "<<" => some 8
  | ">>" => some 8
  | "+" => some 9
  | "-" => some 9
  | "*" => some 10
  | "/" => some 10
  | "%" => some 10
  | _ => none

/-- A truth value as a number. -/
def truth
    (value : Bool) :
    Int :=
  if value then 1 else 0

/-- The 64 bits of a number. -/
def bits
    (value : Int) :
    Nat :=
  (value % 0x10000000000000000).toNat

/-- The result of a mark between two operands. -/
def operate
    (mark : String)
    (first second : Int) :
    Except Fault Int :=
  match mark with
  | "||" => .ok (truth (first != 0 || second != 0))
  | "&&" => .ok (truth (first != 0 && second != 0))
  | "|" => .ok (wrap (bits first ||| bits second : Nat))
  | "^" => .ok (wrap (bits first ^^^ bits second : Nat))
  | "&" => .ok (wrap (bits first &&& bits second : Nat))
  | "==" => .ok (truth (first == second))
  | "!=" => .ok (truth (first != second))
  | "<" => .ok (truth (first < second))
  | ">" => .ok (truth (first > second))
  | "<=" => .ok (truth (first ≤ second))
  | ">=" => .ok (truth (first ≥ second))
  | "<<" => .ok (wrap (first * Nat.pow 2 (bits second % 64)))
  | ">>" => .ok (Int.fdiv first (Nat.pow 2 (bits second % 64) : Nat))
  | "+" => .ok (wrap (first + second))
  | "-" => .ok (wrap (first - second))
  | "*" => .ok (wrap (first * second))
  | "/" =>
      if second = 0 then .error (.malformed "division by zero")
      else .ok (wrap (Int.tdiv first second))
  | "%" =>
      if second = 0 then .error (.malformed "division by zero")
      else .ok (wrap (Int.tmod first second))
  | _ => .error (.malformed "expecting EOF")

/-- The marks of assignments that also operate. -/
def assignmentMarks : List String :=
  ["+", "-", "*", "/", "%", "&", "|", "^", "<<", ">>"]

/-- Readers of what can be nested in an expression; a skipped part has no effects. -/
structure Levels where
  expression : Bool → Evaluator Int
  operand : Bool → Evaluator Int

/-- Evaluate an operand. -/
def operandWith
    (lookUp : Text → Text)
    (below : Levels)
    (skipped : Bool) :
    Evaluator Int := do
  match ← next with
  | some (.number value) => return value
  | some (.name name) => if skipped then return 0 else valueOf lookUp name
  | some (.mark mark) =>
      match String.ofList mark with
      | "(" =>
          let value ← below.expression skipped
          if ← accept ")" then return value
          else throw (.malformed "expecting ')'")
      | "+" => below.operand skipped
      | "-" => return wrap (-(← below.operand skipped))
      | "!" => return truth ((← below.operand skipped) == 0)
      | "~" => return wrap (-(← below.operand skipped) - 1)
      | _ => throw (.malformed "expecting primary")
  | _ => throw (.malformed "expecting primary")

/-- Evaluate the operations behind a first operand that bind at least so tightly. -/
def operationsWith
    (below : Levels) :
    Nat → Nat → Bool → Int → Evaluator Int
  | 0, _, _, value => return value
  | fuel + 1, least, skipped, value => do
      match (← get).tokens.head? with
      | some (.mark mark) =>
          match precedence? (String.ofList mark) with
          | none => return value
          | some tightness =>
              if tightness < least then return value
              else
                let _ ← next
                let decided :=
                  (mark = "||".toList && value != 0) || (mark = "&&".toList && value == 0)
                let skips := skipped || decided
                let operand ← below.operand skips
                let second ← operationsWith below fuel (tightness + 1) skips operand
                let result ←
                  if skips && !decided then pure 0
                  else if decided then pure (truth (value != 0))
                  else liftM (operate (String.ofList mark) value second)
                operationsWith below fuel least skipped result
      | _ => return value

/-- Evaluate an expression without an assignment at its start. -/
def choiceWith
    (below : Levels)
    (size : Nat)
    (skipped : Bool) :
    Evaluator Int := do
  let first ← below.operand skipped
  let condition ← operationsWith below size 1 skipped first
  if ← accept "?" then
    let success ← below.expression (skipped || condition == 0)
    if ← accept ":" then
      let failure ← below.expression (skipped || condition != 0)
      return if condition != 0 then success else failure
    else
      throw (.malformed "expecting ':'")
  else
    return condition

/-- Set a variable. -/
def assign
    (name : Text)
    (value : Int) :
    Evaluator Unit :=
  modify fun progress => { progress with assigned := (name, value) :: progress.assigned }

/-- Evaluate an expression. -/
def expressionWith
    (lookUp : Text → Text)
    (below : Levels)
    (size : Nat)
    (skipped : Bool) :
    Evaluator Int := do
  match (← get).tokens with
  | .name name :: .mark mark :: rest =>
      let operator? := assignmentMarks.find? fun operator => (operator ++ "=").toList = mark
      if mark = ['='] || operator?.isSome then
        modify fun progress => { progress with tokens := rest }
        let operand ← below.expression skipped
        if skipped then return operand
        else
          let value ← match operator? with
            | none => pure operand
            | some operator => liftM (operate operator (← valueOf lookUp name) operand)
          assign name value
          return value
      else
        choiceWith below size skipped
  | _ => choiceWith below size skipped

/-- The readers of expressions that nest to some depth. -/
def levels
    (lookUp : Text → Text) :
    Nat → Levels
  | 0 => ⟨fun _ => throw (.malformed "expecting primary"),
      fun _ => throw (.malformed "expecting primary")⟩
  | depth + 1 =>
      let below := levels lookUp depth
      ⟨expressionWith lookUp below (depth + 1), operandWith lookUp below⟩

/-- The value of an expression and the variables that it sets, the last one first. -/
def evaluate
    (lookUp : Text → Text)
    (text : Text) :
    Except Fault (Int × List (Text × Int)) := do
  let tokens := tokensWithin text.length text
  let (value, progress) ←
    ((levels lookUp (2 * tokens.length + 3)).expression false).run ⟨tokens, []⟩
  if progress.tokens.isEmpty then return (value, progress.assigned)
  else throw (.malformed "expecting EOF")

/-- The wording of a fault in an expression. -/
def Fault.message
    (text : Text) :
    Fault → Text
  | .malformed complaint =>
      "arithmetic expression: ".toList ++ complaint.toList ++ ": \"".toList ++ text ++ ['"']
  | .illegalNumber number => "Illegal number: ".toList ++ number

end ModSkeleton.Shell.Arithmetic
