import ModSkeleton.Shell.Arithmetic
import ModSkeleton.Workspace.Access

namespace ModSkeleton.Shell.Test

/-!
# Conditions

The conditions of `test`: properties of texts and paths, comparisons of texts and
numbers, and their negation, conjunction and disjunction. What a word means depends
on the words around it, so that any text can be an operand.
-/

/-- The words that take one operand. -/
def unaryWords : List Text :=
  ["-r", "-w", "-x", "-e", "-f", "-d", "-c", "-b", "-p", "-u", "-g", "-k", "-s", "-t", "-z",
   "-n", "-h", "-L", "-O", "-G", "-S"].map String.toList

/-- The words that compare two operands. -/
def binaryWords : List Text :=
  ["=", "!=", "<", ">", "-eq", "-ne", "-ge", "-gt", "-le", "-lt", "-nt", "-ot", "-ef"].map
    String.toList

/-- What the first of some words is taken for. -/
inductive Role where
  | missing
  | operand
  | unary
  | binary
  | opening
  | closing
  | negation
  | conjunction
  | disjunction
  deriving Repr, DecidableEq

/-- Whether a word that takes an operand is one itself, seen from what follows it. -/
def isOperand : List Text → Bool
  | [] => true
  | [_] => false
  | next :: _ :: _ => binaryWords.contains next

/-- What the first of some words is taken for. -/
def roleOf : List Text → Role
  | [] => .missing
  | word :: rest =>
      if unaryWords.contains word then (if isOperand rest then .operand else .unary)
      else if binaryWords.contains word then .binary
      else
        match String.ofList word with
        | "!" => .negation
        | "-a" => .conjunction
        | "-o" => .disjunction
        | "(" => if rest.isEmpty then .operand else .opening
        | ")" => .closing
        | _ => .operand

/-- Whether an entry has the property that a word asks for. -/
def entryHolds
    (word : Text) :
    Entry → Bool
  | .directory => ["-d", "-s", "-x", "-e", "-r", "-w", "-O", "-G"].any (·.toList == word)
  | .file content =>
      if word = "-s".toList then !content.isEmpty
      else ["-f", "-e", "-r", "-w", "-O", "-G"].any (·.toList == word)
  | .link _ => ["-h", "-L"].any (·.toList == word)

/-- Whether a text or the entry at a path has the property that a word asks for. -/
def holds
    (workspace : Workspace)
    (word path : Text) :
    Bool :=
  if word = "-z".toList then path.isEmpty
  else if word = "-n".toList then !path.isEmpty
  else
    let follows := word ≠ "-h".toList && word ≠ "-L".toList
    (workspace.entryAt? follows path).any (entryHolds word)

/-- A decimal number with an optional sign and blanks around it. -/
def number?
    (text : Text) :
    Option Int :=
  let trimmed := Text.trim Arithmetic.isSpace text
  let (negative, digits) := match trimmed with
    | '-' :: rest => (true, rest)
    | '+' :: rest => (false, rest)
    | _ => (false, trimmed)
  if digits.isEmpty || !digits.all Char.isDigit then none
  else
    let value := Arithmetic.digitsIn 10 digits
    some (if negative then -value else value)

/-- A number, or the complaint that it is none. -/
def number
    (text : Text) :
    Except Text Int :=
  match number? text with
  | some value => .ok value
  | none => .error ("Illegal number: ".toList ++ text)

/-- Whether two operands compare as a word asks for. -/
def compares
    (workspace : Workspace)
    (first word second : Text) :
    Except Text Bool :=
  let numbers (compare : Int → Int → Bool) : Except Text Bool := do
    return compare (← number first) (← number second)
  match String.ofList word with
  | "=" => .ok (first = second)
  | "!=" => .ok (first ≠ second)
  | "<" => .ok (first < second)
  | ">" => .ok (second < first)
  | "-eq" => numbers (· == ·)
  | "-ne" => numbers (· != ·)
  | "-ge" => numbers (· ≥ ·)
  | "-gt" => numbers (· > ·)
  | "-le" => numbers (· ≤ ·)
  | "-lt" => numbers (· < ·)
  | "-ef" =>
      match workspace.entryAt true first, workspace.entryAt true second with
      | .ok (left, _), .ok (right, _) => .ok (left = right)
      | _, _ => .ok false
  | _ => .ok false

/-- A reader of conditions, which leaves the words behind the condition. -/
abbrev Reader := StateT (List Text) (Except Text)

/-- Leave one word behind. -/
def advance : Reader Unit :=
  modify (·.drop 1)

/-- Read a condition without connectives; `readAll` reads one in parentheses. -/
def readPrimary
    (workspace : Workspace)
    (readAll : Role → Reader Bool)
    (role : Role) :
    Reader Bool := do
  let words ← get
  match role, words with
  | .missing, _ => return false
  | .opening, _ :: rest =>
      advance
      if roleOf rest = .closing then return false
      else
        let result ← readAll (roleOf rest)
        advance
        if roleOf (← get) = .closing then return result
        else throw "closing paren expected".toList
  | .unary, word :: rest =>
      match rest with
      | [] => throw (word ++ ": argument expected".toList)
      | operand :: _ =>
          advance
          return holds workspace word operand
  | _, first :: rest =>
      match roleOf rest, rest with
      | .binary, word :: second =>
          match second with
          | [] => throw (word ++ ": argument expected".toList)
          | operand :: _ =>
              advance
              advance
              liftM (compares workspace first word operand)
      | _, _ => return !first.isEmpty
  | _, [] => return false

/-- Read a condition that may be negated. -/
def readNegation
    (workspace : Workspace)
    (readAll : Role → Reader Bool) :
    Nat → Role → Reader Bool
  | 0, _ => return false
  | fuel + 1, role => do
      if role = .negation then
        let rest := (← get).drop 1
        if !rest.isEmpty then
          advance
        return !(← readNegation workspace readAll fuel (roleOf rest))
      else
        readPrimary workspace readAll role

/-- Read conditions joined by a connective of some role. -/
def readJoined
    (readOne : Role → Reader Bool)
    (connective : Role)
    (join : Bool → Bool → Bool) :
    Nat → Role → Reader Bool
  | 0, _ => return false
  | fuel + 1, role => do
      let first ← readOne role
      let rest := (← get).drop 1
      if roleOf rest = connective then
        set (rest.drop 1)
        let second ← readJoined readOne connective join fuel (roleOf (rest.drop 1))
        return join first second
      else
        return first

/-- Read a condition in which parentheses nest to some depth. -/
def readCondition
    (workspace : Workspace)
    (size : Nat) :
    Nat → Role → Reader Bool
  | 0, _ => return false
  | depth + 1, role =>
      readJoined
        (readJoined
          (readNegation workspace (readCondition workspace size depth) size) .conjunction
          (· && ·) size)
        .disjunction (· || ·) size role

/-- Whether the condition that words denote holds, or the complaint about them. -/
def evaluate
    (workspace : Workspace)
    (words : List Text) :
    Except Text Bool := do
  let size := words.length + 1
  let read (words : List Text) (role : Role) : Except Text Bool := do
    let (result, left) ← (readCondition workspace size size role).run words
    match left with
    | word :: _ :: _ => throw (word ++ ": unexpected operator".toList)
    | _ => return result
  match words with
  | [] => return false
  | [_, operator, _] =>
      if binaryWords.contains operator then read words .operand
      else read words (roleOf words)
  | _ => read words (roleOf words)

end ModSkeleton.Shell.Test
