import ModSkeleton.Shell.Token

namespace ModSkeleton.Shell

/-!
# Reading words

A word goes on until a blank or a mark that is not quoted. Quotes, backslashes and
dollar signs inside it are read here; the scripts inside command substitutions are
left to readers that are handed in, as they hold whole commands.
-/

/-- Readers of scripts inside words. -/
structure Inner where
  parenthesised : Reader (Option Command)
  ofText : Text → Reader (Option Command)

/-- Where a part of a word stands, which decides what ends it and what is special. -/
inductive Setting where
  | bare
  | double
  | operand (quoted : Bool)
  | expression (depth : Nat)
  | document
  deriving Repr, DecidableEq

namespace Setting

/-- Whether what is read counts as quoted. -/
def quoted : Setting → Bool
  | .bare => false
  | .operand quoted => quoted
  | _ => true

/-- Characters that end an unquoted word. -/
def endsWord
    (c : Char) :
    Bool :=
  c = ' ' || c = '\t' || c = '\n' || c = '<' || c = '>' || c = '(' || c = ')' || c = ';' ||
    c = '&' || c = '|'

/-- Whether reading ends before a character that is followed by a rest. -/
def endsAt
    (setting : Setting)
    (c : Char)
    (rest : Text) :
    Bool :=
  match setting with
  | .bare => endsWord c
  | .double => c = '"'
  | .operand _ => c = '\x7d'
  | .expression depth => c = ')' && depth = 0 && rest.head? = some ')'
  | .document => false

/-- The complaint about a script that ends here. -/
def complaintAtEnd? : Setting → Option Text
  | .bare => none
  | .document => none
  | .double => some "Unterminated quoted string".toList
  | .operand _ => some "Missing '\x7d'".toList
  | .expression _ => some "Missing '))'".toList

/-- Whether a backslash takes the meaning of a character. -/
def escapes
    (setting : Setting)
    (c : Char) :
    Bool :=
  !setting.quoted || c = '\\' || c = '$' || c = '\x60' ||
    (c = '"' && setting ≠ .document) || (c = '\x7d' && setting = .operand true)

/-- The setting behind a character, where parentheses of an expression nest. -/
def behind
    (setting : Setting)
    (c : Char) :
    Setting :=
  match setting with
  | .expression depth =>
      if c = '(' then .expression (depth + 1)
      else if c = ')' then .expression (depth - 1)
      else setting
  | _ => setting

end Setting

/-- Parameters that are named by a mark. -/
def isSpecialParameter
    (c : Char) :
    Bool :=
  c = '@' || c = '*' || c = '#' || c = '?' || c = '-' || c = '$' || c = '!'

/-- The operator that a mark stands for. -/
def operatorOf? : Char → Option Operator
  | '-' => some .orDefault
  | '=' => some .orAssign
  | '?' => some .orComplain
  | '+' => some .orNothing
  | _ => none

/-- Read the rest of a braced expansion behind the name of its parameter. -/
def readOperation
    (readOperand : Setting → Reader Word)
    (quoted : Bool)
    (name : Text) :
    Reader Part := do
  let finish (setting : Setting) (part : Word → Part) : Reader Part := do
    let operand ← readOperand setting
    Reader.skip 1
    return part operand
  let operate (operator : Operator) (unlessEmpty : Bool) : Reader Part :=
    finish (.operand quoted) (.operation quoted name operator unlessEmpty)
  let cut (operator : Operator) : Reader Part :=
    finish (.operand false) (.operation quoted name operator false)
  match (← get).rest with
  | '\x7d' :: _ =>
      Reader.skip 1
      return .parameter quoted name
  | ':' :: '\x7d' :: _ =>
      Reader.skip 2
      return .parameter quoted name
  | '%' :: '%' :: _ =>
      Reader.skip 2
      cut (.cutEnd true)
  | '%' :: _ =>
      Reader.skip 1
      cut (.cutEnd false)
  | '#' :: '#' :: _ =>
      Reader.skip 2
      cut (.cutStart true)
  | '#' :: _ =>
      Reader.skip 1
      cut (.cutStart false)
  | ':' :: c :: _ =>
      match operatorOf? c with
      | some operator =>
          Reader.skip 2
          operate operator true
      | none => finish (.operand quoted) fun _ => .malformed
  | c :: _ =>
      match operatorOf? c with
      | some operator =>
          Reader.skip 1
          operate operator false
      | none => finish (.operand quoted) fun _ => .malformed
  | [] => finish (.operand quoted) fun _ => .malformed

/-- Read a braced expansion behind its opening brace. -/
def readBraces
    (readOperand : Setting → Reader Word)
    (quoted : Bool) :
    Reader Part := do
  let malformed : Reader Part := do
    let _ ← readOperand (.operand quoted)
    Reader.skip 1
    return .malformed
  let length (name : Text) : Reader Part := do
    match ← Reader.peek? with
    | some '\x7d' =>
        Reader.skip 1
        return .length quoted name
    | _ => malformed
  match (← get).rest with
  | '#' :: c :: rest =>
      if isNameChar c then
        Reader.skip 1
        length (← Reader.takeWhile isNameChar)
      else if c != '\x7d' && rest.head? = some '\x7d' then
        if isSpecialParameter c then
          Reader.skip 2
          length [c]
        else
          malformed
      else
        Reader.skip 1
        readOperation readOperand quoted ['#']
  | c :: _ =>
      if isNameStart c then
        readOperation readOperand quoted (← Reader.takeWhile isNameChar)
      else if c.isDigit then
        readOperation readOperand quoted (← Reader.takeWhile Char.isDigit)
      else if isSpecialParameter c then
        Reader.skip 1
        readOperation readOperand quoted [c]
      else
        malformed
  | [] => malformed

/-- Read the expansion behind a dollar sign, which may also stand for itself. -/
def readDollar
    (inner : Inner)
    (readOperand : Setting → Reader Word)
    (quoted : Bool) :
    Reader (Option Part) := do
  match (← get).rest with
  | '(' :: '(' :: _ =>
      Reader.skip 2
      let expression ← readOperand (.expression 0)
      Reader.skip 2
      return some (.arithmetic quoted expression)
  | '(' :: _ =>
      Reader.skip 1
      return some (.output quoted (← inner.parenthesised))
  | '\x7b' :: _ =>
      Reader.skip 1
      return some (← readBraces readOperand quoted)
  | c :: _ =>
      if isNameStart c then
        return some (.parameter quoted (← Reader.takeWhile isNameChar))
      else if c.isDigit || isSpecialParameter c then
        Reader.skip 1
        return some (.parameter quoted [c])
      else
        return none
  | [] => return none

/-- The script in backquotes that a text starts with, and how long it is in the text. -/
def backquoted?
    (quoted : Bool) :
    Text → Option (Text × Nat)
  | [] => none
  | '\x60' :: _ => some ([], 1)
  | '\\' :: c :: rest =>
      (backquoted? quoted rest).map fun (script, size) =>
        if c = '\n' then (script, size + 2)
        else if c = '\\' || c = '\x60' || c = '$' || (c = '"' && quoted) then
          (c :: script, size + 2)
        else
          ('\\' :: c :: script, size + 2)
  | c :: rest => (backquoted? quoted rest).map fun (script, size) => (c :: script, size + 1)

/-- Read the parts of a word in a setting, up to what ends it there. -/
def readParts
    (inner : Inner) :
    Nat → Setting → Reader Word
  | 0, _ => return []
  | fuel + 1, setting => do
      match (← get).rest with
      | [] =>
          match setting.complaintAtEnd? with
          | none => return []
          | some complaint => Reader.fail complaint
      | c :: rest =>
          if setting.endsAt c rest then
            return []
          else if c = '\\' then
            match rest with
            | [] =>
                Reader.skip 1
                match setting.complaintAtEnd? with
                | none => return [.literal true ['\\']]
                | some complaint => Reader.fail complaint
            | next :: _ =>
                if next = '\n' then
                  Reader.skip 2
                  readParts inner fuel setting
                else if setting.escapes next then
                  Reader.skip 2
                  return Word.consChar true next (← readParts inner fuel setting)
                else
                  Reader.skip 1
                  return Word.consChar true '\\' (← readParts inner fuel setting)
          else if c = '\'' && !setting.quoted then
            Reader.skip 1
            let text ← Reader.takeWhile (· != '\'')
            if (← Reader.peek?).isNone then
              Reader.fail "Unterminated quoted string".toList
            Reader.skip 1
            return .literal true text :: (← readParts inner fuel setting)
          else if c = '"' && setting ≠ .document then
            Reader.skip 1
            let quoted ← readParts inner fuel .double
            Reader.skip 1
            let kept := if quoted.isEmpty then [.literal true []] else quoted
            return kept ++ (← readParts inner fuel setting)
          else if c = '\x60' then
            match backquoted? setting.quoted rest with
            | none =>
                Reader.skip (rest.length + 1)
                Reader.fail "EOF in backquote substitution".toList
            | some (script, size) =>
                Reader.skip (size + 1)
                let script ← inner.ofText script
                return .output setting.quoted script :: (← readParts inner fuel setting)
          else if c = '$' then
            Reader.skip 1
            match ← readDollar inner (readParts inner fuel) setting.quoted with
            | some part => return part :: (← readParts inner fuel setting)
            | none => return Word.consChar setting.quoted '$' (← readParts inner fuel setting)
          else
            Reader.skip 1
            return Word.consChar setting.quoted c (← readParts inner fuel (setting.behind c))

/-- Read with another text in place of what is still to be read. -/
def readWithin
    {α : Type}
    (text : Text)
    (line : Nat)
    (reader : Reader α) :
    Reader α := do
  let outer ← get
  set { outer with rest := text, line := line, pushed := none }
  let result ← reader
  modify fun cursor =>
    { cursor with rest := outer.rest, line := outer.line, pushed := outer.pushed }
  return result

/-- How many characters between tokens a text starts with. -/
def blankLength : Text → Nat
  | ' ' :: rest => blankLength rest + 1
  | '\t' :: rest => blankLength rest + 1
  | '\\' :: '\n' :: rest => blankLength rest + 2
  | '#' :: rest => (rest.takeWhile (· != '\n')).length + 1
  | _ => 0

/-- The body of a document in the lines of a text, and how long it is there. -/
def documentBody
    (announcement : Announcement) :
    List Text → Text × Nat
  | [] => ([], 0)
  | line :: lines =>
      let kept := if announcement.dropsTabs then line.dropWhile (· == '\t') else line
      if kept = announcement.delimiter then ([], line.length + 1)
      else if lines.isEmpty then (kept, line.length)
      else
        let (body, size) := documentBody announcement lines
        (kept ++ '\n' :: body, line.length + 1 + size)

/-- Read the bodies of the documents that have been announced. -/
def readDocuments
    (inner : Inner) :
    List Announcement → Reader Unit
  | [] => return
  | announcement :: later => do
      let cursor ← get
      let (body, size) := documentBody announcement (Text.splitOn '\n' cursor.rest)
      Reader.skip size
      let word ←
        if announcement.expands then
          readWithin body cursor.line (readParts inner (body.length + 1) .document)
        else
          pure [.literal true body]
      modify fun cursor => { cursor with documents := cursor.documents ++ [word] }
      readDocuments inner later

/-- Read the bodies of all announced documents. -/
def readAnnounced
    (inner : Inner) :
    Reader Unit := do
  let announced := (← get).announced
  modify fun cursor => { cursor with announced := [] }
  readDocuments inner announced

/-- The marks of redirections, longer ones first. -/
def redirectionMarks : List Text :=
  [">>", ">|", ">&", "<<-", "<<", "<&", "<>", ">", "<"].map String.toList

/-- The marks between commands, longer ones first. -/
def marks : List Text :=
  ["&&", "||", ";;", "&", "|", ";", "(", ")"].map String.toList

/-- The first of some marks that a text starts with. -/
def markOf?
    (candidates : List Text)
    (text : Text) :
    Option Text :=
  candidates.find? (·.isPrefixOf text)

/-- The descriptor that a word in front of a redirection names. -/
def descriptorOf?
    (mark : Text)
    (word : Word) :
    Option Nat :=
  match word with
  | [] => some (if mark.head? = some '>' then 1 else 0)
  | [.literal false [c]] => if c.isDigit then some (c.toNat - '0'.toNat) else none
  | _ => none

/-- Read a token; a word is not checked for being a keyword. -/
def readRawToken
    (inner : Inner) :
    Reader Token := do
  Reader.skip (blankLength (← get).rest)
  let rest := (← get).rest
  match rest.head? with
  | none =>
      readAnnounced inner
      return .ending
  | some '\n' =>
      Reader.skip 1
      readAnnounced inner
      return .newline
  | some _ =>
      match markOf? marks rest with
      | some mark =>
          Reader.skip mark.length
          return .mark mark
      | none =>
          let word ← readParts inner (rest.length + 1) .bare
          match markOf? redirectionMarks (← get).rest with
          | some mark =>
              match descriptorOf? mark word with
              | some descriptor =>
                  Reader.skip mark.length
                  return .redirection descriptor mark
              | none => return .word word
          | none => return .word word

/-- Read a token that is not a newline, passing over at most some newlines. -/
def readPastNewlines
    (inner : Inner) :
    Nat → Token → Reader Token
  | fuel + 1, .newline => do readPastNewlines inner fuel (← readRawToken inner)
  | _, token => return token

/-- A token, where a plain word may be a keyword. -/
def keywordOf
    (token : Token) :
    Token :=
  match token with
  | .word word =>
      match Word.plainText? word with
      | some text => if keywords.contains text then .keyword text else token
      | none => token
  | _ => token

/-- Read a token where a command goes on. -/
def readToken
    (inner : Inner) :
    Reader Token := do
  let cursor ← get
  match cursor.pushed with
  | some token =>
      set { cursor with pushed := none }
      return token
  | none => readRawToken inner

/-- Read a token where a command starts, on a later line if that is allowed. -/
def readStart
    (inner : Inner)
    (onLaterLine : Bool) :
    Reader Token := do
  let token ← readToken inner
  if onLaterLine then
    return keywordOf (← readPastNewlines inner ((← get).rest.length + 1) token)
  else
    return keywordOf token

end ModSkeleton.Shell
