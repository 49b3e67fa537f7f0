import ModSkeleton.Shell.Lexeme

namespace ModSkeleton.Shell

/-!
# Grammar of shell scripts

Commands are read by recursive descent. What is nested inside a command is read by
the grammar of the next depth, so that every reader here is a plain function, and
`Grammar.ofDepth` ties them together.
-/

/-- How a list of commands ends. -/
inductive ListKind where
  | line
  | compound
  | optional
  deriving Repr, DecidableEq

/-- The readers of what can be nested. -/
structure Grammar where
  list : ListKind → Reader (Option Command)
  command : Reader Command

namespace Grammar

/-- The readers of scripts inside words. -/
def inner
    (grammar : Grammar) :
    Inner where
  parenthesised := do
    let script ← grammar.list .optional
    let token := (← get).pushed
    modify fun cursor => { cursor with pushed := none }
    match token with
    | some found =>
        if found.isMark ")" then return script
        else Reader.unexpected found (some "\")\"".toList)
    | none => return script
  ofText := fun text => readWithin text 1 (grammar.list .optional)

/-- Read a token that has to be a given keyword or mark. -/
def expect
    (grammar : Grammar)
    (onLaterLine : Bool)
    (wanted : String) :
    Reader Unit := do
  let token ← readStart grammar.inner onLaterLine
  if token.isKeyword wanted || token.isMark wanted then return
  else Reader.unexpected token (some ('"' :: (wanted.toList ++ ['"'])))

/-- The name and the rest of a word that assigns a variable. -/
def assignment?
    (word : Word) :
    Option (Text × Word) :=
  match word with
  | .literal false text :: rest =>
      let name := text.takeWhile (· != '=')
      if isName name && name.length < text.length then
        let value := text.drop (name.length + 1)
        some (name, if value.isEmpty then rest else .literal false value :: rest)
      else
        none
  | _ => none

/-- The text of a word whose expansions are left out. -/
def literalText
    (word : Word) :
    Text :=
  word.flatMap fun part =>
    match part with
    | .literal _ text => text
    | _ => []

/-- Read the target of a redirection. -/
def readRedirection
    (grammar : Grammar)
    (descriptor : Nat)
    (mark : Text) :
    Reader Redirection := do
  match ← readToken grammar.inner with
  | .word word =>
      match String.ofList mark with
      | ">" => return .file descriptor .write word
      | ">|" => return .file descriptor .write word
      | ">>" => return .file descriptor .append word
      | "<" => return .file descriptor .read word
      | "<>" => return .file descriptor .readWrite word
      | ">&" => return .duplicate descriptor word
      | "<&" => return .duplicate descriptor word
      | _ =>
          let cursor ← get
          let index := cursor.documents.length + cursor.announced.length
          let announcement : Announcement :=
            { index
              delimiter := literalText word
              expands := (Word.plainText? word).isSome
              dropsTabs := mark = "<<-".toList }
          set { cursor with announced := cursor.announced ++ [announcement] }
          return .document descriptor index
  | token => Reader.unexpected token none

/-- What has been read of a simple command. -/
structure SimpleParts where
  assignments : List (Text × Word)
  words : List Word
  redirections : List Redirection

/-- Builtins that a function cannot replace. -/
def specialBuiltins : List Text :=
  [":", ".", "break", "continue", "eval", "exec", "exit", "export", "readonly", "return", "set",
   "shift", "times", "trap", "unset"].map String.toList

/-- Read a simple command, or a function definition that starts like one. -/
def readSimple
    (grammar : Grammar)
    (line : Nat) :
    Nat → SimpleParts → Reader Command
  | 0, _ => Reader.fail []
  | fuel + 1, parts => do
      match ← readToken grammar.inner with
      | .word word =>
          match if parts.words.isEmpty then assignment? word else none with
          | some assignment =>
              readSimple grammar line fuel
                { parts with assignments := parts.assignments ++ [assignment] }
          | none =>
              readSimple grammar line fuel { parts with words := parts.words ++ [word] }
      | .redirection descriptor mark =>
          let redirection ← readRedirection grammar descriptor mark
          readSimple grammar line fuel
            { parts with redirections := parts.redirections ++ [redirection] }
      | token =>
          match parts.assignments, parts.words, parts.redirections with
          | [], [name], [] =>
              if token.isMark "(" then
                expect grammar false ")"
                let text := literalText name
                if !isName text || specialBuiltins.contains text then
                  Reader.fail "Bad function name".toList
                let start ← readStart grammar.inner true
                Reader.pushBack start
                return .definition text (← grammar.command)
              else
                Reader.pushBack token
                return .simple line [] [name] []
          | assignments, words, redirections =>
              Reader.pushBack token
              return .simple line assignments words redirections

/-- A list of commands that must not be missing. -/
def readBody
    (grammar : Grammar) :
    Reader Command := do
  match ← grammar.list .compound with
  | some body => return body
  | none => return .simple 0 [] [] []

/-- Read the branches of a choice behind its first condition. -/
def readBranches
    (grammar : Grammar) :
    Nat → Reader Command
  | 0 => Reader.fail []
  | fuel + 1 => do
      let condition ← readBody grammar
      expect grammar false "then"
      let success ← readBody grammar
      let token ← readStart grammar.inner false
      if token.isKeyword "elif" then
        return .choice condition success (some (← readBranches grammar fuel))
      else if token.isKeyword "else" then
        return .choice condition success (some (← readBody grammar))
      else
        Reader.pushBack token
        return .choice condition success none

/-- Read the words that a loop goes over. -/
def readItems
    (grammar : Grammar) :
    Nat → List Word → Reader (List Word)
  | 0, words => return words
  | fuel + 1, words => do
      match ← readToken grammar.inner with
      | .word word => readItems grammar fuel (words ++ [word])
      | .newline => return words
      | token =>
          if token.isMark ";" then return words
          else Reader.unexpected token none

/-- Read a loop over words. -/
def readEach
    (grammar : Grammar)
    (line : Nat) :
    Reader Command := do
  match ← readToken grammar.inner with
  | .word word =>
      match (Word.plainText? word).filter isName with
      | none => Reader.fail "Bad for loop variable".toList
      | some name =>
          let token ← readStart grammar.inner true
          let words ←
            if token.isKeyword "in" then
              some <$> readItems grammar ((← get).rest.length + 2) []
            else
              do
                unless token.isMark ";" do
                  Reader.pushBack token
                pure none
          expect grammar true "do"
          let body ← readBody grammar
          expect grammar false "done"
          return .each line name words body
  | _ => Reader.fail "Bad for loop variable".toList

/-- The word that a token stands for in a pattern. -/
def patternOf : Token → Word
  | .word word => word
  | .keyword text => [.literal false text]
  | _ => []

/-- Read the alternatives of a pattern behind its first token. -/
def readPatterns
    (grammar : Grammar) :
    Nat → Token → List Word → Reader (List Word)
  | 0, _, patterns => return patterns
  | fuel + 1, first, patterns => do
      let patterns := patterns ++ [patternOf first]
      let token ← readToken grammar.inner
      if token.isMark "|" then
        readPatterns grammar fuel (← readToken grammar.inner) patterns
      else if token.isMark ")" then
        return patterns
      else
        Reader.unexpected token (some "\")\"".toList)

/-- Read the branches of a selection. -/
def readSelection
    (grammar : Grammar) :
    Nat → List (List Word × Option Command) → Reader (List (List Word × Option Command))
  | 0, branches => return branches
  | fuel + 1, branches => do
      let token ← readStart grammar.inner true
      if token.isKeyword "esac" then return branches
      else
        let first ← if token.isMark "(" then readToken grammar.inner else pure token
        let patterns ← readPatterns grammar ((← get).rest.length + 2) first []
        let body ← grammar.list .optional
        let branches := branches ++ [(patterns, body)]
        let token ← readStart grammar.inner true
        if token.isKeyword "esac" then return branches
        else if token.isMark ";;" then readSelection grammar fuel branches
        else Reader.unexpected token (some "\";;\"".toList)

/-- Read the redirections behind a compound command. -/
def readRedirections
    (grammar : Grammar) :
    Nat → List Redirection → Reader (List Redirection)
  | 0, redirections => return redirections
  | fuel + 1, redirections => do
      match ← readStart grammar.inner false with
      | .redirection descriptor mark =>
          let redirection ← readRedirection grammar descriptor mark
          readRedirections grammar fuel (redirections ++ [redirection])
      | token =>
          Reader.pushBack token
          return redirections

/-- A compound command with the redirections that follow it. -/
def withRedirections
    (grammar : Grammar)
    (line : Nat)
    (command : Command) :
    Reader Command := do
  let redirections ← readRedirections grammar ((← get).rest.length + 2) []
  return if redirections.isEmpty then command else .redirected line command redirections

/-- Read a command. -/
def readCommand
    (grammar : Grammar) :
    Reader Command := do
  let line := (← get).line
  let token ← readToken grammar.inner
  let size := (← get).rest.length + 2
  let compound (read : Reader Command) : Reader Command := do
    withRedirections grammar line (← read)
  let loop (untilSuccess : Bool) : Reader Command := do
    let condition ← readBody grammar
    expect grammar false "do"
    let body ← readBody grammar
    expect grammar false "done"
    return .loop untilSuccess condition body
  match token with
  | .word _ =>
      Reader.pushBack token
      readSimple grammar line size ⟨[], [], []⟩
  | .redirection _ _ =>
      Reader.pushBack token
      readSimple grammar line size ⟨[], [], []⟩
  | .keyword text =>
      match String.ofList text with
      | "if" =>
          compound do
            let command ← readBranches grammar size
            expect grammar false "fi"
            return command
      | "while" => compound (loop false)
      | "until" => compound (loop true)
      | "for" => compound (readEach grammar line)
      | "case" =>
          compound do
            match ← readToken grammar.inner with
            | .word subject =>
                expect grammar true "in"
                return .selection line subject (← readSelection grammar size [])
            | token => Reader.unexpected token (some "word".toList)
      | "\x7b" =>
          compound do
            let body ← readBody grammar
            expect grammar false "\x7d"
            return body
      | _ => Reader.unexpected token none
  | _ =>
      if token.isMark "(" then
        compound do
          let body ← readBody grammar
          expect grammar false ")"
          return .subshell body
      else
        Reader.unexpected token none

/-- Read the stages of a pipeline behind its first one. -/
def readStages
    (grammar : Grammar) :
    Nat → List Command → Reader (List Command)
  | 0, stages => return stages
  | fuel + 1, stages => do
      let token ← readToken grammar.inner
      if token.isMark "|" then
        Reader.pushBack (← readStart grammar.inner true)
        readStages grammar fuel (stages ++ [← readCommand grammar])
      else
        Reader.pushBack token
        return stages

/-- Read a pipeline. -/
def readPipeline
    (grammar : Grammar) :
    Reader Command := do
  let token ← readToken grammar.inner
  let negated := token.isKeyword "!"
  Reader.pushBack (← if negated then readStart grammar.inner false else pure token)
  let first ← readCommand grammar
  let stages ← readStages grammar ((← get).rest.length + 2) [first]
  let command : Command := if stages.length = 1 then first else .pipeline stages
  return if negated then .negation command else command

/-- Read pipelines that depend on each other, behind the first one. -/
def readDependent
    (grammar : Grammar) :
    Nat → Command → Reader Command
  | 0, command => return command
  | fuel + 1, command => do
      let token ← readToken grammar.inner
      if token.isMark "&&" then
        Reader.pushBack (← readStart grammar.inner true)
        readDependent grammar fuel (.conjunction command (← readPipeline grammar))
      else if token.isMark "||" then
        Reader.pushBack (← readStart grammar.inner true)
        readDependent grammar fuel (.disjunction command (← readPipeline grammar))
      else
        Reader.pushBack token
        return command

/-- Two commands one after the other, the first of which may be missing. -/
def followedBy : Option Command → Command → Command
  | none, second => second
  | some first, second => .sequence first second

/-- Read a list of commands of a kind, behind those that are read already. -/
def readList
    (grammar : Grammar)
    (kind : ListKind)
    (mayEnd : Bool) :
    Nat → Option Command → Reader (Option Command)
  | 0, commands => return commands
  | fuel + 1, commands => do
      match ← readStart grammar.inner (kind != .line) with
      | .newline => return commands
      | .ending =>
          Reader.pushBack .ending
          return commands
      | token =>
          Reader.pushBack token
          if mayEnd && token.endsList then return commands
          else
            let first ← readPipeline grammar
            let command ← readDependent grammar ((← get).rest.length + 2) first
            let token ← readToken grammar.inner
            let command : Command := if token.isMark "&" then .background command else command
            let commands := some (followedBy commands command)
            let goOn : Reader (Option Command) :=
              readList grammar kind (kind != .line) fuel commands
            match token with
            | .ending =>
                Reader.pushBack .ending
                return commands
            | .newline =>
                Reader.pushBack .newline
                goOn
            | _ =>
                if token.isMark ";" || token.isMark "&" then
                  goOn
                else if kind = .line then
                  Reader.unexpected token none
                else
                  Reader.pushBack token
                  return commands

/-- The grammar of scripts in which commands are nested to some depth. -/
def ofDepth : Nat → Grammar
  | 0 => ⟨fun _ => Reader.fail [], Reader.fail []⟩
  | depth + 1 =>
      let below := ofDepth depth
      { list := fun kind => do
          readList below kind (kind = .optional) ((← get).rest.length + 2) none
        command := readCommand below }

end Grammar

namespace Cursor

/-- The start of a script, behind the documents of the scripts before it. -/
def ofScript
    (script : Text)
    (documents : List Word) :
    Cursor :=
  ⟨script, 1, none, [], documents⟩

/-- What a line of a script holds. -/
inductive Line where
  | commands (command : Option Command)
  | ending

/-- Read the commands that start on the next line of a script. -/
def readLine
    (cursor : Cursor) :
    Except SyntaxError (Line × Cursor) := do
  let (command, after) ← ((Grammar.ofDepth (cursor.rest.length + 2)).list .line).run cursor
  match command, after.pushed with
  | none, some .ending => return (.ending, after)
  | command, _ => return (.commands command, after)

end Cursor

end ModSkeleton.Shell
