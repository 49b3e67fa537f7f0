import ModSkeleton.Shell.Pattern
import ModSkeleton.Shell.Signal
import ModSkeleton.Shell.State
import ModSkeleton.Shell.Test

namespace ModSkeleton.Shell

/-!
# Builtins

The commands that a shell carries out itself. A builtin gives the status it ends
with, or a complaint about its arguments.
-/

/-- How a builtin ends. -/
abbrev BuiltinResult := Except Text Nat

/-- The names of all builtins. -/
def builtinNames : List Text :=
  Grammar.specialBuiltins ++
    ["[", "alias", "bg", "cd", "chdir", "command", "echo", "false", "fg", "getopts", "hash",
     "jobs", "kill", "local", "printf", "pwd", "read", "test", "true", "type", "ulimit", "umask",
     "unalias", "wait"].map String.toList

/-- The number that an argument denotes. -/
def countOf
    (argument : Text) :
    Except Text Nat :=
  if argument.isEmpty || !argument.all Char.isDigit ||
      0x7FFFFFFF < (Arithmetic.digitsIn 10 argument).toNat then
    .error ("Illegal number: ".toList ++ argument)
  else
    .ok (Arithmetic.digitsIn 10 argument).toNat

/-- The number that the first of some arguments denotes, which is one if there is none. -/
def firstCount : List Text → Except Text Nat
  | [] => .ok 1
  | argument :: _ => countOf argument

namespace Builtin

/-- Print arguments in a line, with escapes read; the line stays open on request. -/
def echo
    (arguments : List Text) :
    Run BuiltinResult := do
  let isOpen := arguments.head? = some "-n".toList
  let words := if isOpen then arguments.drop 1 else arguments
  let (bytes, stopped) := Command.unescapeFrom .builtin 0 (Text.joinWith [' '] words)
  if ((← get).stream? 1).isNone then
    Run.complain "echo: echo: I/O error".toList
    return .ok 1
  else
    Run.print 1 (if isOpen || stopped then bytes else bytes ++ [10])
    return .ok 0

/-- The arguments behind the options of a builtin that takes none. -/
def withoutOptions : List Text → Except Text (List Text)
  | [] => .ok []
  | argument :: rest =>
      match argument with
      | ['-', '-'] => .ok rest
      | '-' :: letter :: _ => .error ("Illegal option -".toList ++ [letter])
      | _ => .ok (argument :: rest)

/-- Print arguments by a format. -/
def printf
    (arguments : List Text) :
    Run BuiltinResult := do
  match withoutOptions arguments with
  | .error complaint => return .error complaint
  | .ok [] => return .error "usage: printf format [arg ...]".toList
  | .ok (format :: arguments) =>
      let printed := Command.printFormatted .builtin format arguments
      for complaint in printed.complaints do
        Run.complain ("printf: ".toList ++ complaint)
      Run.print 1 printed.output
      return .ok printed.status

/-- Check a condition. -/
def test
    (arguments : List Text) :
    Run BuiltinResult := do
  match Test.evaluate (← get).workspace arguments with
  | .ok result => return .ok (if result then 0 else 1)
  | .error complaint => return .error complaint

/-- Check a condition in brackets. -/
def bracketedTest
    (arguments : List Text) :
    Run BuiltinResult :=
  if arguments.getLast? = some [']'] then test arguments.dropLast
  else return .error "missing ]".toList

/-- End the shell with a status. -/
def exit
    (arguments : List Text) :
    Run BuiltinResult := do
  match arguments with
  | [] => Run.interrupt .exits
  | argument :: _ =>
      match countOf argument with
      | .error complaint => return .error complaint
      | .ok status =>
          Run.setStatus (status % 256)
          Run.interrupt .exits

/-- End a function with a status. -/
def returnFrom
    (arguments : List Text) :
    Run BuiltinResult := do
  match arguments with
  | [] => Run.interrupt .returns
  | argument :: _ =>
      match countOf argument with
      | .error complaint => return .error complaint
      | .ok status =>
          Run.setStatus (status % 256)
          Run.interrupt .returns

/-- Leave a number of loops, or go on with the next turn of the last one. -/
def leave
    (interruption : Nat → Interruption)
    (arguments : List Text) :
    Run BuiltinResult := do
  match firstCount arguments with
  | .error complaint => return .error complaint
  | .ok levels =>
      if levels = 0 then
        return .error ("Illegal number: ".toList ++ arguments.headD [])
      let loops := (← get).loops
      if loops = 0 then return .ok 0
      else
        Run.setStatus 0
        Run.interrupt (interruption (min levels loops))

/-- The text of a location. -/
def directoryText
    (location : Location) :
    Text :=
  '/' :: Text.joinWith ['/'] location

/-- Change the working directory. -/
def changeDirectory
    (arguments : List Text) :
    Run BuiltinResult := do
  let shell ← get
  let back := arguments.head? = some ['-']
  let target? :=
    if back then shell.binding? "OLDPWD".toList
    else match arguments with
      | [] => shell.binding? "HOME".toList
      | target :: _ => some target
  match target? with
  | none => return .ok 0
  | some target =>
      if target.isEmpty then return .ok 0
      else
        match shell.workspace.enter target with
        | .error _ => return .error ("can't cd to ".toList ++ target)
        | .ok workspace =>
            let before := directoryText shell.workspace.directory
            set (({ shell with workspace }).setVariable "OLDPWD".toList before)
            if back then
              Run.print 1 (Text.encode (target ++ ['\n']))
            return .ok 0

/-- Print the working directory. -/
def printDirectory : Run BuiltinResult := do
  Run.print 1 (Text.encode (directoryText (← get).workspace.directory ++ ['\n']))
  return .ok 0

/-- The options that can be set, with their long names. -/
def optionNames : List (Char × Text) :=
  [('e', "errexit".toList), ('f', "noglob".toList), ('n', "noexec".toList),
   ('u', "nounset".toList), ('v', "verbose".toList), ('x', "xtrace".toList),
   ('a', "allexport".toList), ('C', "noclobber".toList), ('b', "notify".toList),
   ('m', "monitor".toList), ('I', "ignoreeof".toList), ('i', "interactive".toList),
   ('E', "emacs".toList), ('V', "vi".toList), ('s', "stdin".toList)]

/-- Options with one switched on or off. -/
def switched
    (on : Bool)
    (option : Char)
    (options : Text) :
    Text :=
  let others := options.filter (· != option)
  if on then others ++ [option] else others

/-- Options after the letters of one argument, or the letter that is none. -/
def switchAll
    (on : Bool) :
    Text → Text → Except Text Text
  | [], options => .ok options
  | letter :: letters, options =>
      if (optionNames.lookup letter).isSome then
        switchAll on letters (switched on letter options)
      else
        .error ("Illegal option ".toList ++ [if on then '-' else '+', letter])

/-- Options after arguments, and the arguments that are none, if any are given. -/
def readOptions : List Text → Text → Except Text (Text × Option (List Text))
  | [], options => .ok (options, none)
  | argument :: rest, options =>
      match argument with
      | ['-', '-'] => .ok (options, some rest)
      | ['-'] => .ok (options, if rest.isEmpty then none else some rest)
      | sign :: letters =>
          if sign = '-' || sign = '+' then
            if letters = ['o'] then
              match rest with
              | [] => .ok (options, none)
              | name :: later =>
                  match optionNames.find? fun option => option.2 = name with
                  | some (letter, _) => readOptions later (switched (sign = '-') letter options)
                  | none =>
                      .error ("Illegal option ".toList ++ [sign, 'o', ' '] ++ name)
            else
              match switchAll (sign = '-') letters options with
              | .ok options => readOptions rest options
              | .error complaint => .error complaint
          else
            .ok (options, some (argument :: rest))
      | [] => .ok (options, some (argument :: rest))

/-- Set options and arguments. -/
def setAll
    (arguments : List Text) :
    Run BuiltinResult := do
  let shell ← get
  match readOptions arguments shell.options with
  | .error complaint => return .error complaint
  | .ok (options, given) =>
      set { shell with options, arguments := given.getD shell.arguments }
      return .ok 0

/-- Drop some arguments. -/
def shift
    (arguments : List Text) :
    Run BuiltinResult := do
  match firstCount arguments with
  | .error complaint => return .error complaint
  | .ok count =>
      let shell ← get
      if shell.arguments.length < count then
        return .error "can't shift that many".toList
      else
        set { shell with arguments := shell.arguments.drop count }
        return .ok 0

/-- Unset variables or functions. -/
def unsetAll
    (arguments : List Text) :
    Run BuiltinResult := do
  let functions := arguments.head? = some "-f".toList
  let names :=
    if functions || arguments.head? = some "-v".toList then arguments.drop 1 else arguments
  for name in names do
    if functions then
      modify fun shell =>
        { shell with functions := shell.functions.filter (·.1 != name) }
    else if !isName name then
      return .error (name ++ ": bad variable name".toList)
    else if (← get).locked.contains name then
      return .error (name ++ ": is read only".toList)
    else
      modify fun shell => shell.unsetVariable name
  return .ok 0

/-- The name and value that an argument like an assignment holds. -/
def definitionOf
    (argument : Text) :
    Text × Option Text :=
  let name := argument.takeWhile (· != '=')
  (name, if name.length < argument.length then some (argument.drop (name.length + 1)) else none)

/-- Set variables and mark them in some way. -/
def declare
    (mark : Text → Interpreter → Interpreter)
    (arguments : List Text) :
    Run BuiltinResult := do
  for argument in arguments do
    let (name, value?) := definitionOf argument
    if !isName name then
      return .error (name ++ ": bad variable name".toList)
    match value? with
    | some value => Run.assign name value
    | none => pure ()
    modify (mark name)
  return .ok 0

/-- Make variables local to a function. -/
def declareLocal
    (arguments : List Text) :
    Run BuiltinResult := do
  for argument in arguments do
    let (name, value?) := definitionOf argument
    let shell ← get
    match shell.locals with
    | none => return .error "not in a function".toList
    | some kept =>
        set { shell with locals := some ((name, shell.binding? name) :: kept) }
        match value? with
        | some value => Run.assign name value
        | none => pure ()
  if (← get).locals.isNone then
    return .error "not in a function".toList
  else
    return .ok 0

/-- A line at the start of bytes, whether it is ended, and what follows it. -/
def lineOf
    (continues : Bool) :
    Text.Bytes → Text.Bytes × Bool × Text.Bytes
  | [] => ([], false, [])
  | byte :: rest =>
      if byte = 10 then ([], true, rest)
      else if byte = 92 && continues then
        match rest with
        | [] => ([], false, [])
        | next :: later =>
            let (line, ended, unread) := lineOf continues later
            (if next = 10 then line else 92 :: next :: line, ended, unread)
      else
        let (line, ended, unread) := lineOf continues rest
        (byte :: line, ended, unread)

/-- The glyphs of a line, where a backslash quotes unless it is kept. -/
def lineGlyphs
    (raw : Bool) :
    Text → List Glyph
  | [] => []
  | '\\' :: c :: rest =>
      if raw then ⟨'\\', false⟩ :: lineGlyphs raw (c :: rest)
      else ⟨c, true⟩ :: lineGlyphs raw rest
  | c :: rest => ⟨c, false⟩ :: lineGlyphs raw rest

/-- The values of variables that a line is read into; the last one takes what is left. -/
def shares
    (separators : Text) :
    List Text → List Glyph → List (Text × Text)
  | [], _ => []
  | [name], glyphs =>
      let isBlank (glyph : Glyph) : Bool :=
        !glyph.quoted && separators.contains glyph.char &&
          (glyph.char = ' ' || glyph.char = '\t' || glyph.char = '\n')
      let trimmed := ((glyphs.dropWhile isBlank).reverse.dropWhile isBlank).reverse
      [(name, glyphText trimmed)]
  | name :: next :: names, glyphs =>
      let separates (glyph : Glyph) : Bool := !glyph.quoted && separators.contains glyph.char
      let isBlank (glyph : Glyph) : Bool :=
        separates glyph && (glyph.char = ' ' || glyph.char = '\t' || glyph.char = '\n')
      let start := glyphs.dropWhile isBlank
      let field := start.takeWhile fun glyph => !separates glyph
      let rest := (start.drop field.length).dropWhile isBlank
      let behind := match rest with
        | glyph :: later => if separates glyph then later else rest
        | [] => []
      (name, glyphText field) :: shares separators (next :: names) behind

/-- Read a line into variables. -/
def read
    (arguments : List Text) :
    Run BuiltinResult := do
  let raw := arguments.contains "-r".toList
  let names := arguments.filter fun argument => argument.head? ≠ some '-'
  if names.isEmpty then
    return .error "arg count".toList
  else
    let shell ← get
    let (line, ended, unread) := lineOf (!raw) (shell.readable 0)
    set (shell.leaveUnread 0 unread)
    for (name, value) in shares shell.separators names (lineGlyphs raw (Text.ofBytes line)) do
      Run.assign name value
    return .ok (if ended then 0 else 1)

/-- What a name stands for, as `type` says it. -/
def kindOf?
    (shell : Interpreter)
    (name : Text) :
    Option Text :=
  if keywords.contains name then some " is a shell keyword".toList
  else if (shell.functions.lookup name).isSome then some " is a shell function".toList
  else if Grammar.specialBuiltins.contains name then
    some " is a special shell builtin".toList
  else if builtinNames.contains name then some " is a shell builtin".toList
  else if (Command.ProgramName.ofWord? name).isSome then
    some (" is ".toList ++ if name.contains '/' then name else "/usr/bin/".toList ++ name)
  else none

/-- Say what names stand for. -/
def describe
    (arguments : List Text) :
    Run BuiltinResult := do
  let shell ← get
  for name in arguments do
    let description := (kindOf? shell name).getD ": not found".toList
    Run.print 1 (Text.encode (name ++ description ++ ['\n']))
  return .ok (if arguments.all fun name => (kindOf? shell name).isSome then 0 else 127)

/-- Print what would be run under a name. -/
def find
    (arguments : List Text) :
    Run BuiltinResult := do
  let shell ← get
  match arguments with
  | [] => return .ok 0
  | name :: _ =>
      if (kindOf? shell name).isNone then return .ok 127
      else
        let isProgram :=
          !keywords.contains name && (shell.functions.lookup name).isNone &&
            !builtinNames.contains name && !name.contains '/'
        let path := if isProgram then "/usr/bin/".toList ++ name else name
        Run.print 1 (Text.encode (path ++ ['\n']))
        return .ok 0

/-- How `kill` is used. -/
def killUsage : Text :=
  ("Usage: kill [-s sigspec | -signum | -sigspec] [pid | job]... or\n" ++
    "kill -l [exitstatus]").toList

/-- Every signal by its name, or its number if it has none, one a line. -/
def signalList : Text :=
  Text.ofLines <|
    (List.range (Signal.maxNumber + 1)).map fun (number : Nat) =>
      match Signal.all.find? fun signal => signal.number = number with
      | some signal => signal.name.toList
      | none =>
          if number < 34 then Text.decimal number
          else if number = 34 then "RTMIN".toList
          else if number < 50 then "RTMIN+".toList ++ Text.decimal ((number : Int) - 34)
          else if number < 64 then "RTMAX-".toList ++ Text.decimal (64 - (number : Int))
          else "RTMAX".toList

/-- The signal and the processes that arguments of `kill` name. -/
def signalAndTargets : List Text → Except Text (Nat × List Text)
  | [] => .error killUsage
  | argument :: rest =>
      match argument with
      | ['-', '-'] => if rest.isEmpty then .error killUsage else .ok (15, rest)
      | '-' :: option =>
          match Signal.number? option with
          | some signal => if rest.isEmpty then .error killUsage else .ok (signal, rest)
          | none =>
              match option with
              | ['s'] =>
                  match rest with
                  | [] => .error "No arg for -s option".toList
                  | name :: targets =>
                      match Signal.number? name with
                      | none => .error ("invalid signal number or name: ".toList ++ name)
                      | some signal =>
                          if targets.isEmpty then .error killUsage else .ok (signal, targets)
              | 's' :: name =>
                  match Signal.number? name with
                  | none => .error ("invalid signal number or name: ".toList ++ name)
                  | some signal =>
                      if rest.isEmpty then .error killUsage else .ok (signal, rest)
              | letter :: _ => .error ("Illegal option -".toList ++ [letter])
              | [] => .error killUsage
      | _ => .ok (15, argument :: rest)

/-- Send a signal to the shell itself; a trap gives the script that it sets off. -/
def receive
    (signal : Nat) :
    Run (Option Text) := do
  let shell ← get
  if !shell.isMain then
    if !Signal.isHarmless signal && (shell.traps.lookup signal).isNone then
      set { shell with doomed := some signal }
    return none
  else
    match if signal = 9 || signal = 19 then none else shell.traps.lookup signal with
    | some action => return some action
    | none =>
        if Signal.isHarmless signal then return none
        else if Signal.suspends signal then Run.interrupt .stuck
        else Run.interrupt (.killed signal)

/-- Send signals; the result also holds the scripts of traps that they set off. -/
def kill
    (arguments : List Text) :
    Run (BuiltinResult × List Text) := do
  match arguments with
  | [option] =>
      if option = "-l".toList then
        Run.print 1 (Text.encode signalList)
        return (.ok 0, [])
      else
        send
  | [option, status] =>
      if option = "-l".toList then
        match countOf status with
        | .error complaint => return (.error complaint, [])
        | .ok number =>
            let number := if 128 < number then number - 128 else number
            match Signal.all.find? fun signal => signal.number = number with
            | some signal =>
                Run.print 1 (Text.encode (signal.name.toList ++ ['\n']))
                return (.ok 0, [])
            | none => return (.error "invalid signal number or exit status".toList, [])
      else
        send
  | _ => send
where
  /-- Send the signal that the arguments name. -/
  send : Run (BuiltinResult × List Text) := do
    match signalAndTargets arguments with
    | .error complaint => return (.error complaint, [])
    | .ok (signal, targets) =>
        let mut actions := []
        let mut status := 0
        for target in targets do
          let number := if target.head? = some '-' then target.drop 1 else target
          match countOf number with
          | .error complaint => return (.error complaint, actions)
          | .ok _ =>
              if target = Interpreter.processId then
                match ← receive signal with
                | some action => actions := actions ++ [action]
                | none => pure ()
              else
                Run.complain "kill: No such process\n".toList
                status := 1
        return (.ok status, actions)

/-- Set what signals set off. -/
def trap
    (arguments : List Text) :
    Run BuiltinResult := do
  let arguments := if arguments.head? = some "--".toList then arguments.drop 1 else arguments
  match arguments with
  | [] => return .ok 0
  | first :: rest =>
      let resets := rest.isEmpty || first = ['-']
      let names := if rest.isEmpty then [first] else rest
      for name in names do
        match Signal.number? name with
        | none =>
            Run.print 2 (Text.encode ("trap: ".toList ++ name ++ ": bad trap\n".toList))
            return .ok 1
        | some signal =>
            modify fun shell =>
              let others := shell.traps.filter (·.1 != signal)
              { shell with traps := if resets then others else (signal, first) :: others }
      return .ok 0

/-- Wait for what runs in the background; the status is that of the last one named. -/
def wait
    (arguments : List Text) :
    Run BuiltinResult := do
  modify fun shell => { shell with clock := shell.clock.longer shell.jobsEnd }
  match arguments.getLast? with
  | none => return .ok 0
  | some argument =>
      match countOf argument with
      | .error complaint => return .error complaint
      | .ok _ => return .ok (((← get).jobs.lookup argument).getD 127)

end Builtin

end ModSkeleton.Shell
