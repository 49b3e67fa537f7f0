import ModSkeleton.Shell.Builtin
import ModSkeleton.Shell.Expand

namespace ModSkeleton.Shell

/-!
# Execution of commands

How a shell carries out commands. What is nested in a command is carried out by a
function that is handed in, so that every definition here but the last is a plain
function; `execute` ties them together with a bound on how deep commands nest and on
how often a loop turns. A shell that reaches the bound is stuck.
-/

/-- The wording of a fault of opening a file. -/
def openComplaint
    (creates : Bool)
    (path : Text) :
    AccessFault → Text
  | .system .notFound => openComplaintText "No such file" "Directory nonexistent"
  | .system .notDirectory => openComplaintText "No such file" "Directory nonexistent"
  | .system fault =>
      (if creates then "cannot create ".toList else "cannot open ".toList) ++ path ++
        ": ".toList ++ fault.message
  | .embeddedNull => AccessFault.embeddedNullMessage
where
  /-- The wording for something that is not there. -/
  openComplaintText (whenReading whenCreating : String) : Text :=
    if creates then "cannot create ".toList ++ path ++ ": ".toList ++ whenCreating.toList
    else "cannot open ".toList ++ path ++ ": ".toList ++ whenReading.toList

/-- The descriptor whose stream a path of the system stands for. -/
def systemDescriptor? : String → Option Nat
  | "/dev/stdin" => some 0
  | "/dev/stdout" => some 1
  | "/dev/stderr" => some 2
  | "/dev/fd/0" => some 0
  | "/dev/fd/1" => some 1
  | "/dev/fd/2" => some 2
  | _ => none

/-- Let a descriptor lead to a file, or say why that is not possible. -/
def openFile
    (descriptor : Nat)
    (mode : OpenMode)
    (path : Text) :
    Run (Option Text) := do
  let shell ← get
  if path = "/dev/null".toList then
    set (shell.setStream descriptor .nowhere)
    return none
  else
    match (systemDescriptor? (String.ofList path)).bind shell.stream? with
    | some stream =>
        set (shell.setStream descriptor stream)
        return none
    | none =>
        match mode with
        | .read =>
            match shell.workspace.entryAt true path with
            | .error fault => return some (openComplaint false path fault)
            | .ok (_, entry) =>
                let content := match entry with
                  | .file content => content
                  | _ => []
                let (shell, index) := shell.openChannel content
                set (shell.setStream descriptor (.channel index))
                return none
        | _ =>
            match shell.workspace.writablePlace path with
            | .error fault => return some (openComplaint true path fault)
            | .ok (location, content) =>
                let kept := if mode = .write then [] else content.getD []
                let workspace := shell.workspace.put location (.file kept)
                set ({ shell with workspace }.setStream descriptor (.file location))
                return none

/-- Carry out a redirection, or say why that is not possible. -/
def redirect
    (run : Command → Run Unit) :
    Redirection → Run (Option Text)
  | .file descriptor mode target => do openFile descriptor mode (← expandText run target)
  | .document descriptor index => do
      let body := (← get).documents.getD index []
      let text ← expandText run body
      let (shell, channel) := (← get).openChannel (Text.encode text)
      set (shell.setStream descriptor (.channel channel))
      return none
  | .duplicate descriptor source => do
      let text ← expandText run source
      let shell ← get
      match text with
      | ['-'] =>
          set (shell.closeStream descriptor)
          return none
      | [digit] =>
          if digit.isDigit then
            match shell.stream? (digit.toNat - '0'.toNat) with
            | some stream =>
                set (shell.setStream descriptor stream)
                return none
            | none => return some (text ++ ": Bad file descriptor".toList)
          else
            Run.fail "Syntax error: Bad fd number".toList
      | _ => Run.fail "Syntax error: Bad fd number".toList

/-- Carry out redirections; if one is not possible, complain and say so. -/
def redirectAll
    (run : Command → Run Unit) :
    List Redirection → Run Bool
  | [] => return true
  | redirection :: rest => do
      match ← redirect run redirection with
      | none => redirectAll run rest
      | some complaint =>
          Run.complain complaint
          Run.setStatus 2
          return false

/-- Set variables to the values of words. -/
def assignAll
    (run : Command → Run Unit) :
    List (Text × Word) → Run Unit
  | [] => return
  | (name, word) :: rest => do
      Run.assign name (← expandText run word)
      assignAll run rest

/-- Do something with some variables set and exported, and put them back afterwards. -/
def withAssignments
    (run : Command → Run Unit)
    (assignments : List (Text × Word))
    (action : Run Unit) :
    Run Unit := do
  if assignments.isEmpty then
    action
  else
    let before ← get
    assignAll run assignments
    modify fun shell =>
      { shell with exported := assignments.map (·.1) ++ shell.exported }
    let interruption ← Run.attempt action
    modify fun shell => { shell with exported := before.exported }
    for (name, _) in assignments do
      modify fun shell =>
        match before.binding? name with
        | some value => shell.setVariable name value
        | none => { shell with bindings := shell.bindings.filter (·.1 != name) }
    Run.resume interruption

/-- Carry out the commands of a script line by line, at most a number of lines. -/
def runLines
    (run : Command → Run Unit) :
    Nat → Cursor → Run Unit
  | 0, _ => return
  | fuel + 1, cursor => do
      match ({ cursor with documents := (← get).documents }).readLine with
      | .error error =>
          modify fun shell => { shell with line := error.line }
          Run.fail ("Syntax error: ".toList ++ error.complaint)
      | .ok (.ending, _) => return
      | .ok (.commands command, after) =>
          modify fun shell => { shell with documents := after.documents }
          match if (← get).hasOption 'n' then none else command with
          | some command => run command
          | none => pure ()
          runLines run fuel after

/-- Carry out a script. -/
def runScript
    (run : Command → Run Unit)
    (script : Text) :
    Run Unit :=
  runLines run (script.length + 2) (Cursor.ofScript script [])

/-- Carry out a script as part of a builtin, whose name complaints show. -/
def evaluate
    (run : Command → Run Unit)
    (context script : Text) :
    Run Unit := do
  let before ← get
  set { before with context }
  let interruption ← Run.attempt (runScript run script)
  modify fun shell => { shell with context := before.context, line := before.line }
  Run.resume interruption

/-- Carry out the scripts of traps, which leave the status as it is. -/
def runTraps
    (run : Command → Run Unit) :
    List Text → Run Unit
  | [] => return
  | action :: rest => do
      let status := (← get).status
      runScript run action
      Run.setStatus status
      runTraps run rest

/-- Carry out a script to its end, with what is to be done on exit. -/
def runToEnd
    (run : Command → Run Unit)
    (script : Text) :
    Run Unit := do
  let interruption ← Run.attempt (runScript run script)
  match interruption with
  | some (.killed _) => Run.resume interruption
  | some .stuck => Run.resume interruption
  | _ =>
      match (← get).traps.lookup Signal.exitNumber with
      | none => return
      | some action =>
          let status := (← get).status
          match ← Run.attempt (runScript run action) with
          | none => Run.setStatus status
          | some .exits => return
          | some other => Run.interrupt other

/-- What a shell is started with. -/
structure Start where
  script : Text
  name : Text
  arguments : List Text
  options : Text
  readsInput : Bool
  deriving Repr, DecidableEq

namespace Start

/-- The arguments of a shell behind its options, its options and whether it gets a script. -/
def readOptions : List Text → Text → Bool → Except Text (List Text × Text × Bool)
  | [], options, hasScript => .ok ([], options, hasScript)
  | argument :: rest, options, hasScript =>
      match argument with
      | ['-'] => .ok (rest, options, hasScript)
      | ['-', '-'] => .ok (rest, options, hasScript)
      | sign :: letters =>
          if sign ≠ '-' && sign ≠ '+' then .ok (argument :: rest, options, hasScript)
          else if letters = ['o'] then
            match rest with
            | [] => .ok ([], options, hasScript)
            | name :: later =>
                match Builtin.optionNames.find? fun option => option.2 = name with
                | some (letter, _) =>
                    readOptions later (Builtin.switched (sign = '-') letter options) hasScript
                | none => .error ("Illegal option ".toList ++ [sign, 'o', ' '] ++ name)
          else
            let switches := letters.filter (· != 'c')
            match Builtin.switchAll (sign = '-') switches options with
            | .ok options => readOptions rest options (hasScript || letters.contains 'c')
            | .error complaint => .error complaint
      | [] => .ok (argument :: rest, options, hasScript)

/-- What arguments start a shell with, or the complaint about them. -/
def ofArguments
    (workspace : Workspace)
    (invoked : Text)
    (input : Text)
    (arguments : List Text) :
    Except Text Start := do
  let (rest, options, hasScript) ← readOptions arguments [] false
  if hasScript then
    match rest with
    | [] => throw "-c requires an argument".toList
    | script :: rest =>
        return ⟨script, rest.headD invoked, rest.drop 1, options, false⟩
  else
    match rest with
    | [] => return ⟨input, invoked, [], options, true⟩
    | path :: rest =>
        match workspace.fetch path with
        | .ok script => return ⟨script, path, rest, options, false⟩
        | .error (.system .isDirectory) => return ⟨[], path, rest, options, false⟩
        | .error fault => throw (openComplaint false path fault)

end Start

/-- The complaint of a shell that cannot be started. -/
def startComplaint
    (invoked complaint : Text) :
    Text.Bytes :=
  Text.encode (invoked ++ ": 0: ".toList ++ complaint ++ ['\n'])

/-- The state of a shell that another one starts. -/
def Start.shell
    (start : Start)
    (parent : Interpreter) :
    Interpreter :=
  { parent with
    name := start.name
    arguments := start.arguments
    bindings := parent.bindings.filter fun pair => parent.exported.contains pair.1
    locked := []
    locals := none
    functions := []
    options := start.options
    traps := []
    status := 0
    line := 0
    context := []
    isMain := true
    doomed := none
    tested := false
    loops := 0
    calls := 0
    jobs := []
    documents := [] }

/-- Run another shell. -/
def runNested
    (run : Command → Run Unit)
    (invoked : Text)
    (arguments : List Text) :
    Run Unit := do
  let parent ← get
  let input := parent.readable 0
  match Start.ofArguments parent.workspace invoked (Text.ofBytes input) arguments with
  | .error complaint =>
      Run.print 2 (startComplaint invoked complaint)
      Run.setStatus 2
  | .ok start =>
      if start.readsInput then
        modify fun shell => shell.leaveUnread 0 []
      modify start.shell
      let interruption ← Run.attempt (runToEnd run start.script)
      modify fun child =>
        { parent.rejoin child with doomed := parent.doomed, documents := parent.documents }
      match interruption with
      | some .stuck => Run.interrupt .stuck
      | some (.killed signal) =>
          Run.setStatus (128 + signal)
          let obituary := Signal.obituaryOf signal
          unless obituary.isEmpty do
            Run.print 2 (Text.encode (obituary ++ ['\n']))
      | _ => return

/-- Run a program. -/
def runProgram
    (run : Command → Run Unit)
    (program : Command.ProgramName)
    (invoked : Text)
    (arguments : List Text) :
    Run Unit := do
  if program = .sh then
    runNested run invoked arguments
  else
    let shell ← get
    let execution := Command.Program.run shell.workspace (shell.readable 0) program arguments
    if execution.readsInput then
      modify fun shell => shell.leaveUnread 0 []
    for (channel, bytes) in execution.writes do
      Run.print (if channel = .output then 1 else 2) bytes
    modify fun shell =>
      { shell with
        clock := shell.clock.add execution.duration
        status := match execution.ending with
          | .exits code => code
          | .killed signal => 128 + signal }

/-- Run the program that a word names, or complain that there is none. -/
def runExternal
    (run : Command → Run Unit)
    (word : Text)
    (arguments : List Text) :
    Run Unit := do
  match Command.ProgramName.ofWord? word with
  | some program => runProgram run program word arguments
  | none =>
      let fault := Command.programFault (← get).workspace word
      let denied := fault = .system (.device .permissionDenied)
      Run.complain <|
        word ++ if denied then ": Permission denied".toList else ": not found".toList
      Run.setStatus (if denied && word.contains '/' then 126 else 127)

/-- Do something with a bound number of levels of loops around it. -/
def withLoops
    (change : Nat → Nat)
    (action : Run Unit) :
    Run Unit := do
  let before := (← get).loops
  modify fun shell => { shell with loops := change shell.loops }
  let interruption ← Run.attempt action
  modify fun shell => { shell with loops := before }
  Run.resume interruption

/-- How many calls of functions may be under way. -/
def maxCalls : Nat :=
  1000

/-- Call a function. -/
def callFunction
    (run : Command → Run Unit)
    (body : Command)
    (arguments : List Text) :
    Run Unit := do
  let before ← get
  if before.calls = maxCalls then
    Run.fail "Maximum function recursion depth (1000) reached".toList
  set { before with arguments, locals := some [], calls := before.calls + 1 }
  let interruption ← Run.attempt (withLoops (fun _ => 0) (run body))
  for (name, value?) in (← get).locals.getD [] do
    modify fun shell =>
      match value? with
      | some value => shell.setVariable name value
      | none => { shell with bindings := shell.bindings.filter (·.1 != name) }
  modify fun shell =>
    { shell with
      arguments := before.arguments
      locals := before.locals
      calls := before.calls }
  if interruption = some .returns then return
  else Run.resume interruption

/-- Run a builtin by its name; there is no result if it is none. -/
def runBuiltin
    (run : Command → Run Unit)
    (name : String)
    (arguments : List Text) :
    Run (Option BuiltinResult) := do
  match name with
  | ":" => return some (.ok 0)
  | "true" => return some (.ok 0)
  | "false" => return some (.ok 1)
  | "echo" => some <$> Builtin.echo arguments
  | "printf" => some <$> Builtin.printf arguments
  | "test" => some <$> Builtin.test arguments
  | "[" => some <$> Builtin.bracketedTest arguments
  | "exit" => some <$> Builtin.exit arguments
  | "return" => some <$> Builtin.returnFrom arguments
  | "break" => some <$> Builtin.leave .breaks arguments
  | "continue" => some <$> Builtin.leave .continues arguments
  | "cd" => some <$> Builtin.changeDirectory arguments
  | "chdir" => some <$> Builtin.changeDirectory arguments
  | "pwd" => some <$> Builtin.printDirectory
  | "set" => some <$> Builtin.setAll arguments
  | "shift" => some <$> Builtin.shift arguments
  | "unset" => some <$> Builtin.unsetAll arguments
  | "export" =>
      some <$> Builtin.declare
        (fun name shell => { shell with exported := name :: shell.exported })
        (arguments.filter (· ≠ "-p".toList))
  | "readonly" =>
      some <$> Builtin.declare
        (fun name shell => { shell with locked := name :: shell.locked })
        (arguments.filter (· ≠ "-p".toList))
  | "local" => some <$> Builtin.declareLocal arguments
  | "read" => some <$> Builtin.read arguments
  | "type" => some <$> Builtin.describe arguments
  | "trap" => some <$> Builtin.trap arguments
  | "wait" => some <$> Builtin.wait arguments
  | "kill" =>
      let (result, actions) ← Builtin.kill arguments
      runTraps run actions
      return some result
  | "eval" =>
      Run.setStatus 0
      evaluate run "eval: ".toList (Text.joinWith [' '] arguments)
      return some (.ok (← get).status)
  | "." =>
      match arguments with
      | [] => return some (.ok 0)
      | path :: _ =>
          match (← get).workspace.fetch path with
          | .error fault =>
              return some <| .error <|
                if path.contains '/' then openComplaint false path fault
                else path ++ ": not found".toList
          | .ok script =>
              Run.setStatus 0
              match ← Run.attempt (evaluate run (path ++ ": ".toList) script) with
              | some .returns => pure ()
              | interruption => Run.resume interruption
              return some (.ok (← get).status)
  | _ =>
      if ["alias", "bg", "fg", "getopts", "hash", "jobs", "times", "ulimit", "umask",
          "unalias"].contains name then
        return some (.ok 0)
      else
        return none

/-- Run a builtin or a program, but no function. -/
def runWithoutFunctions
    (run : Command → Run Unit)
    (isSpecial : Bool)
    (word : Text)
    (arguments : List Text) :
    Run Unit := do
  match ← runBuiltin run (String.ofList word) arguments with
  | none => runExternal run word arguments
  | some (.ok status) => Run.setStatus status
  | some (.error complaint) =>
      Run.complain (word ++ ": ".toList ++ complaint)
      Run.setStatus 2
      if isSpecial then
        Run.interrupt .exits

/-- Run what words name: a builtin that starts others, a function, a builtin or a program. -/
def runWords
    (run : Command → Run Unit)
    (word : Text)
    (arguments : List Text) :
    Run Unit := do
  match (← get).functions.lookup word with
  | some body => callFunction run body arguments
  | none =>
      match String.ofList word, arguments with
      | "exec", [] => Run.setStatus 0
      | "exec", program :: rest =>
          modify fun shell => { shell with context := "exec: ".toList, traps := [] }
          runExternal run program rest
          Run.interrupt .exits
      | "command", [] => Run.setStatus 0
      | "command", name :: rest =>
          if name = "-v".toList then
            match ← Builtin.find rest with
            | .ok status => Run.setStatus status
            | .error _ => Run.setStatus 2
          else if name = "-V".toList then
            match ← Builtin.describe rest with
            | .ok status => Run.setStatus status
            | .error _ => Run.setStatus 2
          else
            runWithoutFunctions run false name rest
      | _, _ =>
          runWithoutFunctions run (Grammar.specialBuiltins.contains word) word arguments

/-- Whether a word holds the output of a command. -/
def holdsOutput
    (word : Word) :
    Bool :=
  word.any fun part =>
    match part with
    | .output _ _ => true
    | _ => false

/-- End the shell if it insists on success and a command has failed. -/
def checkSuccess : Run Unit := do
  let shell ← get
  if shell.hasOption 'e' && !shell.tested && shell.status != 0 then
    Run.interrupt .exits

/-- Print a command before it is run, if the shell is asked to. -/
def trace
    (words : List Text) :
    Run Unit := do
  if (← get).hasOption 'x' && !words.isEmpty then
    Run.print 2 (Text.encode ("+ ".toList ++ Text.joinWith [' '] words ++ ['\n']))

/-- Carry out a simple command. -/
def runSimple
    (run : Command → Run Unit)
    (assignments : List (Text × Word))
    (words : List Word)
    (redirections : List Redirection) :
    Run Unit := do
  let fields ← expandFields run words
  match fields with
  | [] =>
      let holds := (assignments.map (·.2) ++ words).any holdsOutput
      Run.keepingDescriptors do
        if ← redirectAll run redirections then
          for (name, word) in assignments do
            let value ← expandText run word
            Run.assign name value
            trace [name ++ '=' :: value]
          unless holds do
            Run.setStatus 0
  | word :: arguments =>
      let isSpecial := Grammar.specialBuiltins.contains word
      let action : Run Unit := do
        if ← redirectAll run redirections then
          trace fields
          if isSpecial then
            assignAll run assignments
            runWords run word arguments
          else
            withAssignments run assignments (runWords run word arguments)
        else if isSpecial then
          Run.interrupt .exits
      if word = "exec".toList then action
      else Run.keepingDescriptors action
  checkSuccess

/-- Carry out the stages of a pipeline behind a channel that the first of them reads. -/
def runStages
    (run : Command → Run Unit)
    (start : Command.Duration) :
    Option Nat → Command.Duration → List Command → Run Unit
  | _, ends, [] => modify fun shell => { shell with clock := ends }
  | input, ends, stage :: rest => do
      let (shell, index) := (← get).openChannel []
      set { shell with clock := start }
      Run.inCopy do
        match input with
        | some channel => modify fun copy => copy.setStream 0 (.channel channel)
        | none => pure ()
        unless rest.isEmpty do
          modify fun copy => copy.setStream 1 (.channel index)
        run stage
      runStages run start (some index) (ends.longer (← get).clock) rest

/-- Carry out a command beside the shell. -/
def runBackground
    (run : Command → Run Unit)
    (command : Command) :
    Run Unit := do
  let start := (← get).clock
  Run.inCopy do
    modify fun copy => copy.setStream 0 .nowhere
    run command
  modify fun shell =>
    { shell with
      jobsEnd := shell.jobsEnd.longer shell.clock
      clock := start
      jobs := (shell.nextJob, shell.status) :: shell.jobs
      status := 0 }

/-- Whether a loop goes on after its body was interrupted, if it was. -/
def goesOn : Option Interruption → Run Bool
  | none => return true
  | some (.continues levels) =>
      if levels ≤ 1 then return true else Run.interrupt (.continues (levels - 1))
  | some (.breaks levels) =>
      if levels ≤ 1 then return false else Run.interrupt (.breaks (levels - 1))
  | some other => Run.interrupt other

/-- Carry out a loop, at most a number of times. -/
def runLoop
    (run : Command → Run Unit)
    (untilSuccess : Bool)
    (condition body : Command) :
    Nat → Nat → Run Unit
  | 0, _ => Run.interrupt .stuck
  | turns + 1, status => do
      let tested ← Run.attempt (Run.tested (run condition))
      if ← goesOn tested then
        if tested.isSome then runLoop run untilSuccess condition body turns status
        else if ((← get).status == 0) != untilSuccess then
          if ← goesOn (← Run.attempt (run body)) then
            runLoop run untilSuccess condition body turns (← get).status
        else
          Run.setStatus status

/-- Carry out a loop over values. -/
def runEach
    (run : Command → Run Unit)
    (name : Text)
    (body : Command) :
    List Text → Run Unit
  | [] => return
  | value :: rest => do
      Run.assign name value
      if ← goesOn (← Run.attempt (run body)) then
        runEach run name body rest

/-- Whether a text fits one of some patterns. -/
def fitsAny
    (run : Command → Run Unit)
    (subject : Text) :
    List Word → Run Bool
  | [] => return false
  | word :: rest => do
      let pattern := Pattern.ofGlyphs (glyphsOf (← expandItems run word))
      if pattern.fits subject then return true
      else fitsAny run subject rest

/-- Carry out the first branch whose pattern fits. -/
def runBranches
    (run : Command → Run Unit)
    (subject : Text) :
    List (List Word × Option Command) → Run Unit
  | [] => Run.setStatus 0
  | (patterns, body) :: rest => do
      if ← fitsAny run subject patterns then
        match body with
        | some command => run command
        | none => Run.setStatus 0
      else
        runBranches run subject rest

/-- Carry out a command, with a bound on how deep commands nest. -/
def execute : Nat → Command → Run Unit
  | 0, _ => Run.interrupt .stuck
  | fuel + 1, command => do
      match command with
      | .simple line assignments words redirections =>
          modify fun shell => { shell with line }
          runSimple (execute fuel) assignments words redirections
      | .negation body =>
          Run.tested (execute fuel body)
          modify fun shell => { shell with status := if shell.status = 0 then 1 else 0 }
      | .pipeline stages =>
          let start := (← get).clock
          runStages (execute fuel) start none start stages
          checkSuccess
      | .conjunction first second =>
          Run.tested (execute fuel first)
          if (← get).status = 0 then
            execute fuel second
      | .disjunction first second =>
          Run.tested (execute fuel first)
          if (← get).status ≠ 0 then
            execute fuel second
      | .sequence first second =>
          execute fuel first
          execute fuel second
      | .background body => runBackground (execute fuel) body
      | .subshell body =>
          Run.inCopy (execute fuel body)
          checkSuccess
      | .redirected line body redirections =>
          modify fun shell => { shell with line }
          Run.keepingDescriptors do
            if ← redirectAll (execute fuel) redirections then
              execute fuel body
          checkSuccess
      | .choice condition success failure =>
          Run.tested (execute fuel condition)
          if (← get).status = 0 then
            execute fuel success
          else
            match failure with
            | some branch => execute fuel branch
            | none => Run.setStatus 0
      | .loop untilSuccess condition body =>
          withLoops (· + 1) (runLoop (execute fuel) untilSuccess condition body fuel 0)
      | .each line name words body =>
          modify fun shell => { shell with line }
          let values ← match words with
            | some words => expandFields (execute fuel) words
            | none => pure (← get).arguments
          Run.setStatus 0
          withLoops (· + 1) (runEach (execute fuel) name body values)
      | .selection line subject branches =>
          modify fun shell => { shell with line }
          let subject ← expandText (execute fuel) subject
          runBranches (execute fuel) subject branches
      | .definition name body =>
          modify fun shell =>
            { shell with
              functions := (name, body) :: shell.functions.filter (·.1 != name)
              status := 0 }

end ModSkeleton.Shell
