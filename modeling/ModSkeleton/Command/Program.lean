import ModSkeleton.Command.FileName
import ModSkeleton.Command.Format
import ModSkeleton.Command.Process
import ModSkeleton.Workspace.Access

namespace ModSkeleton.Command

/-!
# Programs

The standard programs that commands are made of, as functions of a workspace, their
input and their arguments. None of them changes the workspace.
-/

/-- The programs that can be found. -/
inductive ProgramName where
  | sh
  | echo
  | printf
  | cat
  | ls
  | sleep
  | succeed
  | fail
  deriving Repr, DecidableEq

namespace ProgramName

/-- The names of the programs. -/
def table : List (Text × ProgramName) :=
  [("sh".toList, sh), ("echo".toList, echo), ("printf".toList, printf), ("cat".toList, cat),
   ("ls".toList, ls), ("sleep".toList, sleep), ("true".toList, succeed), ("false".toList, fail)]

/-- The directories that programs are installed in. -/
def directories : List Text :=
  ["/bin/".toList, "/usr/bin/".toList]

/-- The program that a word names, with or without its directory. -/
def ofWord?
    (word : Text) :
    Option ProgramName :=
  match directories.find? (·.isPrefixOf word) with
  | some directory => table.lookup (word.drop directory.length)
  | none => table.lookup word

end ProgramName

/-- Why a word cannot be run as a program. -/
def programFault
    (workspace : Workspace)
    (word : Text) :
    AccessFault :=
  if word.contains '/' then
    match workspace.entryAt true word with
    | .ok _ => .system (.device .permissionDenied)
    | .error fault => fault
  else if FileTree.maxNameSize < Text.utf8Size word then .system .nameTooLong
  else if word.isEmpty || word = Path.currentName || word = Path.parentName then
    .system (.device .permissionDenied)
  else .system .notFound

namespace Program

/-- What a program says about how to use it. -/
def hint
    (program : String) :
    Text :=
  "\nTry '".toList ++ program.toList ++ " --help' for more information.".toList

/-- Whether an argument is made of the options of `echo`. -/
def isEchoOption : Text → Bool
  | '-' :: letters =>
      !letters.isEmpty && letters.all fun c => c = 'n' || c = 'e' || c = 'E'
  | _ => false

/-- Whether escapes are read, where the last option about them decides. -/
def readsEscapes
    (options : List Text) :
    Bool :=
  (options.flatten.filter fun c => c = 'e' || c = 'E').getLast? = some 'e'

/-- The escape of `echo` that a text behind a backslash starts with. -/
def echoEscape
    (text : Text) :
    Escape :=
  match text with
  | 'x' :: rest =>
      let (value, count) := hexDigits 2 rest
      if count = 0 then .bytes [92] 0 else .bytes [UInt8.ofNat value] (count + 1)
  | c :: _ =>
      if c = 'e' || c = 'c' || Text.isOctal c || (escapeLetter? c).isSome then
        escapeOf .program true text
      else
        .bytes [92] 0
  | [] => .bytes [92] 0

/-- A line of `echo` with its escapes read, up to one that stops the output. -/
def echoUnescape : Nat → Text → Text.Bytes × Bool
  | _, [] => ([], false)
  | done + 1, _ :: rest => echoUnescape done rest
  | 0, c :: rest =>
      if c = '\\' then
        match echoEscape rest with
        | .bytes bytes size =>
            let (later, stopped) := echoUnescape size rest
            (bytes ++ later, stopped)
        | _ => ([], true)
      else
        let (later, stopped) := echoUnescape 0 rest
        (String.utf8EncodeChar c ++ later, stopped)

/-- Print arguments in a line; the line stays open on request. -/
def echo
    (arguments : List Text) :
    Execution :=
  let options := arguments.takeWhile isEchoOption
  let line := Text.joinWith [' '] (arguments.dropWhile isEchoOption)
  let (bytes, stopped) :=
    if readsEscapes options then echoUnescape 0 line else (Text.encode line, false)
  let open? := stopped || options.any (·.contains 'n')
  .printing (if open? then bytes else bytes ++ [10])

/-- Print arguments by a format. -/
def printf
    (arguments : List Text) :
    Execution :=
  match if arguments.head? = some "--".toList then arguments.drop 1 else arguments with
  | [] => .complaining ("printf: missing operand".toList ++ hint "printf") 1
  | format :: arguments =>
      let printed := printFormatted .program format arguments
      let complaints := printed.complaints.map fun complaint =>
        (Channel.errors, Text.encode ("printf: ".toList ++ complaint ++ ['\n']))
      ⟨complaints ++ [(.output, printed.output)], .exits printed.status, .zero, false⟩

/-- The wording of a fault. -/
def reason : AccessFault → Text
  | .system fault => fault.message
  | .embeddedNull => AccessFault.embeddedNullMessage

/-- The options and operands among arguments. -/
def splitOptions : List Text → Text × List Text
  | [] => ([], [])
  | argument :: rest =>
      if argument = "--".toList then ([], rest)
      else
        let (letters, operands) := splitOptions rest
        match argument with
        | '-' :: option :: more => (option :: (more ++ letters), operands)
        | _ => (letters, argument :: operands)

/-- The complaint about an option that a program does not know. -/
def unknownOption
    (program : String)
    (letter : Char)
    (code : Nat) :
    Execution :=
  .complaining
    (program.toList ++ ": invalid option -- '".toList ++ [letter, '\''] ++ hint program) code

/-- How `cat` shows what it prints. -/
structure CatStyle where
  numbersAll : Bool
  numbersFilled : Bool
  squeezes : Bool
  marksEnds : Bool
  marksTabs : Bool
  showsHidden : Bool
  deriving Repr, DecidableEq

/-- The style that options of `cat` ask for. -/
def CatStyle.ofOptions
    (options : Text) :
    CatStyle :=
  let has (letters : String) : Bool := letters.toList.any options.contains
  ⟨has "n", has "b", has "s", has "AEe", has "ATt", has "Avet"⟩

/-- A byte as `cat` shows it. -/
def CatStyle.byte
    (style : CatStyle)
    (byte : UInt8) :
    Text.Bytes :=
  if byte = 9 then (if style.marksTabs then [94, 73] else [9])
  else if !style.showsHidden then [byte]
  else
    let visible (low : UInt8) : Text.Bytes :=
      if low < 32 then [94, low + 64] else if low = 127 then [94, 63] else [low]
    if byte < 128 then visible byte else 77 :: 45 :: visible (byte - 128)

/-- The number of a line in front of it. -/
def lineNumber
    (number : Nat) :
    Text.Bytes :=
  let digits := Nat.toDigits 10 number
  Text.encode (List.replicate (6 - digits.length) ' ' ++ digits ++ ['\t'])

/-- The lines of bytes, each with whether a newline ends it. -/
def byteLines : Text.Bytes → List (Text.Bytes × Bool)
  | [] => []
  | byte :: rest =>
      if byte = 10 then ([], true) :: byteLines rest
      else
        match byteLines rest with
        | [] => [([byte], false)]
        | (line, ended) :: lines => (byte :: line, ended) :: lines

/-- Lines in a style, behind a number of printed lines and perhaps an empty one. -/
def CatStyle.lines
    (style : CatStyle) :
    Nat → Bool → List (Text.Bytes × Bool) → Text.Bytes
  | _, _, [] => []
  | number, afterEmpty, (line, ended) :: rest =>
      let isEmpty := line.isEmpty && ended
      if style.squeezes && isEmpty && afterEmpty then style.lines number true rest
      else
        let numbered := if style.numbersFilled then !isEmpty else style.numbersAll
        (if numbered then lineNumber (number + 1) else []) ++ line.flatMap style.byte ++
          (if ended then (if style.marksEnds then [36, 10] else [10]) else []) ++
          style.lines (if numbered then number + 1 else number) isEmpty rest

/-- Print files one after another. -/
def cat
    (workspace : Workspace)
    (input : Text.Bytes)
    (arguments : List Text) :
    Execution :=
  let (options, operands) := splitOptions arguments
  match options.find? fun letter => !"nbsETAvetu".toList.contains letter with
  | some letter => unknownOption "cat" letter 1
  | none =>
      let style := CatStyle.ofOptions options
      let styled (bytes : Text.Bytes) : Text.Bytes :=
        if options.isEmpty then bytes else style.lines 0 false (byteLines bytes)
      let paths := if operands.isEmpty then [['-']] else operands
      let execution := paths.foldl
        (fun (before : Execution) path =>
          before.worse <|
            if path = "/dev/null".toList then .silent 0
            else if path = ['-'] || path = "/dev/stdin".toList then
              { Execution.printing (if before.readsInput then [] else input) with
                readsInput := true }
            else
              match workspace.fetchBytes path with
              | .ok content => .printing content
              | .error fault =>
                  .complaining
                    ("cat: ".toList ++ shownName path ++ ": ".toList ++ reason fault) 1)
        (.silent 0)
      if options.isEmpty then execution
      else
        { execution with
          writes :=
            execution.writes.filter (·.1 = .errors) ++
              [(.output, styled (execution.written .output))] }

/-- How `ls` lists. -/
structure ListStyle where
  hidden : Bool
  dots : Bool
  themselves : Bool
  backwards : Bool
  marksDirectories : Bool
  marksLinks : Bool
  deriving Repr, DecidableEq

/-- The style that options of `ls` ask for. -/
def ListStyle.ofOptions
    (options : Text) :
    ListStyle :=
  ⟨options.contains 'a' || options.contains 'A', options.contains 'a', options.contains 'd',
    options.contains 'r', options.contains 'F' || options.contains 'p', options.contains 'F'⟩

/-- Names in the order of a style. -/
def ListStyle.sorted
    (style : ListStyle)
    (names : List (Text × Entry)) :
    List (Text × Entry) :=
  let ascending := names.mergeSort fun first second => Text.precedes first.1 second.1
  if style.backwards then ascending.reverse else ascending

/-- A name in a style. -/
def ListStyle.line
    (style : ListStyle)
    (item : Text × Entry) :
    Text :=
  item.1 ++
    match item.2 with
    | .directory => if style.marksDirectories then ['/'] else []
    | .file _ => []
    | .link _ => if style.marksLinks then ['@'] else []

/-- The names in a directory in a style, one a line. -/
def ListStyle.directoryLines
    (style : ListStyle)
    (tree : FileTree)
    (location : Location) :
    Text :=
  let names := (tree.childNames location).filter fun name =>
    style.hidden || name.head? ≠ some '.'
  let items := names.filterMap fun name =>
    (tree.get? (location ++ [name])).map (name, ·)
  let dots : List (Text × Entry) :=
    if style.dots then [(Path.currentName, .directory), (Path.parentName, .directory)] else []
  Text.ofLines ((style.sorted (dots ++ items)).map style.line)

/-- List files and the names in directories. -/
def ls
    (workspace : Workspace)
    (arguments : List Text) :
    Execution :=
  let (options, operands) := splitOptions arguments
  match options.find? fun letter => !"1aAdrFpCU".toList.contains letter with
  | some letter => unknownOption "ls" letter 2
  | none =>
      let style := ListStyle.ofOptions options
      let paths := if operands.isEmpty then [Path.currentName] else operands
      let follows := !(style.themselves || style.marksLinks)
      let found := paths.map fun path =>
        let outcome := match workspace.entryAt follows path with
          | .ok found => Except.ok found
          | .error fault =>
              match workspace.entryAt false path with
              | .ok found => .ok found
              | .error _ => .error fault
        (path, outcome)
      let complaints := found.filterMap fun (path, outcome) =>
        match outcome with
        | .ok _ => none
        | .error fault =>
            some ("ls: cannot access ".toList ++ quotedName path ++ ": ".toList ++
              reason fault ++ ['\n'])
      let files := found.filterMap fun (path, outcome) =>
        match outcome with
        | .ok (_, .directory) => if style.themselves then some (path, .directory) else none
        | .ok (_, entry) => some (path, entry)
        | .error _ => none
      let directories : List (Text × Location) := found.filterMap fun (path, outcome) =>
        match outcome with
        | .ok (location, .directory) => if style.themselves then none else some (path, location)
        | _ => none
      let ordered :=
        let ascending := directories.mergeSort fun first second =>
          Text.precedes first.1 second.1
        if style.backwards then ascending.reverse else ascending
      let headed := !files.isEmpty || 1 < paths.length
      let blocks := ordered.map fun (path, location) =>
        (if headed then path ++ ":\n".toList else []) ++
          style.directoryLines workspace.tree location
      let fileBlock :=
        if files.isEmpty then [] else [Text.ofLines ((style.sorted files).map style.line)]
      { writes :=
          complaints.map (fun complaint => (.errors, Text.encode complaint)) ++
            [(.output, Text.encode (Text.joinWith ['\n'] (fileBlock ++ blocks)))]
        ending := .exits (if complaints.isEmpty then 0 else 2)
        duration := .zero
        readsInput := false }

/-- Seconds in the unit that a letter names. -/
def unitOf? : Text → Option Int
  | [] => some 1
  | ['s'] => some 1
  | ['m'] => some 60
  | ['h'] => some 3600
  | ['d'] => some 86400
  | _ => none

/-- The duration that a number with or without a unit denotes. -/
def intervalOf?
    (text : Text) :
    Option Duration :=
  let (decimal, rest) := Decimal.read text
  if rest.length = text.length || (decimal.negative && decimal.units != 0) then none
  else
    (unitOf? rest).map fun unit =>
      ⟨(decimal.units * Nat.pow 10 decimal.exponent.toNat : Nat) * unit,
        (-decimal.exponent).toNat⟩

/-- Wait for the sum of some durations. -/
def sleep
    (arguments : List Text) :
    Execution :=
  let (options, operands) := splitOptions arguments
  match options, operands with
  | letter :: _, _ => unknownOption "sleep" letter 1
  | [], [] => .complaining ("sleep: missing operand".toList ++ hint "sleep") 1
  | [], operands =>
      let complaints := operands.filter fun operand => (intervalOf? operand).isNone
      if complaints.isEmpty then
        { Execution.silent 0 with
          duration := (operands.filterMap intervalOf?).foldl Duration.add .zero }
      else
        .complaining
          (Text.joinWith ['\n']
            (complaints.map fun operand =>
              "sleep: invalid time interval ".toList ++ curlyQuoted operand) ++ hint "sleep") 1

/-- Run a program that is not a shell. -/
def run
    (workspace : Workspace)
    (input : Text.Bytes)
    (program : ProgramName)
    (arguments : List Text) :
    Execution :=
  match program with
  | .echo => echo arguments
  | .printf => printf arguments
  | .cat => cat workspace input arguments
  | .ls => ls workspace arguments
  | .sleep => sleep arguments
  | .fail => .silent 1
  | .sh => .silent 0
  | .succeed => .silent 0

end Program

end ModSkeleton.Command
