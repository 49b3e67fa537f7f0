import ModSkeleton.Command.Program
import ModSkeleton.Shell.Script

namespace ModSkeleton.Shell

/-!
# Shells

A shell has parameters, functions and descriptors, and it works in a workspace. What
it prints goes to channels, which stand for the pipes that it was started with and
for those that it opens itself; a channel is read from its front.
-/

/-- What a descriptor leads to. -/
inductive Stream where
  | channel (index : Nat)
  | file (location : Location)
  | nowhere
  deriving Repr, DecidableEq

/-- The state of a shell. -/
structure Interpreter where
  name : Text
  arguments : List Text
  bindings : List (Text × Text)
  exported : List Text
  locked : List Text
  locals : Option (List (Text × Option Text))
  functions : List (Text × Command)
  options : Text
  traps : List (Nat × Text)
  status : Nat
  line : Nat
  context : Text
  isMain : Bool
  doomed : Option Nat
  tested : Bool
  loops : Nat
  calls : Nat
  descriptors : List (Nat × Stream)
  documents : List Word
  workspace : Workspace
  channels : List Text.Bytes
  clock : Command.Duration
  jobsEnd : Command.Duration
  jobs : List (Text × Nat)

/-- Why a shell does not go on with the next command. -/
inductive Interruption where
  | exits
  | killed (signal : Nat)
  | breaks (levels : Nat)
  | continues (levels : Nat)
  | returns
  | stuck
  deriving Repr, DecidableEq

/-- A run of a shell, which keeps its state when it is interrupted. -/
abbrev Run := ExceptT Interruption (StateM Interpreter)

namespace Interpreter

/-- The number of the process of a shell. -/
def processId : Text :=
  "4711".toList

/-- The number of the process of the next job in the background. -/
def nextJob
    (shell : Interpreter) :
    Text :=
  Text.decimal (4712 + shell.jobs.length)

/-- The value of a variable. -/
def binding?
    (shell : Interpreter)
    (name : Text) :
    Option Text :=
  shell.bindings.lookup name

/-- A shell with a variable set. -/
def setVariable
    (shell : Interpreter)
    (name value : Text) :
    Interpreter :=
  { shell with bindings := (name, value) :: shell.bindings.filter (·.1 != name) }

/-- A shell without a variable. -/
def unsetVariable
    (shell : Interpreter)
    (name : Text) :
    Interpreter :=
  { shell with
    bindings := shell.bindings.filter (·.1 != name)
    exported := shell.exported.filter (· != name) }

/-- Whether an option is on. -/
def hasOption
    (shell : Interpreter)
    (option : Char) :
    Bool :=
  shell.options.contains option

/-- The characters at which unquoted results are split. -/
def separators
    (shell : Interpreter) :
    Text :=
  (shell.binding? "IFS".toList).getD " \t\n".toList

/-- What a text puts between arguments that it joins. -/
def joiner
    (shell : Interpreter) :
    Text :=
  shell.separators.take 1

/-- The value of a parameter. -/
def parameter?
    (shell : Interpreter)
    (name : Text) :
    Option Text :=
  match name with
  | ['#'] => some (Text.decimal shell.arguments.length)
  | ['?'] => some (Text.decimal shell.status)
  | ['$'] => some processId
  | ['-'] => some shell.options
  | ['!'] => shell.jobs.head?.map (·.1)
  | ['@'] => some (Text.joinWith [' '] shell.arguments)
  | ['*'] => some (Text.joinWith shell.joiner shell.arguments)
  | ['0'] => some shell.name
  | _ =>
      if name.all Char.isDigit then
        shell.arguments[(Arithmetic.digitsIn 10 name).toNat - 1]?
      else
        shell.binding? name

/-- What a descriptor leads to. -/
def stream?
    (shell : Interpreter)
    (descriptor : Nat) :
    Option Stream :=
  shell.descriptors.lookup descriptor

/-- A shell with a descriptor that leads elsewhere. -/
def setStream
    (shell : Interpreter)
    (descriptor : Nat)
    (stream : Stream) :
    Interpreter :=
  { shell with
    descriptors := (descriptor, stream) :: shell.descriptors.filter (·.1 != descriptor) }

/-- A shell without a descriptor. -/
def closeStream
    (shell : Interpreter)
    (descriptor : Nat) :
    Interpreter :=
  { shell with descriptors := shell.descriptors.filter (·.1 != descriptor) }

/-- A shell after bytes were written to a stream. -/
def append
    (shell : Interpreter)
    (stream : Stream)
    (bytes : Text.Bytes) :
    Interpreter :=
  match stream with
  | .nowhere => shell
  | .channel index =>
      { shell with channels := shell.channels.modify index fun written => written ++ bytes }
  | .file location =>
      match shell.workspace.tree.get? location with
      | some (.file content) =>
          { shell with workspace := shell.workspace.put location (.file (content ++ bytes)) }
      | _ => shell

/-- A shell after bytes were written to a descriptor. -/
def write
    (shell : Interpreter)
    (descriptor : Nat)
    (bytes : Text.Bytes) :
    Interpreter :=
  match shell.stream? descriptor with
  | some stream => shell.append stream bytes
  | none => shell

/-- A shell with one more channel that holds bytes, and its index. -/
def openChannel
    (shell : Interpreter)
    (bytes : Text.Bytes) :
    Interpreter × Nat :=
  ({ shell with channels := shell.channels ++ [bytes] }, shell.channels.length)

/-- What can be read from a descriptor. -/
def readable
    (shell : Interpreter)
    (descriptor : Nat) :
    Text.Bytes :=
  match shell.stream? descriptor with
  | some (.channel index) => shell.channels.getD index []
  | some (.file location) =>
      match shell.workspace.tree.get? location with
      | some (.file content) => content
      | _ => []
  | _ => []

/-- A shell that has left some bytes unread at a descriptor. -/
def leaveUnread
    (shell : Interpreter)
    (descriptor : Nat)
    (bytes : Text.Bytes) :
    Interpreter :=
  match shell.stream? descriptor with
  | some (.channel index) =>
      { shell with channels := shell.channels.modify index fun _ => bytes }
  | _ => shell

/-- The shell that goes on when a copy of it has ended. -/
def rejoin
    (shell copy : Interpreter) :
    Interpreter :=
  { shell with
    status := copy.status
    doomed := copy.doomed
    workspace := { copy.workspace with directory := shell.workspace.directory }
    channels := copy.channels
    clock := copy.clock
    jobsEnd := copy.jobsEnd
    documents := copy.documents }

end Interpreter

namespace Run

/-- Stop running. -/
def interrupt
    {α : Type}
    (interruption : Interruption) :
    Run α :=
  throw interruption

/-- End with a status. -/
def setStatus
    (status : Nat) :
    Run Unit :=
  modify fun shell => { shell with status }

/-- Print to a descriptor. -/
def print
    (descriptor : Nat)
    (bytes : Text.Bytes) :
    Run Unit :=
  modify fun shell => shell.write descriptor bytes

/-- Print a complaint of the shell. -/
def complain
    (complaint : Text) :
    Run Unit := do
  let shell ← get
  print 2 <| Text.encode <|
    shell.name ++ ": ".toList ++ Text.decimal shell.line ++ ": ".toList ++ shell.context ++
      complaint ++ ['\n']

/-- End the shell with a complaint. -/
def fail
    {α : Type}
    (complaint : Text) :
    Run α := do
  complain complaint
  setStatus 2
  interrupt .exits

/-- Set a variable, unless it must not be changed. -/
def assign
    (name value : Text) :
    Run Unit := do
  let shell ← get
  if shell.locked.contains name then
    fail (name ++ ": is read only".toList)
  else
    set (shell.setVariable name value)
    if shell.hasOption 'a' then
      modify fun shell => { shell with exported := name :: shell.exported }

/-- Do something, and say what interrupted it. -/
def attempt
    (action : Run Unit) :
    Run (Option Interruption) :=
  try
    action
    pure none
  catch interruption =>
    pure (some interruption)

/-- Go on after an attempt, which may mean to be interrupted again. -/
def resume : Option Interruption → Run Unit
  | none => return
  | some interruption => interrupt interruption

/--
Run something in a copy of the shell. The copy cannot break out of the loops of
the shell, and a signal that it sends to the shell arrives when it has ended.
-/
def inCopy
    (action : Run Unit) :
    Run Unit := do
  let shell ← get
  set { shell with isMain := false, traps := [], loops := 0 }
  let interruption ← attempt action
  modify fun copy => shell.rejoin copy
  if interruption = some .stuck then
    interrupt .stuck
  match (← get).doomed with
  | some signal => if shell.isMain then interrupt (.killed signal)
  | none => return

/-- Do something and put the descriptors back afterwards. -/
def keepingDescriptors
    (action : Run Unit) :
    Run Unit := do
  let descriptors := (← get).descriptors
  let interruption ← attempt action
  modify fun shell => { shell with descriptors }
  resume interruption

/-- Do something whose failure is being tested. -/
def tested
    (action : Run Unit) :
    Run Unit := do
  let before := (← get).tested
  modify fun shell => { shell with tested := true }
  let interruption ← attempt action
  modify fun shell => { shell with tested := before }
  resume interruption

end Run

end ModSkeleton.Shell
