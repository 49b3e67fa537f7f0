import ModSkeleton.Shell.Arithmetic
import ModSkeleton.Text.Lowercase

namespace ModSkeleton.Shell

/-!
# Signals

The signals that a shell knows by name, and what it says about a process that one of
them has ended.
-/

/-- A signal with its name and what is said about a process that it ends. -/
structure Signal where
  number : Nat
  name : String
  obituary : String
  deriving Repr, DecidableEq

namespace Signal

/-- The signals that have a name. -/
def all : List Signal :=
  [⟨1, "HUP", "Hangup"⟩, ⟨2, "INT", ""⟩, ⟨3, "QUIT", "Quit"⟩,
   ⟨4, "ILL", "Illegal instruction"⟩, ⟨5, "TRAP", "Trace/breakpoint trap"⟩,
   ⟨6, "ABRT", "Aborted"⟩, ⟨7, "BUS", "Bus error"⟩, ⟨8, "FPE", "Floating point exception"⟩,
   ⟨9, "KILL", "Killed"⟩, ⟨10, "USR1", "User defined signal 1"⟩,
   ⟨11, "SEGV", "Segmentation fault"⟩, ⟨12, "USR2", "User defined signal 2"⟩, ⟨13, "PIPE", ""⟩,
   ⟨14, "ALRM", "Alarm clock"⟩, ⟨15, "TERM", "Terminated"⟩, ⟨17, "CHLD", ""⟩,
   ⟨18, "CONT", ""⟩, ⟨19, "STOP", ""⟩, ⟨20, "TSTP", ""⟩, ⟨21, "TTIN", ""⟩, ⟨22, "TTOU", ""⟩,
   ⟨23, "URG", ""⟩, ⟨24, "XCPU", "CPU time limit exceeded"⟩,
   ⟨25, "XFSZ", "File size limit exceeded"⟩, ⟨26, "VTALRM", "Virtual timer expired"⟩,
   ⟨27, "PROF", "Profiling timer expired"⟩, ⟨28, "WINCH", ""⟩, ⟨29, "IO", "I/O possible"⟩,
   ⟨30, "PWR", "Power failure"⟩, ⟨31, "SYS", "Bad system call"⟩]

/-- The signal that is sent when a process exits, which is none. -/
def exitNumber : Nat :=
  0

/-- The highest number of a signal. -/
def maxNumber : Nat :=
  64

/-- The number of the signal that a text names. -/
def number?
    (text : Text) :
    Option Nat :=
  if !text.isEmpty && text.all Char.isDigit then
    let number := (Arithmetic.digitsIn 10 text).toNat
    if number ≤ maxNumber then some number else none
  else
    let name := Text.lower text
    if name = "exit".toList then some exitNumber
    else (all.find? fun signal => Text.lower signal.name.toList = name).map (·.number)

/-- What is said about a process that a signal has ended. -/
def obituaryOf
    (number : Nat) :
    Text :=
  match all.find? fun signal => signal.number = number with
  | some signal => signal.obituary.toList
  | none => []

/-- Whether a process that does not care about a signal goes on after it. -/
def isHarmless
    (number : Nat) :
    Bool :=
  [0, 17, 18, 23, 28].contains number

/-- Whether a process that gets a signal waits for another one. -/
def suspends
    (number : Nat) :
    Bool :=
  [19, 20, 21, 22].contains number

end Signal

end ModSkeleton.Shell
