import ModSkeleton.Command.Duration
import ModSkeleton.Text.Utf8

namespace ModSkeleton.Command

/-!
# Processes

How a process ends, and what it does on its way there: it writes to its two
channels, takes some time, and may use up its input.
-/

/-- How a process ends. -/
inductive Ending where
  | exits (code : Nat)
  | killed (signal : Nat)
  deriving Repr, DecidableEq

namespace Ending

/-- The number that a process ends with; a signal counts as negative. -/
def code : Ending → Int
  | .exits number => number
  | .killed signal => -(signal : Int)

end Ending

/-- The two channels that a process writes to. -/
inductive Channel where
  | output
  | errors
  deriving Repr, DecidableEq

/-- What a process writes, how it ends, how long it takes and whether it uses up its input. -/
structure Execution where
  writes : List (Channel × Text.Bytes)
  ending : Ending
  duration : Duration
  readsInput : Bool
  deriving Repr, DecidableEq

namespace Execution

/-- A process that prints bytes and ends well. -/
def printing
    (output : Text.Bytes) :
    Execution :=
  ⟨[(.output, output)], .exits 0, .zero, false⟩

/-- A process that prints nothing and ends with a code. -/
def silent
    (code : Nat) :
    Execution :=
  ⟨[], .exits code, .zero, false⟩

/-- A process that complains in a line and ends with a code. -/
def complaining
    (complaint : Text)
    (code : Nat) :
    Execution :=
  ⟨[(.errors, Text.encode (complaint ++ ['\n']))], .exits code, .zero, false⟩

/-- One execution after another, which fails if one of them does. -/
def worse
    (first second : Execution) :
    Execution where
  writes := first.writes ++ second.writes
  ending := if second.ending = .exits 0 then first.ending else second.ending
  duration := first.duration.add second.duration
  readsInput := first.readsInput || second.readsInput

/-- What an execution writes to a channel. -/
def written
    (execution : Execution)
    (channel : Channel) :
    Text.Bytes :=
  execution.writes.flatMap fun (written, bytes) => if written = channel then bytes else []

end Execution

end ModSkeleton.Command
