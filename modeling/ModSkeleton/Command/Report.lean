import ModSkeleton.FileTree.Fault
import ModSkeleton.ProjectError
import ModSkeleton.Text.Blank
import ModSkeleton.Text.Utf8

namespace ModSkeleton.Command

/-!
# Reports of commands

A command is a program with arguments that is given some time. What becomes of it is up to
the system and to the program, and is given from outside. This module says what is reported
of it: its output is decoded, its newlines are unified and the blanks around it are dropped,
and a command that runs too long is reported like one that failed.
-/

/-- Why a command cannot be run or read. -/
inductive Error where
  | noWords
  | notText (fault : NotPath)
  | fault (reason : FileFault) (path : Text)
  | embeddedNull
  | undecodable
  deriving Repr, DecidableEq

/-- The complaint about a command without words. -/
def noWordsMessage : Text :=
  "list index out of range".toList

/-- The wording of an error; the one about bytes that are no text is left open. -/
def Error.message : Error → Text
  | .noWords => noWordsMessage
  | .notText kind => kind.message
  | .fault reason path => reason.report path
  | .embeddedNull => AccessFault.embeddedNullMessage
  | .undecodable => "output cannot be decoded".toList

/-- A fault at a path where a command was to be started. -/
def Error.ofAccess
    (path : Text) :
    AccessFault → Error
  | .system reason => .fault reason path
  | .embeddedNull => .embeddedNull

/-- What becomes of a command: it is not started, it ends, or it runs too long. -/
inductive Launch where
  | refused (error : Error)
  | ended (code : Int) (output errors : Text.Bytes)
  | timedOut
  deriving Repr, DecidableEq

/-- Whether a command was started. -/
def Launch.isStarted : Launch → Bool
  | .refused _ => false
  | _ => true

/-- What a command reports: its code and its two outputs. -/
structure Report where
  code : Int
  output : Text
  errors : Text
  deriving Repr, DecidableEq

/-- Output as it is reported. -/
def reported?
    (bytes : Text.Bytes) :
    Option Text :=
  (Text.decode? bytes).map fun text => Text.stripBlank (Text.unifyNewlines text)

/-- The complaint about a command that ran longer than it may. -/
def timeoutText
    (words : List Text)
    (limit : Text) :
    Text :=
  "Command timed out after ".toList ++ limit ++ "s: ".toList ++ Text.joinWith [' '] words

/-- What is reported of a command with a limit on its time, given what becomes of it. -/
def report
    (words : List Text)
    (limit : Text) :
    Launch → Except Error Report
  | .refused error => .error error
  | .timedOut => .ok ⟨-1, [], timeoutText words limit⟩
  | .ended code output errors =>
      match reported? output, reported? errors with
      | some output, some errors => .ok ⟨code, output, errors⟩
      | _, _ => .error .undecodable

end ModSkeleton.Command
