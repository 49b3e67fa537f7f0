import ModSkeleton.CommandLine.Item
import ModSkeleton.Json.Value

namespace ModSkeleton.CommandLine

/-!
# Arguments

Classified items are consumed from left to right. The first word is the path,
later words are left over. Letters behind a short flag are further short
switches; a switch that takes a value takes what is joined to it, or else the
word that follows. Help and version end the program at once. After the last
item the path has to be there, and nothing may be left over.
-/

/--
What was given for a switch that takes a value. A value that is a bare double
hyphen is dropped and leaves nothing.
-/
inductive Setting where
  | unset
  | dropped
  | given (value : Text)
  deriving Repr, DecidableEq

namespace Setting

/-- The setting that a value stands for. -/
def ofValue
    (value : Text) :
    Setting :=
  if value = Item.separatorText then .dropped else .given value

/-- A setting as a value, which is another one when nothing was given. -/
def toValue
    (setting : Setting)
    (absent : Json.Value) :
    Json.Value :=
  match setting with
  | .unset => absent
  | .dropped => .list []
  | .given value => .text value

end Setting

/-- What the switches of a command line ask for. -/
structure Choices where
  modId : Setting
  modName : Setting
  mainClass : Setting
  kotlin : Bool
  force : Bool
  git : Bool
  deriving Repr, DecidableEq

namespace Choices

/-- The choices without any switch. -/
def none : Choices :=
  ⟨.unset, .unset, .unset, false, false, false⟩

/-- The choices after a flag, unless the flag ends the program. -/
def turnOn
    (choices : Choices) :
    Switch → Except Exit Choices
  | .help => .error .help
  | .version => .error .version
  | .kotlin => .ok { choices with kotlin := true }
  | .force => .ok { choices with force := true }
  | .git => .ok { choices with git := true }
  | _ => .ok choices

/-- The choices after some flags, in order. -/
def turnOnAll
    (choices : Choices) :
    List Switch → Except Exit Choices
  | [] => .ok choices
  | switch :: switches =>
      match choices.turnOn switch with
      | .error exit => .error exit
      | .ok changed => changed.turnOnAll switches

/-- The choices after a switch with a value. -/
def set
    (choices : Choices)
    (switch : Switch)
    (value : Text) :
    Choices :=
  match switch with
  | .modId => { choices with modId := .ofValue value }
  | .modName => { choices with modName := .ofValue value }
  | .mainClass => { choices with mainClass := .ofValue value }
  | _ => choices

end Choices

/-- Flags in a row, perhaps with a last switch that takes a value. -/
structure Cluster where
  flags : List Switch
  valued : Option (Switch × Option Text)
  deriving Repr, DecidableEq

namespace Cluster

/-- The cluster with one more flag in front. -/
def push
    (switch : Switch)
    (cluster : Cluster) :
    Cluster :=
  { cluster with flags := switch :: cluster.flags }

/-- The cluster of a short switch and the letters or the value behind it. -/
def ofLetters : Switch → Text → Except UsageFault Cluster
  | switch, [] =>
      .ok (if switch.takesValue then ⟨[], some (switch, none)⟩ else ⟨[switch], none⟩)
  | switch, letter :: rest =>
      if switch.takesValue then .ok ⟨[], some (switch, some (letter :: rest))⟩
      else
        match Switch.ofLetter? letter with
        | none => .error (.unusedValue switch (letter :: rest))
        | some next => (ofLetters next rest).map (push switch)

/-- The cluster of a switch and what is joined to it. -/
def ofSwitch
    (switch : Switch)
    (spelling : Spelling) :
    Option Text → Except UsageFault Cluster
  | none => ofLetters switch []
  | some joined =>
      if switch.takesValue then .ok ⟨[], some (switch, some joined)⟩
      else if spelling = .long || joined.isEmpty then .error (.unusedValue switch joined)
      else ofLetters switch joined

end Cluster

/-- How far the consumption of items has come. -/
structure Progress where
  path : Option Text
  choices : Choices
  extras : List Text
  deriving Repr, DecidableEq

namespace Progress

/-- Nothing consumed yet. -/
def start : Progress :=
  ⟨none, .none, []⟩

/-- The progress after an argument that has no place. -/
def leaveOver
    (progress : Progress)
    (argument : Text) :
    Progress :=
  { progress with extras := progress.extras ++ [argument] }

/-- The progress after a word: the path if there is none yet, left over elsewhere. -/
def takeWord
    (progress : Progress)
    (argument : Text) :
    Progress :=
  match progress.path with
  | none => { progress with path := some argument }
  | some _ => progress.leaveOver argument

/-- The progress after a cluster whose value, if it needs one, is known. -/
def takeCluster
    (progress : Progress)
    (flags : List Switch)
    (valued : Option (Switch × Text)) :
    Except Exit Progress :=
  match progress.choices.turnOnAll flags, valued with
  | .error exit, _ => .error exit
  | .ok choices, none => .ok { progress with choices }
  | .ok choices, some (switch, value) =>
      .ok { progress with choices := choices.set switch value }

/-- Consume items from left to right. -/
def consume : List Item → Progress → Except Exit Progress
  | [], progress => .ok progress
  | .word argument :: .separator :: rest, progress =>
      if progress.path.isNone then consume rest (progress.takeWord argument)
      else
        consume rest
          ((progress.leaveOver argument).leaveOver Item.separatorText)
  | .word argument :: rest, progress => consume rest (progress.takeWord argument)
  | .separator :: .word argument :: rest, progress =>
      if progress.path.isNone then consume rest (progress.takeWord argument)
      else
        consume rest
          ((progress.leaveOver Item.separatorText).leaveOver argument)
  | .separator :: rest, progress =>
      consume rest (progress.leaveOver Item.separatorText)
  | .unknown argument :: rest, progress => consume rest (progress.leaveOver argument)
  | .option switch spelling joined :: .word argument :: rest, progress =>
      match Cluster.ofSwitch switch spelling joined with
      | .error fault => .error (.fault fault)
      | .ok ⟨flags, some (last, none)⟩ =>
          match progress.takeCluster flags (some (last, argument)) with
          | .error exit => .error exit
          | .ok later => consume rest later
      | .ok ⟨flags, some (last, some value)⟩ =>
          match progress.takeCluster flags (some (last, value)) with
          | .error exit => .error exit
          | .ok later => consume (.word argument :: rest) later
      | .ok ⟨flags, none⟩ =>
          match progress.takeCluster flags none with
          | .error exit => .error exit
          | .ok later => consume (.word argument :: rest) later
  | .option switch spelling joined :: rest, progress =>
      match Cluster.ofSwitch switch spelling joined with
      | .error fault => .error (.fault fault)
      | .ok ⟨_, some (last, none)⟩ => .error (.fault (.missingValue last))
      | .ok ⟨flags, some (last, some value)⟩ =>
          match progress.takeCluster flags (some (last, value)) with
          | .error exit => .error exit
          | .ok later => consume rest later
      | .ok ⟨flags, none⟩ =>
          match progress.takeCluster flags none with
          | .error exit => .error exit
          | .ok later => consume rest later

end Progress

/-- The arguments of a run. -/
structure Arguments where
  path : Text
  choices : Choices
  deriving Repr, DecidableEq

namespace Arguments

/-- The arguments after all items are consumed. -/
def ofProgress
    (progress : Progress) :
    Except Exit Arguments :=
  match progress.path, progress.extras with
  | none, _ => .error (.fault .missingPath)
  | some path, [] => .ok ⟨path, progress.choices⟩
  | some _, extras => .error (.fault (.unrecognized extras))

/-- Read the arguments of a command line. -/
def parse
    (arguments : List Text) :
    Except Exit Arguments :=
  match Item.classifyAll arguments with
  | .error fault => .error (.fault fault)
  | .ok items =>
      match Progress.start.consume items with
      | .error exit => .error exit
      | .ok progress => ofProgress progress

end Arguments

end ModSkeleton.CommandLine
