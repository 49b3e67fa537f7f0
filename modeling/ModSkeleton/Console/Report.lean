import ModSkeleton.Console.Message
import ModSkeleton.Json.Value

namespace ModSkeleton.Console

/-!
# Reports

Printing of values that are not known to be texts. A message has to be a text. A
table shows any value; its items are texts or null, which is an empty cell, and its
title is a text, or a value that does not count as present.
-/

/-- Why a report cannot be printed. -/
inductive ReportFault where
  | markup (error : Markup.Error)
  | messageKind (kind : Text)
  | itemKind (kind : Text)
  | compoundItem (kind : Text)
  | titleKind (shown : Text)
  deriving Repr, DecidableEq

namespace ReportFault

/-- The wording of a fault. -/
def message : ReportFault → Text
  | .markup error => error.message
  | .messageKind kind =>
      "expected string or bytes-like object, got ".toList ++ Text.quoted kind
  | .itemKind kind =>
      "unable to render ".toList ++ kind ++
        "; a string or other renderable object is required".toList
  | .compoundItem kind => "unhashable type: ".toList ++ Text.quoted kind
  | .titleKind shown =>
      "Unable to render ".toList ++ shown ++
        "; A str, Segment or object with __rich_console__ method is required".toList

end ReportFault

/-- What a message is about. -/
inductive Tone where
  | success
  | warning
  | error
  deriving Repr, DecidableEq

/-- The markup of a message. -/
def Tone.markup : Tone → Text → Text
  | .success => successMarkup
  | .warning => warningMarkup
  | .error => errorMarkup

/-- The printed form of a message. -/
def reportMessage
    (tone : Tone) :
    Json.Value → Except ReportFault Text
  | .text message =>
      match printMarkup (tone.markup message) with
      | .ok printed => .ok printed
      | .error error => .error (.markup error)
  | value => .error (.messageKind value.kindName)

/-- Rows whose items are single values; a list or an object is none. -/
def singleItems : List (Json.Value × Json.Value) → Except ReportFault (List (Json.Value × Text))
  | [] => .ok []
  | (item, value) :: rows =>
      match item with
      | .list _ => .error (.compoundItem item.kindName)
      | .object _ => .error (.compoundItem item.kindName)
      | _ =>
          match singleItems rows with
          | .ok rest => .ok ((item, value.display) :: rest)
          | .error fault => .error fault

/-- Rows whose items are texts or missing. -/
def textItems : List (Json.Value × Text) → Except ReportFault (List (Option Text × Text))
  | [] => .ok []
  | (item, value) :: rows =>
      let item? : Except ReportFault (Option Text) :=
        match item with
        | .text item => .ok (some item)
        | .null => .ok none
        | _ => .error (.itemKind item.kindName)
      match item? with
      | .error fault => .error fault
      | .ok item =>
          match textItems rows with
          | .ok rest => .ok ((item, value) :: rest)
          | .error fault => .error fault

/-- The title that a value stands for. -/
def titleOf : Json.Value → Except ReportFault Text
  | .text title => .ok title
  | value => if value.truthy then .error (.titleKind value.shown) else .ok []

/-- The printed form of a table; what is wrong with its cells comes before its title. -/
def reportTable
    (title : Json.Value)
    (rows : List (Json.Value × Json.Value)) :
    Except ReportFault Text := do
  let cells := Table.mergeRows (← textItems (← singleItems rows))
  let table (title : Text) : Table :=
    ⟨title, cells.map fun (item, value) => (item.getD [], value)⟩
  let print (table : Table) : Except ReportFault Text :=
    match table.print with
    | .ok printed => .ok printed
    | .error error => .error (.markup error)
  match titleOf title with
  | .ok title => print (table title)
  | .error fault =>
      let _ ← print (table [])
      .error fault

end ModSkeleton.Console
