import ModSkeleton.Console.Table

namespace ModSkeleton.Console

/-!
# Messages

The single lines that a run prints: success, warnings and errors in their styles,
and one line for every written file. The text of a message is escaped, so that
none of it is taken for markup.
-/

/-- Print markup on the console, wrapped to its width. -/
def printMarkup
    (markup : Text) :
    Except Markup.Error Text :=
  match Markup.render markup with
  | .error error => .error error
  | .ok plain => .ok (Text.ofLines (wrap consoleWidth .fold false plain))

/-- The markup of a success. -/
def successMarkup
    (message : Text) :
    Text :=
  "[bold green]".toList ++ Markup.escape message ++ "[/bold green]".toList

/-- The markup of a warning. -/
def warningMarkup
    (message : Text) :
    Text :=
  "[bold yellow]".toList ++ Markup.escape message ++ "[/bold yellow]".toList

/-- The markup of an error. -/
def errorMarkup
    (message : Text) :
    Text :=
  "[bold red]Error:[/bold red] ".toList ++ Markup.escape message

/-- The markup of the line about a written file. -/
def wroteMarkup
    (path : Text) :
    Text :=
  "  [dim]wrote[/dim] ".toList ++ Markup.escape path

end ModSkeleton.Console
