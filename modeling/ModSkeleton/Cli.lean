import ModSkeleton.CommandLine.Arguments
import ModSkeleton.Console.Message
import ModSkeleton.Generate
import ModSkeleton.Request.Resolve

namespace ModSkeleton

/-!
# The command line program

One run reads its arguments, resolves a request, generates the project and
reports what it did. A run on a host is a function from the workspace it starts in to
the workspace it leaves, the text it prints and the way it ends.
-/

namespace Cli

/-- A fault that ends a run without a report. -/
inductive Crash where
  | resolve (error : Request.ResolveError)
  | fault (reason : FileFault) (path : Path)
  | render (error : Project.Error)
  | targetKind (fault : Json.WrongKind)
  | markup (error : Console.Markup.Error)
  | command (error : Command.Error)
  | embeddedNull
  | stackExhausted
  deriving Repr

/-- The wording of a crash. -/
def Crash.message : Crash → Text
  | .resolve error => error.message
  | .fault reason path => reason.report path.toText
  | .render (.wrongKind error) => error.message
  | .targetKind error => error.message
  | .render (.template _) => "a template cannot be rendered".toList
  | .markup error => error.message
  | .command error => error.message
  | .embeddedNull => AccessFault.embeddedNullMessage
  | .stackExhausted => Stack.makingExhaustedMessage

/-- How a run ends: by its arguments, with a code of its own, or by a crash. -/
inductive Ending where
  | stopped (code : Nat)
  | finished (code : Nat)
  | crashed (crash : Crash)
  deriving Repr

/-- What a run leaves behind. -/
structure Run where
  workspace : Workspace
  output : Text
  errors : Text
  ending : Ending
  gitCalls : List GitCall
  deriving Repr

/-- The options of a request that arguments stand for. -/
def optionsOf
    (arguments : CommandLine.Arguments) :
    Request.Options where
  targetPath := .text arguments.path
  modName := arguments.choices.modName.toValue .null
  modId := arguments.choices.modId.toValue (.text [])
  useKotlin := .bool arguments.choices.kotlin
  mainClass := arguments.choices.mainClass.toValue .null

/-- The warning about a target that is there already, where it may be overwritten. -/
def warning
    (host : Host)
    (workspace : Workspace)
    (request : Request)
    (force : Bool) :
    Except Crash Text :=
  if !force then .ok []
  else
    match host.exists? workspace request.targetPath with
    | .error reason => .error (.fault reason request.targetPath)
    | .ok false => .ok []
    | .ok true =>
        let message := "Overwriting files in ".toList ++ request.targetPath.toText
        match Console.printMarkup (Console.warningMarkup message) with
        | .error error => .error (.markup error)
        | .ok printed => .ok printed

/-- The table that sums up a request. -/
def summary
    (request : Request) :
    Console.Table :=
  Console.Table.ofRows "Fabric mod".toList
    [("Mod id".toList, request.modId),
     ("Name".toList, request.modName),
     ("Language".toList, request.language.name),
     ("Main class".toList, request.mainClass),
     ("Target".toList, request.targetPath.toText)]

/-- Everything that is printed about a generated project, in order. -/
def reportParts
    (request : Request)
    (paths : List Path) :
    List (Except Console.Markup.Error Text) :=
  let created :=
    "Created ".toList ++ request.modName ++ " in ".toList ++ request.targetPath.toText
  (summary request).print ::
    (paths.map fun path => Console.printMarkup (Console.wroteMarkup path.toText)) ++
    [Console.printMarkup (Console.successMarkup created)]

/-- Parts printed one after another, up to the first that cannot be printed. -/
def printParts :
    List (Except Console.Markup.Error Text) → Text × Option Console.Markup.Error
  | [] => ([], none)
  | .error error :: _ => ([], some error)
  | .ok printed :: parts =>
      let (later, error?) := printParts parts
      (printed ++ later, error?)

/-- A run that ends with an error of the project. -/
def failed
    (workspace : Workspace)
    (output : Text)
    (gitCalls : List GitCall)
    (error : ProjectError) :
    Run :=
  match Console.printMarkup (Console.errorMarkup error.message) with
  | .ok errors => ⟨workspace, output, errors, .finished 1, gitCalls⟩
  | .error error => ⟨workspace, output, [], .crashed (.markup error), gitCalls⟩

/-- Report a generation that came to its end. -/
def report
    (request : Request)
    (output : Text)
    (generation : Generation) :
    Run :=
  match generation.outcome with
  | .error (.project error) =>
      failed generation.workspace output generation.gitCalls error
  | .error (.render error) =>
      ⟨generation.workspace, output, [], .crashed (.render error), generation.gitCalls⟩
  | .error (.targetKind fault) =>
      ⟨generation.workspace, output, [], .crashed (.targetKind fault), generation.gitCalls⟩
  | .error .embeddedNull =>
      ⟨generation.workspace, output, [], .crashed .embeddedNull, generation.gitCalls⟩
  | .error .stackExhausted =>
      ⟨generation.workspace, output, [], .crashed .stackExhausted, generation.gitCalls⟩
  | .error (.command error) =>
      ⟨generation.workspace, output, [], .crashed (.command error), generation.gitCalls⟩
  | .ok paths =>
      let (printed, error?) := printParts (reportParts request paths)
      let ending := match error? with
        | none => .finished 0
        | some error => .crashed (.markup error)
      ⟨generation.workspace, output ++ printed, [], ending, generation.gitCalls⟩

/-- Do what arguments ask for. -/
def execute
    (host : Host)
    (workspace : Workspace)
    (settings : Settings)
    (git : Git)
    (arguments : CommandLine.Arguments) :
    Run :=
  match Request.resolve host workspace (optionsOf arguments) with
  | .error (.project error) => failed workspace [] [] error
  | .error error => ⟨workspace, [], [], .crashed (.resolve error), []⟩
  | .ok request =>
      match warning host workspace request arguments.choices.force with
      | .error crash => ⟨workspace, [], [], .crashed crash, []⟩
      | .ok output =>
          report request output
            (host.generate workspace request.brief settings arguments.choices.force
              (if arguments.choices.git then some git else none))

/-- Run the program on the words of a command line. -/
def run
    (host : Host)
    (workspace : Workspace)
    (settings : Settings)
    (git : Git)
    (words : List Text) :
    Run :=
  match CommandLine.Arguments.parse words with
  | .error exit => ⟨workspace, exit.output, exit.errors, .stopped exit.code, []⟩
  | .ok arguments => execute host workspace settings git arguments

end Cli

end ModSkeleton
