import ModSkeleton.CommandLine.Switch
import ModSkeleton.Text.Quoted

namespace ModSkeleton.CommandLine

/-!
# Usage

What the command line prints about itself: its usage, its help, its version, and
its complaints about arguments.
-/

/-- The name of the program. -/
def programName : Text :=
  "modgen".toList

/-- The version of the program. -/
def programVersion : Text :=
  "0.1.0".toList

/-- How the program is called. -/
def usage : Text :=
  Text.ofLines <| List.map String.toList
    ["usage: modgen [-h] [--id MOD_ID] [--name NAME] [--kotlin] [--main MAIN_CLASS]",
     "              [--force] [--git] [--version]",
     "              PATH"]

/-- What the help says beyond the usage. -/
def description : Text :=
  Text.ofLines <| List.map String.toList
    ["",
     "Create a new Fabric mod project",
     "",
     "positional arguments:",
     "  PATH                  Directory to create the project in",
     "",
     "options:",
     "  -h, --help            show this help message and exit",
     "  --id MOD_ID, -i MOD_ID",
     "                        Mod id (default: name of the target directory)",
     "  --name NAME, -n NAME  Display name of the mod (required)",
     "  --kotlin, -k          Generate a Kotlin entry point instead of Java",
     "  --main MAIN_CLASS, -m MAIN_CLASS",
     "                        Fully qualified main class (default:",
     "                        net.fabricmc.example.ExampleMod)",
     "  --force, -f           Write into an existing non-empty directory,",
     "                        overwriting files",
     "  --git, -g             Initialise a git repository in the new project",
     "  --version, -V         show program's version number and exit"]

/-- What is wrong with the arguments. -/
inductive UsageFault where
  | ambiguous (argument : Text) (matching : List Switch)
  | unusedValue (switch : Switch) (value : Text)
  | missingValue (switch : Switch)
  | missingPath
  | unrecognized (arguments : List Text)
  deriving Repr, DecidableEq

namespace UsageFault

/-- The wording of a fault. -/
def message : UsageFault → Text
  | .ambiguous argument matching =>
      "ambiguous option: ".toList ++ argument ++ " could match ".toList ++
        Text.joinWith ", ".toList (matching.map Switch.long)
  | .unusedValue switch value =>
      "argument ".toList ++ switch.shown ++ ": ignored explicit argument ".toList ++
        Text.quoted value
  | .missingValue switch =>
      "argument ".toList ++ switch.shown ++ ": expected one argument".toList
  | .missingPath => "the following arguments are required: PATH".toList
  | .unrecognized arguments =>
      "unrecognized arguments: ".toList ++ Text.joinWith [' '] arguments

end UsageFault

/-- Why arguments end the program before it does anything. -/
inductive Exit where
  | help
  | version
  | fault (reason : UsageFault)
  deriving Repr, DecidableEq

namespace Exit

/-- The exit code. -/
def code : Exit → Nat
  | .help => 0
  | .version => 0
  | .fault _ => 2

/-- What is printed to standard output. -/
def output : Exit → Text
  | .help => usage ++ description
  | .version => programName ++ [' '] ++ programVersion ++ ['\n']
  | .fault _ => []

/-- What is printed to standard error. -/
def errors : Exit → Text
  | .help => []
  | .version => []
  | .fault reason =>
      usage ++ programName ++ ": error: ".toList ++ reason.message ++ ['\n']

end Exit

end ModSkeleton.CommandLine
