import ModSkeleton.Cli
import ModSkeleton.Proofs.CommandLine.Words
import ModSkeleton.Proofs.Console.Escaping
import ModSkeleton.Proofs.Generation.Sequence
import ModSkeleton.Proofs.Request.Resolution

namespace ModSkeleton

open Workspace

/-!
# How failures are reported

An error of the project can always be printed. So a run that cannot resolve its request or
generate its project says so and ends with code one, if it fails by such an error. There are
other ways to fail (`run_of_failure`). A mod id is to be derived from a path without a real
path. With force, the target is looked up before the generation starts, and a fault of that
lookup ends the run. More directories are missing than can be made one within another. The
version control program is there, but cannot be started or gives no text.
-/

namespace Request

/-- A name that is no text is absent, so that it is reported as missing. -/
theorem checkName_toValue
    {setting : CommandLine.Setting}
    {error : ResolveError}
    (failed : checkName (setting.toValue .null) = .error error) :
    ∃ problem, error = .project problem := by
  cases setting with
  | unset =>
      cases failed
      exact ⟨_, rfl⟩
  | dropped =>
      cases failed
      exact ⟨_, rfl⟩
  | given name =>
      simp only [CommandLine.Setting.toValue, checkName] at failed
      split at failed
      case isTrue =>
        cases failed
        exact ⟨_, rfl⟩
      case isFalse => cases failed

/-- A mod id that is not given is missing only where the path has no real path. -/
theorem modIdOr_eq_error
    {host : Host}
    {options : Options}
    {workspace : Workspace}
    {path : Path}
    {error : ResolveError}
    (failed : options.modIdOr host workspace path = .error error) :
    ∃ fault, host.realPath workspace path = .error fault ∧ error = .noRealPath fault := by
  unfold Options.modIdOr at failed
  split at failed
  case isTrue => cases failed
  case isFalse =>
    cases derived : derivedModId host workspace path with
    | ok id =>
        rw [derived] at failed
        cases failed
    | error reason =>
        rw [derived] at failed
        cases failed
        exact derivedModId_eq_error derived

end Request

namespace Cli

open Request

/--
Arguments are resolved, or refused by an error of the project, or their path has no real path
from which a mod id could be derived.
-/
theorem resolve_fault
    {host : Host}
    {workspace : Workspace}
    {arguments : CommandLine.Arguments}
    {error : ResolveError}
    (failed : resolve host workspace (optionsOf arguments) = .error error) :
    (∃ problem, error = .project problem) ∨
      ∃ fault,
        host.realPath workspace (Path.parse arguments.path) = .error fault ∧
          error = .noRealPath fault := by
  unfold resolve at failed
  split at failed
  case h_1 unnamed =>
    cases failed
    exact .inl (checkName_toValue unnamed)
  case h_2 notPath => cases notPath
  case h_3 path isPath =>
    cases isPath
    split at failed
    case h_1 underived =>
      cases failed
      exact .inr (modIdOr_eq_error underived)
    case h_2 =>
      simp only at failed
      split at failed
      case h_1 => cases failed
      case h_2 =>
        cases failed
        exact .inl ⟨_, rfl⟩

/--
How a generation fails otherwise than by an error of the project, and how that ends a run:
too many directories are missing one within another, or the version control program was asked
for, and could not be started although it is there, or gave no text.
-/
inductive Unreported
    (host : Host)
    (arguments : CommandLine.Arguments) :
    GenerateError → Crash → Prop where
  | stackExhausted
      {room : Nat}
      (limited : host.stack.making = some room) :
      Unreported host arguments .stackExhausted .stackExhausted
  | command
      (asked : arguments.choices.git = true)
      (error : Command.Error) :
      Unreported host arguments (.command error) (.command error)

/-- That a command could not be run is an error of the project, or one of the command. -/
theorem ofCommand_cases
    (root : Path)
    (error : Command.Error) :
    (∃ problem, GenerateError.ofCommand root error = .project problem) ∨
      GenerateError.ofCommand root error = .command error := by
  unfold GenerateError.ofCommand
  split
  case h_1 => exact .inl ⟨_, rfl⟩
  case h_2 => exact .inr rfl

theorem initRepository_fault
    {host : Host}
    {git : Git}
    {root : Path}
    {written : List Path}
    {workspace : Workspace}
    {error : GenerateError}
    (failed : (host.initRepository git root written workspace).outcome = .error error) :
    (∃ problem, error = .project problem) ∨ ∃ reason, error = .command reason := by
  have ofCommand (reason : Command.Error) (same : GenerateError.ofCommand root reason = error) :
      (∃ problem, error = .project problem) ∨ ∃ reason, error = .command reason := by
    rw [← same]
    exact (ofCommand_cases root reason).imp_right fun isCommand => ⟨reason, isCommand⟩
  unfold Host.initRepository at failed
  split at failed
  case h_1 =>
    simp only [Git.outcome] at failed
    split at failed
    case h_1 reason _ => exact ofCommand reason (Except.error.inj failed)
    case h_2 =>
      split at failed
      case isTrue => cases failed
      case isFalse =>
        cases failed
        exact .inl ⟨_, rfl⟩
  case h_2 => exact ofCommand _ (Except.error.inj failed)

/-- The generation that arguments ask for, once their request is resolved. -/
def attempt
    (host : Host)
    (workspace : Workspace)
    (settings : Settings)
    (git : Git)
    (arguments : CommandLine.Arguments)
    (request : Request) :
    Generation :=
  host.generate workspace request.brief settings arguments.choices.force
    (if arguments.choices.git then some git else none)

/-- The project that is asked for is generated, or it fails in a way that is accounted for. -/
theorem attempt_fault
    {host : Host}
    {fields : Fields}
    {request : Request}
    (accepted : ofFields fields = .ok request)
    (nullFree : NullFree request.targetPath)
    {workspace : Workspace}
    {toolchain : Toolchain}
    {git : Git}
    {arguments : CommandLine.Arguments}
    {error : GenerateError}
    (failed :
      (attempt host workspace toolchain.settings git arguments request).outcome =
        .error error) :
    (∃ problem, error = .project problem) ∨ ∃ crash, Unreported host arguments error crash := by
  have projectFiles := projectFiles_filesOf (named_of_ofFields accepted) toolchain
  rw [attempt, Host.generate_eq] at failed
  unfold Host.emit at failed
  split at failed
  case h_1 =>
    cases failed
    exact .inl ⟨_, rfl⟩
  case h_2 =>
    split at failed
    case h_1 asked =>
      refine (initRepository_fault failed).imp_right ?_
      rintro ⟨reason, rfl⟩
      refine ⟨_, .command ?_ reason⟩
      by_contra notAsked
      rw [if_neg notAsked] at asked
      cases asked
    case h_2 left outcome wrote _ =>
      have writing :
          (host.writeProjectFiles request.targetPath (Project.filesOf request toolchain)
            workspace).2 = .error error := by
        rw [wrote]
        exact failed
      obtain ⟨_, _, _, reported | ⟨rfl, _, limited, _⟩⟩ :=
        writeProjectFiles_of_outcome_error nullFree projectFiles.proper writing
      · obtain ⟨_, rfl⟩ := reported
        exact .inl ⟨_, rfl⟩
      · exact .inr ⟨_, .stackExhausted limited⟩

/-- A run that prints an error and ends with code one. -/
structure Run.Reports
    (run : Run)
    (error : ProjectError) :
    Prop where
  ending : run.ending = .finished 1
  errors : Console.printMarkup (Console.errorMarkup error.message) = .ok run.errors

/-- Every error of the project is reported. -/
theorem reports_failed
    (workspace : Workspace)
    (output : Text)
    (gitCalls : List GitCall)
    (error : ProjectError) :
    (failed workspace output gitCalls error).Reports error := by
  obtain ⟨printed, prints⟩ := Console.exists_printMarkup_errorMarkup error.message
  unfold failed
  rw [prints]
  exact ⟨rfl, prints⟩

/-- A forced run looks its target up before anything else, and that fails. -/
structure FaultyLookup
    (host : Host)
    (workspace : Workspace)
    (request : Request)
    (force : Bool)
    (reason : FileFault) :
    Prop where
  forced : force = true
  refused : host.find? workspace request.targetPath = .error reason

/-- A lookup that fails takes the place of the warning. -/
theorem warning_of_faultyLookup
    {host : Host}
    {workspace : Workspace}
    {request : Request}
    {force : Bool}
    {reason : FileFault}
    (faulty : FaultyLookup host workspace request force reason) :
    warning host workspace request force = .error (.fault reason request.targetPath) := by
  simp [warning, Host.exists?, faulty.forced, faulty.refused, bind, Except.bind]

/-- The generation itself would have reported that. -/
theorem checkTarget_of_faultyLookup
    {host : Host}
    {workspace : Workspace}
    {request : Request}
    {force : Bool}
    {reason : FileFault}
    (faulty : FaultyLookup host workspace request force reason) :
    host.checkTarget workspace request.targetPath force =
      .error (.fileSystem request.targetPath reason.message) := by
  simp only [Host.checkTarget, faulty.refused]

/-- A target that can be looked up is warned about if need be. -/
theorem exists_warning
    {host : Host}
    {workspace : Workspace}
    {request : Request}
    {force : Bool}
    (looked : ∀ reason, ¬FaultyLookup host workspace request force reason) :
    ∃ output, warning host workspace request force = .ok output := by
  cases force with
  | false => exact ⟨[], rfl⟩
  | true =>
      obtain ⟨printed, prints⟩ :=
        Console.exists_printMarkup_warningMarkup
          ("Overwriting files in ".toList ++ request.targetPath.toText)
      cases found : host.find? workspace request.targetPath with
      | error reason => exact (looked reason ⟨rfl, found⟩).elim
      | ok entry? =>
          cases entry? with
          | none =>
              refine ⟨[], ?_⟩
              simp [warning, Host.exists?, found, bind, Except.bind, pure, Except.pure]
          | some entry =>
              refine ⟨printed, ?_⟩
              simp only [warning, Host.exists?, found, bind, Except.bind, pure, Except.pure,
                Option.isSome_some, Bool.not_true, Bool.false_eq_true, if_false, prints]

section

variable
    {host : Host}
    {workspace : Workspace}
    {settings : Settings}
    {git : Git}
    {words : List Text}
    {arguments : CommandLine.Arguments}
    (parsed : CommandLine.Arguments.parse words = .ok arguments)

include parsed

/-- A run whose request is refused reports that. -/
theorem reports_of_unresolved
    {problem : ProjectError}
    (failed : resolve host workspace (optionsOf arguments) = .error (.project problem)) :
    (run host workspace settings git words).Reports problem := by
  unfold run execute
  simp only [parsed, failed]
  exact reports_failed workspace [] [] problem

/-- A run whose path has no real path, but needs one, ends there. -/
theorem run_of_noRealPath
    {fault : RealPathFault}
    (failed : resolve host workspace (optionsOf arguments) = .error (.noRealPath fault)) :
    run host workspace settings git words =
      ⟨workspace, [], [], .crashed (.resolve (.noRealPath fault)), []⟩ := by
  unfold run execute
  simp only [parsed, failed]

variable
    {request : Request}
    (resolved : resolve host workspace (optionsOf arguments) = .ok request)

include resolved

/-- A run whose target cannot be looked up ends there. -/
theorem run_of_faultyLookup
    {reason : FileFault}
    (faulty : FaultyLookup host workspace request arguments.choices.force reason) :
    run host workspace settings git words =
      ⟨workspace, [], [], .crashed (.fault reason request.targetPath), []⟩ := by
  unfold run execute
  simp only [parsed, resolved, warning_of_faultyLookup faulty]

/-- Behind its warning, a run reports on its generation. -/
theorem run_eq_report
    {warned : Text}
    (warns : warning host workspace request arguments.choices.force = .ok warned) :
    run host workspace settings git words =
      report request warned (attempt host workspace settings git arguments request) := by
  unfold run execute
  simp only [parsed, resolved, warns]
  rfl

variable
    (looked : ∀ reason, ¬FaultyLookup host workspace request arguments.choices.force reason)

include looked

/-- A run whose project is refused reports that, if its target can be looked up. -/
theorem reports_of_ungenerated
    {problem : ProjectError}
    (failed :
      (attempt host workspace settings git arguments request).outcome =
        .error (.project problem)) :
    (run host workspace settings git words).Reports problem := by
  obtain ⟨output, warns⟩ := exists_warning looked
  rw [run_eq_report parsed resolved warns]
  simp only [report, failed]
  exact reports_failed _ output _ problem

/-- A run whose generation fails in another way ends without a report. -/
theorem ending_of_unreported
    {error : GenerateError}
    {crash : Crash}
    (unreported : Unreported host arguments error crash)
    (failed :
      (attempt host workspace settings git arguments request).outcome = .error error) :
    (run host workspace settings git words).ending = .crashed crash ∧
      (run host workspace settings git words).errors = [] := by
  obtain ⟨output, warns⟩ := exists_warning looked
  rw [run_eq_report parsed resolved warns]
  cases unreported with
  | stackExhausted => simp [report, failed]
  | command => simp [report, failed]

end

/--
On words without NUL, on every host: a run that cannot resolve its request reports an error of
the project with code one, unless a mod id is to be derived from a path that has no real path.
A forced run that cannot look its target up ends without a report, although the generation
would have failed by an error of the project. A run that cannot generate its project otherwise
reports an error of the project with code one, unless the directories that are missing one
within another are too many, or the version control program was asked for and could not be
run although it is there.
-/
theorem run_of_failure
    (host : Host)
    {words : List Text}
    (noNull : ∀ word ∈ words, '\x00' ∉ word)
    {arguments : CommandLine.Arguments}
    (parsed : CommandLine.Arguments.parse words = .ok arguments)
    (workspace : Workspace)
    (toolchain : Toolchain)
    (git : Git) :
    (∀ error,
        resolve host workspace (optionsOf arguments) = .error error →
        (∃ problem,
          error = .project problem ∧
            (run host workspace toolchain.settings git words).Reports problem) ∨
          ∃ fault,
            host.realPath workspace (Path.parse arguments.path) = .error fault ∧
              run host workspace toolchain.settings git words =
                ⟨workspace, [], [], .crashed (.resolve (.noRealPath fault)), []⟩) ∧
      ∀ request,
        resolve host workspace (optionsOf arguments) = .ok request →
        (∀ reason,
            FaultyLookup host workspace request arguments.choices.force reason →
            (reason = .nameTooLong ∨ ∃ fault, reason = .device fault) ∧
              (attempt host workspace toolchain.settings git arguments request).outcome =
                  .error (.project (.fileSystem request.targetPath reason.message)) ∧
                run host workspace toolchain.settings git words =
                  ⟨workspace, [], [], .crashed (.fault reason request.targetPath), []⟩) ∧
          ((∀ reason, ¬FaultyLookup host workspace request arguments.choices.force reason) →
            ∀ error,
              (attempt host workspace toolchain.settings git arguments request).outcome =
                  .error error →
              (∃ problem,
                error = .project problem ∧
                  (run host workspace toolchain.settings git words).Reports problem) ∨
                ∃ crash,
                  Unreported host arguments error crash ∧
                    (run host workspace toolchain.settings git words).ending =
                        .crashed crash ∧
                      (run host workspace toolchain.settings git words).errors = []) := by
  refine ⟨?_, ?_⟩
  · intro error failed
    rcases resolve_fault failed with ⟨problem, rfl⟩ | ⟨fault, noRealPath, rfl⟩
    · exact .inl ⟨problem, rfl, reports_of_unresolved parsed failed⟩
    · exact .inr ⟨fault, noRealPath, run_of_noRealPath parsed failed⟩
  · intro request resolved
    refine ⟨?_, ?_⟩
    · intro reason faulty
      refine ⟨find?_fault faulty.refused, ?_, run_of_faultyLookup parsed resolved faulty⟩
      rw [attempt, Host.generate_eq,
        emit_of_target_refused (checkTarget_of_faultyLookup faulty)]
    · intro looked error failed
      obtain ⟨modId, accepted⟩ := ofFields_of_resolve resolved
      have nullFree : NullFree request.targetPath := by
        have targetPath : request.targetPath = Path.parse arguments.path :=
          targetPath_of_ofFields rfl accepted
        rw [targetPath]
        exact nullFree_parse
          (noNull arguments.path (CommandLine.Arguments.path_mem_of_parse parsed))
      rcases attempt_fault accepted nullFree failed with ⟨problem, rfl⟩ | ⟨crash, unreported⟩
      · exact .inl ⟨problem, rfl, reports_of_ungenerated parsed resolved looked failed⟩
      · exact
          .inr ⟨crash, unreported, ending_of_unreported parsed resolved looked unreported failed⟩

/-- A name that is one byte too long. -/
def longName : Text :=
  List.replicate 256 'a'

/-- Words that ask for a project in a directory with that name. -/
def longWords : List Text :=
  [longName, "--name".toList, "Sample".toList, "--id".toList, "sample_mod".toList]

/-- The same words with force. -/
def forcedWords : List Text :=
  longWords ++ ["--force".toList]

/-- What these words stand for, without and with force. -/
def longArguments
    (force : Bool) :
    CommandLine.Arguments where
  path := longName
  choices :=
    { CommandLine.Choices.none with
      modName := .given "Sample".toList
      modId := .given "sample_mod".toList
      force }

/-- The request of these words. -/
def longRequest : Request where
  targetPath := ⟨.relative, [longName]⟩
  modId := "sample_mod".toList
  modName := "Sample".toList
  language := .java
  mainClass := MainClass.default

theorem parse_longWords :
    CommandLine.Arguments.parse longWords = .ok (longArguments false) ∧
      CommandLine.Arguments.parse forcedWords = .ok (longArguments true) := by
  decide +kernel

theorem resolve_longArguments
    (force : Bool) :
    resolve .faultless bareWorkspace (optionsOf (longArguments force)) = .ok longRequest := by
  have sameOptions : optionsOf (longArguments force) = optionsOf (longArguments false) := rfl
  have resolved :
      (resolve .faultless bareWorkspace (optionsOf (longArguments false))).toOption =
        some longRequest := by
    decide +kernel
  rw [sameOptions]
  cases outcome : resolve .faultless bareWorkspace (optionsOf (longArguments false)) with
  | error error =>
      rw [outcome] at resolved
      cases resolved
  | ok request =>
      rw [outcome] at resolved
      cases resolved
      rfl

/-- Looking up the target of a forced run fails. -/
theorem faultyLookup_longRequest :
    FaultyLookup .faultless bareWorkspace longRequest true .nameTooLong :=
  ⟨rfl, by decide +kernel⟩

/-- What becomes of words in an empty working directory. -/
def bareRun
    (words : List Text) :
    Run :=
  run .faultless bareWorkspace Toolchain.default.settings missingGit words

/-- The generation for a request in an empty working directory. -/
def bareAttempt
    (arguments : CommandLine.Arguments)
    (request : Request) :
    Generation :=
  attempt .faultless bareWorkspace Toolchain.default.settings missingGit arguments request

/-- The generation fails with and without force. -/
theorem bareAttempt_longArguments
    (force : Bool) :
    (bareAttempt (longArguments force) longRequest).outcome =
      .error (.project (.fileSystem longRequest.targetPath FileFault.nameTooLong.message)) := by
  have refused :
      Host.faultless.checkTarget bareWorkspace longRequest.targetPath force =
        .error (.fileSystem longRequest.targetPath FileFault.nameTooLong.message) := by
    simp only [Host.checkTarget, faultyLookup_longRequest.refused]
  rw [bareAttempt, attempt, Host.generate_eq]
  exact congrArg Generation.outcome (emit_of_target_refused refused _ _)

/-- Without force, a name that is too long is reported. -/
theorem run_of_failure_long_name :
    (∀ word ∈ longWords, '\x00' ∉ word) ∧
      CommandLine.Arguments.parse longWords = .ok (longArguments false) ∧
        (bareRun longWords).Reports
          (.fileSystem longRequest.targetPath FileFault.nameTooLong.message) := by
  have noNull : ∀ word ∈ longWords, '\x00' ∉ word := by decide +kernel
  obtain ⟨_, resolvedRuns⟩ :=
    run_of_failure .faultless noNull parse_longWords.1 bareWorkspace Toolchain.default missingGit
  obtain ⟨_, unforced⟩ := resolvedRuns longRequest (resolve_longArguments false)
  have reported :=
    unforced (fun _ faulty => nomatch faulty.forced) _ (bareAttempt_longArguments false)
  rcases reported with ⟨problem, same, reports⟩ | ⟨_, unreported, _⟩
  · cases same
    exact ⟨noNull, parse_longWords.1, reports⟩
  · cases unreported

/-- With force, the same name ends the run without a report. -/
theorem run_crashes_on_long_name :
    (∀ word ∈ forcedWords, '\x00' ∉ word) ∧
      ∃ arguments request problem,
        CommandLine.Arguments.parse forcedWords = .ok arguments ∧
          resolve .faultless bareWorkspace (optionsOf arguments) = .ok request ∧
            (bareAttempt arguments request).outcome = .error (.project problem) ∧
              (bareRun forcedWords).ending =
                  .crashed (.fault .nameTooLong request.targetPath) ∧
                ¬(bareRun forcedWords).Reports problem := by
  have crashes :
      (bareRun forcedWords).ending = .crashed (.fault .nameTooLong longRequest.targetPath) := by
    rw [bareRun,
      run_of_faultyLookup parse_longWords.2 (resolve_longArguments true)
        faultyLookup_longRequest]
  refine
    ⟨by decide +kernel, longArguments true, longRequest, _, parse_longWords.2,
      resolve_longArguments true, bareAttempt_longArguments true, crashes, ?_⟩
  intro reports
  rw [reports.ending] at crashes
  cases crashes

end Cli

end ModSkeleton
