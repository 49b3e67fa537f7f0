import ModSkeleton.Proofs.Cli.Reporting
import ModSkeleton.Proofs.Console.Balance
import ModSkeleton.Proofs.Request.ModIds

namespace ModSkeleton.Cli

open Workspace Request Console

/-!
# How successes are reported

Behind a generation that succeeded, a run prints a table that sums the request up, a
line for every written file and a message. The table takes the name of the mod and
the path of the target for markup, and nothing else of it can be unbalanced. So the
run ends with code zero exactly if these two are balanced, and otherwise it ends by a
crash that leaves the project behind (`run_of_success`).
-/

theorem printParts_map_ok
    (parts : List Text) :
    printParts (parts.map .ok) = (parts.flatten, none) := by
  induction parts with
  | nil => rfl
  | cons part parts inductionHypothesis =>
      rw [List.map_cons, printParts, inductionHypothesis]
      rfl

/-- The message about a generated project. -/
def createdMessage
    (request : Request) :
    Text :=
  "Created ".toList ++ request.modName ++ " in ".toList ++ request.targetPath.toText

/--
A run that printed all there is to say about a generated project behind its warning, and
ends with code zero.
-/
structure Run.Summarises
    (run : Run)
    (request : Request)
    (paths : List Path)
    (warned : Text) :
    Prop where
  ending : run.ending = .finished 0
  errors : run.errors = []
  output :
    ∃ (table : Text) (lines : List Text) (created : Text),
      (summary request).print = .ok table ∧
        (paths.map fun path => printMarkup (wroteMarkup path.toText)) = lines.map .ok ∧
          printMarkup (successMarkup (createdMessage request)) = .ok created ∧
            run.output = warned ++ (table ++ (lines.flatten ++ created))

/-- The table of a valid request can be printed exactly if its name and target are balanced. -/
theorem isOk_print_summary
    {request : Request}
    (valid : request.Valid) :
    (summary request).print.isOk =
      (Markup.isBalanced request.modName && Markup.isBalanced request.targetPath.toText) := by
  have modId : Markup.isBalanced request.modId = true :=
    Markup.isBalanced_of_no_opening
      (ModId.not_mem_of_accepts valid.modId (by decide) (by decide))
  have mainClass : Markup.isBalanced request.mainClass = true :=
    Markup.isBalanced_of_no_opening
      (MainClass.not_mem_of_fault? valid.mainClass (by decide) (by decide) (by decide))
  have language : Markup.isBalanced request.language.name = true := by
    cases request.language <;> decide +kernel
  have items :
      (["Mod id", "Name", "Language", "Main class", "Target"].map String.toList).all
        Markup.isBalanced = true := by
    decide +kernel
  have title : Markup.isBalanced "Fabric mod".toList = true := by
    decide +kernel
  have rows :
      (summary request).rows.map Prod.fst =
          ["Mod id", "Name", "Language", "Main class", "Target"].map String.toList ∧
        (summary request).rows.map Prod.snd =
          [request.modId, request.modName, request.language.name, request.mainClass,
            request.targetPath.toText] ∧
          (summary request).title = "Fabric mod".toList :=
    ⟨rfl, rfl, rfl⟩
  rw [Table.isOk_print, rows.1, rows.2.1, rows.2.2, items, title]
  simp [modId, mainClass, language]

/-- A project is generated only where the target can be looked up. -/
theorem not_faultyLookup_of_attempt
    {host : Host}
    {workspace : Workspace}
    {settings : Settings}
    {git : Git}
    {arguments : CommandLine.Arguments}
    {request : Request}
    {paths : List Path}
    (generated :
      (attempt host workspace settings git arguments request).outcome = .ok paths)
    (reason : FileFault) :
    ¬FaultyLookup host workspace request arguments.choices.force reason := by
  intro faulty
  have target : request.brief.target = .path request.targetPath := rfl
  unfold attempt Host.generate at generated
  rw [target] at generated
  cases rendered : Project.render request.brief settings with
  | error error =>
      rw [rendered] at generated
      cases generated
  | ok files =>
      rw [rendered] at generated
      simp only [emit_of_target_refused (checkTarget_of_faultyLookup faulty)] at generated
      cases generated

/-- A report changes nothing of what the generation left. -/
theorem workspace_report
    (request : Request)
    (output : Text)
    {generation : Generation}
    {paths : List Path}
    (generated : generation.outcome = .ok paths) :
    (report request output generation).workspace = generation.workspace := by
  unfold report
  rw [generated]

section

variable
    {host : Host}
    {workspace : Workspace}
    {settings : Settings}
    {git : Git}
    {words : List Text}
    {arguments : CommandLine.Arguments}
    (parsed : CommandLine.Arguments.parse words = .ok arguments)
    {request : Request}
    (resolved : resolve host workspace (optionsOf arguments) = .ok request)
    {warned : Text}
    (warns : warning host workspace request arguments.choices.force = .ok warned)
    {paths : List Path}
    (generated : (attempt host workspace settings git arguments request).outcome = .ok paths)

include parsed resolved warns

include generated

/-- If the table can be printed, so can everything behind it. -/
theorem summarises_of_print
    {table : Text}
    (printed : (summary request).print = .ok table) :
    (run host workspace settings git words).Summarises request paths warned := by
  obtain ⟨created, createdPrints⟩ := exists_printMarkup_successMarkup (createdMessage request)
  choose line linePrints using exists_printMarkup_wroteMarkup
  have lines :
      (paths.map fun path => printMarkup (wroteMarkup path.toText)) =
        (paths.map fun path => line path.toText).map .ok := by
    simp [linePrints]
  have parts :
      reportParts request paths =
        (table :: (paths.map fun path => line path.toText) ++ [created]).map .ok := by
    have last :
        printMarkup (successMarkup ("Created ".toList ++ request.modName ++ " in ".toList ++
          request.targetPath.toText)) = .ok created :=
      createdPrints
    simp only [reportParts, printed, lines, last, List.map_append, List.map_cons, List.map_nil,
      List.cons_append]
  rw [run_eq_report parsed resolved warns]
  simp only [report, generated, parts, printParts_map_ok]
  exact ⟨rfl, rfl, table, _, created, printed, lines, createdPrints, by simp⟩

/-- If the table cannot be printed, the run ends there. -/
theorem crashes_of_print
    {error : Markup.Error}
    (failed : (summary request).print = .error error) :
    run host workspace settings git words =
      ⟨(attempt host workspace settings git arguments request).workspace, warned, [],
        .crashed (.markup error),
        (attempt host workspace settings git arguments request).gitCalls⟩ := by
  rw [run_eq_report parsed resolved warns]
  simp [report, generated, reportParts, failed, printParts]

end

/--
A run that resolves its request and generates its project prints the table, a line for
every written file and the message of success, and ends with code zero, exactly if the name
of the mod and the path of the target are balanced markup. Otherwise it ends by a crash,
with the generated project in place and nothing printed but the warning.
-/
theorem run_of_success
    (host : Host)
    {words : List Text}
    {arguments : CommandLine.Arguments}
    (parsed : CommandLine.Arguments.parse words = .ok arguments)
    (workspace : Workspace)
    (settings : Settings)
    (git : Git)
    {request : Request}
    (resolved : resolve host workspace (optionsOf arguments) = .ok request)
    {paths : List Path}
    (generated : (attempt host workspace settings git arguments request).outcome = .ok paths) :
    ∃ warned,
      warning host workspace request arguments.choices.force = .ok warned ∧
        (run host workspace settings git words).workspace =
            (attempt host workspace settings git arguments request).workspace ∧
          ((run host workspace settings git words).Summarises request paths warned ↔
              Markup.isBalanced request.modName = true ∧
                Markup.isBalanced request.targetPath.toText = true) ∧
            (¬(run host workspace settings git words).Summarises request paths warned →
              (run host workspace settings git words).output = warned ∧
                ∃ error,
                  (run host workspace settings git words).ending = .crashed (.markup error)) := by
  obtain ⟨modId, accepted⟩ := ofFields_of_resolve resolved
  have valid := (valid_of_ofFields accepted).1
  obtain ⟨warned, warns⟩ := exists_warning (not_faultyLookup_of_attempt generated)
  have balanced := isOk_print_summary valid
  refine ⟨warned, warns, ?_, ?_⟩
  · rw [run_eq_report parsed resolved warns, workspace_report request warned generated]
  rw [← Bool.and_eq_true_iff, ← balanced]
  cases printed : (summary request).print with
  | ok table =>
      have summarises := summarises_of_print parsed resolved warns generated printed
      exact
        ⟨⟨fun _ => rfl, fun _ => summarises⟩, fun unfinished => (unfinished summarises).elim⟩
  | error error =>
      rw [crashes_of_print parsed resolved warns generated printed]
      refine ⟨⟨fun summarises => ?_, fun isOk => ?_⟩, fun _ => ⟨rfl, error, rfl⟩⟩
      · cases summarises.ending
      · cases isOk

/-- A name with tags that can be opened and closed, and brackets that are no tags. -/
def taggedName : Text :=
  "[b]Sample[/b] [0] ]".toList

/-- A name with a tag that closes nothing. -/
def closingName : Text :=
  "[/b]".toList

/-- Words that ask for a project with a name. -/
def namedWords
    (name : Text) :
    List Text :=
  ["mod".toList, "--name".toList, name, "--id".toList, "sample_mod".toList]

/-- What these words stand for. -/
def namedArguments
    (name : Text) :
    CommandLine.Arguments where
  path := "mod".toList
  choices :=
    { CommandLine.Choices.none with
      modName := .given name
      modId := .given "sample_mod".toList }

/-- The request of these words. -/
def bracketRequest
    (name : Text) :
    Request where
  targetPath := ⟨.relative, ["mod".toList]⟩
  modId := "sample_mod".toList
  modName := name
  language := .java
  mainClass := MainClass.default

theorem parse_namedWords :
    CommandLine.Arguments.parse (namedWords taggedName) = .ok (namedArguments taggedName) ∧
      CommandLine.Arguments.parse (namedWords closingName) =
        .ok (namedArguments closingName) := by
  decide +kernel

theorem resolve_namedArguments :
    resolve .faultless bareWorkspace (optionsOf (namedArguments taggedName)) =
        .ok (bracketRequest taggedName) ∧
      resolve .faultless bareWorkspace (optionsOf (namedArguments closingName)) =
        .ok (bracketRequest closingName) :=
  ⟨rfl, rfl⟩

theorem attempt_namedArguments
    {name : Text}
    (isSample : name ∈ [taggedName, closingName]) :
    ∃ paths,
      (bareAttempt (namedArguments name) (bracketRequest name)).outcome = .ok paths := by
  have named : (bracketRequest name).Named :=
    (Request.named_of_ofFields ofFields_sampleFields).of_same rfl rfl
  have both :
      ∀ name ∈ [taggedName, closingName],
        (Host.faultless.emit bareWorkspace (bracketRequest name).targetPath
          (List.zipWith Project.File.mk (Project.fileNames (bracketRequest name))
            ((Project.filesOf (bracketRequest name) Toolchain.default).map
              Project.File.content)) false none).outcome.isOk =
          true := by
    decide +kernel
  refine exists_ok_of_isOk ?_
  rw [bareAttempt, attempt, Host.generate_eq, Project.filesOf_eq_zipWith _ _ named]
  exact both name isSample

/-- Tags that can be opened and closed do no harm. -/
theorem run_of_success_tagged_name :
    CommandLine.Arguments.parse (namedWords taggedName) = .ok (namedArguments taggedName) ∧
      resolve .faultless bareWorkspace (optionsOf (namedArguments taggedName)) =
          .ok (bracketRequest taggedName) ∧
        ∃ paths,
          (bareAttempt (namedArguments taggedName) (bracketRequest taggedName)).outcome =
              .ok paths ∧
            (bareRun (namedWords taggedName)).Summarises (bracketRequest taggedName) paths
              [] := by
  obtain ⟨paths, generated⟩ := attempt_namedArguments (List.mem_cons_self)
  obtain ⟨warned, warns, _, summarises, _⟩ :=
    run_of_success .faultless parse_namedWords.1 bareWorkspace Toolchain.default.settings
      missingGit resolve_namedArguments.1 generated
  have balanced :
      Markup.isBalanced (bracketRequest taggedName).modName = true ∧
        Markup.isBalanced (bracketRequest taggedName).targetPath.toText = true := by
    decide +kernel
  cases warns
  exact
    ⟨parse_namedWords.1, resolve_namedArguments.1, paths, generated, summarises.mpr balanced⟩

/-- A tag that closes nothing ends the run, with the project in place. -/
theorem run_crashes_on_closing_tag :
    CommandLine.Arguments.parse (namedWords closingName) = .ok (namedArguments closingName) ∧
      resolve .faultless bareWorkspace (optionsOf (namedArguments closingName)) =
          .ok (bracketRequest closingName) ∧
        ∃ paths,
          (bareAttempt (namedArguments closingName) (bracketRequest closingName)).outcome =
              .ok paths ∧
            (bareRun (namedWords closingName)).output = [] ∧
              (bareRun (namedWords closingName)).ending =
                .crashed (.markup (.unmatched "/b".toList 0)) := by
  obtain ⟨paths, generated⟩ :=
    attempt_namedArguments (List.mem_cons_of_mem _ List.mem_cons_self)
  have warns :
      warning .faultless bareWorkspace (bracketRequest closingName) false = .ok [] :=
    rfl
  have failed :
      (summary (bracketRequest closingName)).print = .error (.unmatched "/b".toList 0) := by
    decide +kernel
  have crashes :=
    crashes_of_print parse_namedWords.2 resolve_namedArguments.2 warns generated failed
  refine ⟨parse_namedWords.2, resolve_namedArguments.2, paths, generated, ?_, ?_⟩
  all_goals rw [bareRun, crashes]

end ModSkeleton.Cli
