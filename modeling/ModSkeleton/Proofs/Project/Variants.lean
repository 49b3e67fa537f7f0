import Mathlib.Data.List.Infix
import ModSkeleton.Proofs.Project.Containment
import ModSkeleton.Proofs.Template.Guarding
import ModSkeleton.Proofs.Template.Reading

namespace ModSkeleton.Project

open Template

/-!
# Variants of a project

A request can be rendered in Java and in Kotlin. The files that both projects have stand
at the same paths. Some of them are the same; the others come from templates that guard
blocks of lines by directives. The Kotlin variant has all lines of such a template, with
their slots filled, and the Java variant has the lines that are not guarded; no trace of
the directives is left in either (`render_guarded_lines`).
-/

/-- A request in some language. -/
def inLanguage
    (request : Request)
    (language : Language) :
    Request :=
  { request with language }

/-- The line that opens a guarded block. -/
def guardLine : Text :=
  "{% if kotlin %}".toList

/-- The line that closes it. -/
def guardEnd : Text :=
  "{% endif %}".toList

/-- The names that are bound to other values in another language. -/
def languageWords : List Text :=
  ["kotlin".toList, "source_dir".toList, "extension".toList]

/-- Another language shows only where something about the language is read. -/
theorem agreeOutside_language
    (request : Request)
    (toolchain : Toolchain)
    (first second : Language) :
    (contextOf (inLanguage request first) toolchain).AgreeOutside languageWords
      (contextOf (inLanguage request second) toolchain) :=
  Context.agreeOutside_of_without rfl

/-- Whether a source has the same outline in both languages and reads nothing about them. -/
def isShared
    (source : Text) :
    Bool :=
  decide (outlineOf .kotlin source = outlineOf .java source) &&
    (outlineOf .java source).all (Chunk.avoids languageWords)

/-- Whether a line is a shared template of its own, without directives. -/
def isPlainLine
    (line : Text) :
    Bool :=
  !decide (TagKind.block.opening <:+: line) && isUsable line && isShared line

/-- The outline of lines that are rendered one by one. -/
def linesOutline
    (lines : List Text) :
    List Chunk :=
  lines.flatMap fun line => outlineOf .java line ++ [.text ['\n']]

/-- The blocks of lines of a template. -/
def guardedLines
    (source : Text) :
    Guarded (List Text) :=
  Guarded.ofSource guardLine guardEnd source

/-- Whether the outline of a source is, in both languages, the one of its plain lines. -/
def isGuarded
    (source : Text) :
    Bool :=
  decide ((guardedLines source).source guardLine guardEnd = source) &&
    ((guardedLines source).shown true).all isPlainLine &&
    [Language.java, .kotlin].all fun language =>
      decide
        (Chunk.merge (outlineOf language source) =
          Chunk.merge (linesOutline ((guardedLines source).shown (language == .kotlin))))

/-- The templates with guarded blocks are made of plain lines. -/
theorem isGuarded_sources :
    ∀ source ∈ [buildScript, buildProperties, metadata], isGuarded source = true := by
  unfold buildScript buildProperties metadata
  repeat rw [Spelled.map_toList (by repeat' constructor)]
  decide +kernel

/-- A source is shared if both languages have one outline that reads nothing about them. -/
theorem isShared_of_hasOutlines
    {source : Text}
    {outline : List Chunk}
    (has : hasOutlines (fun _ => outline) source = true)
    (avoids : outline.all (Chunk.avoids languageWords) = true) :
    isShared source = true := by
  rw [isShared, outlineOf_of_hasOutlines has, outlineOf_of_hasOutlines has, avoids,
    decide_eq_true rfl]
  rfl

/-- The other templates of common files are the same in both languages. -/
theorem isShared_sources :
    ∀ source ∈ [buildSettings, ignoredFiles, mixins], isShared source = true := by
  intro source member
  simp only [List.mem_cons, List.not_mem_nil, or_false] at member
  rcases member with rfl | rfl | rfl
  · exact isShared_of_hasOutlines hasOutlines_buildSettings (by decide +kernel)
  · exact isShared_of_hasOutlines hasOutlines_ignoredFiles (by decide +kernel)
  · exact isShared_of_hasOutlines hasOutlines_mixins (by decide +kernel)

/--
A template is made of blocks of lines between directives. No line has a directive in it,
and every line renders on its own, to the same text in either language.
-/
structure RendersLines
    (scope : Language → Context)
    (source : Text)
    (lines : Guarded (List Text))
    (fill : Text → Text) :
    Prop where
  source : lines.source guardLine guardEnd = source
  plain : ∀ line ∈ lines.shown true, ¬TagKind.block.opening <:+: line
  rendered :
    ∀ line ∈ lines.shown true, ∀ language, renderSource (scope language) line = .ok (fill line)

/-- The texts of blocks whose lines are filled one by one. -/
def filledBlocks
    (fill : Text → Text)
    (lines : Guarded (List Text)) :
    Guarded Text :=
  lines.map fun block => Text.ofLines (block.map fill)

theorem ofLines_shown
    (fill : Text → Text)
    (guarded : Bool)
    (lines : Guarded (List Text)) :
    Text.ofLines ((lines.shown guarded).map fill) = (filledBlocks fill lines).shown guarded := by
  apply Guarded.map_shown (fun block => Text.ofLines (block.map fill))
  · rfl
  · intro first second
    simp [Text.ofLines]

section

variable
    (request : Request)
    (toolchain : Toolchain)

/-- A line in the Java variant of a project. -/
def filledLine
    (line : Text) :
    Text :=
  filled (inLanguage request .java) toolchain line

/-- A shared source is filled with the same text in either language. -/
theorem filled_eq_filledLine
    {source : Text}
    (shared : isShared source = true)
    (language : Language) :
    filled (inLanguage request language) toolchain source =
      filledLine request toolchain source := by
  rw [isShared, Bool.and_eq_true, decide_eq_true_iff] at shared
  have outline :
      outlineOf (inLanguage request language).language source = outlineOf .java source := by
    cases language with
    | java => rfl
    | kotlin => exact shared.1
  unfold filledLine filled
  rw [outline]
  exact Chunk.flatMap_fill_congr (agreeOutside_language request toolchain language .java) shared.2

/-- Shared lines, one after another, are filled line by line. -/
theorem flatMap_fill_linesOutline
    {lines : List Text}
    (shared : ∀ line ∈ lines, isShared line = true)
    (language : Language) :
    (linesOutline lines).flatMap
        (Chunk.fill (contextOf (inLanguage request language) toolchain)) =
      Text.ofLines (lines.map (filledLine request toolchain)) := by
  induction lines with
  | nil => rfl
  | cons line later inductionHypothesis =>
      have lineShared := shared line List.mem_cons_self
      have rest := inductionHypothesis fun other member =>
        shared other (List.mem_cons_of_mem _ member)
      have agree := agreeOutside_language request toolchain language .java
      rw [isShared, Bool.and_eq_true] at lineShared
      unfold linesOutline Text.ofLines at rest ⊢
      rw [List.flatMap_cons, List.flatMap_append, List.flatMap_append, rest, List.map_cons,
        List.flatMap_cons, Chunk.flatMap_fill_congr agree lineShared.2]
      rfl

variable
    {source : Text}
    (guarded : isGuarded source = true)

include guarded

/-- What the check of a template with guarded blocks says. -/
theorem isGuarded_cases :
    (guardedLines source).source guardLine guardEnd = source ∧
      (∀ line ∈ (guardedLines source).shown true, isPlainLine line = true) ∧
        ∀ language,
          Chunk.merge (outlineOf language source) =
            Chunk.merge (linesOutline ((guardedLines source).shown (language == .kotlin))) := by
  unfold isGuarded at guarded
  rw [Bool.and_eq_true, Bool.and_eq_true, decide_eq_true_iff, List.all_eq_true,
    List.all_eq_true] at guarded
  obtain ⟨⟨whole, plain⟩, outlines⟩ := guarded
  refine ⟨whole, plain, ?_⟩
  intro language
  exact of_decide_eq_true (outlines language (by cases language <;> decide))

theorem rendersLines_of_isGuarded :
    RendersLines (fun language => contextOf (inLanguage request language) toolchain) source
      (guardedLines source) (filledLine request toolchain) := by
  obtain ⟨whole, plain, _⟩ := isGuarded_cases guarded
  refine ⟨whole, ?_, ?_⟩
  · intro line member
    have isPlain := plain line member
    rw [isPlainLine, Bool.and_eq_true, Bool.and_eq_true] at isPlain
    simpa using isPlain.1.1
  · intro line member language
    have isPlain := plain line member
    rw [isPlainLine, Bool.and_eq_true, Bool.and_eq_true] at isPlain
    rw [← filled_eq_filledLine request toolchain isPlain.2 language]
    exact renderAs_of_isUsable (inLanguage request language) toolchain isPlain.1.2 none

/-- A template with guarded blocks is filled block by block, the guarded ones in Kotlin only. -/
theorem filled_of_isGuarded
    (language : Language) :
    filled (inLanguage request language) toolchain source =
      (filledBlocks (filledLine request toolchain) (guardedLines source)).shown
        (language == .kotlin) := by
  obtain ⟨_, plain, outlines⟩ := isGuarded_cases guarded
  have shared :
      ∀ line ∈ (guardedLines source).shown (language == .kotlin), isShared line = true := by
    intro line member
    have isPlain := plain line ((guardedLines source).shown_subset _ member)
    rw [isPlainLine, Bool.and_eq_true] at isPlain
    exact isPlain.2
  calc
    filled (inLanguage request language) toolchain source
    _ = (linesOutline ((guardedLines source).shown (language == .kotlin))).flatMap
          (Chunk.fill (contextOf (inLanguage request language) toolchain)) :=
        Chunk.flatMap_fill_of_merge (outlines language) _
    _ = Text.ofLines
          (((guardedLines source).shown (language == .kotlin)).map
            (filledLine request toolchain)) :=
        flatMap_fill_linesOutline request toolchain shared language
    _ = _ := ofLines_shown (filledLine request toolchain) _ _

end

/-- The files that come from templates with guarded blocks. -/
def guardedFiles : List (List Text × Text) :=
  [(["build.gradle".toList], buildScript),
   (["gradle.properties".toList], buildProperties),
   (resources ++ ["fabric.mod.json".toList], metadata)]

/-- The names of the files that are the same in both languages. -/
def sharedNames
    (request : Request) :
    List (List Text) :=
  [["settings.gradle".toList], [".gitignore".toList], resources ++ [mixinsName request]]

section

variable
    {request : Request}
    (named : request.Named)
    (toolchain : Toolchain)

include named

/-- In either language, the common files stand at the same paths. -/
theorem names_common_inLanguage
    (language : Language) :
    ((filesOf (inLanguage request language) toolchain).take 6).map File.names =
      fixedNames ++ [resources ++ [mixinsName request]] := by
  have stillNamed : (inLanguage request language).Named := named.of_same rfl rfl
  have count :
      (commonItems.map fun item => item.file (inLanguage request language) toolchain).length =
        6 := by
    rw [List.length_map]
    rfl
  rw [filesOf_eq_append, List.take_left' count, names_commonFiles _ toolchain stillNamed]
  rfl

/-- The files that come from shared templates have the same content in either language. -/
theorem exists_shared_content :
    ∀ names ∈ sharedNames request, ∃ content, ∀ language,
      contentAt? (filesOf (inLanguage request language) toolchain) names = some content := by
  have stillNamed : ∀ language, (inLanguage request language).Named :=
    fun language => named.of_same rfl rfl
  have fixed :
      ∀ pair ∈ fixedFiles, isShared pair.2 = true → ∃ content, ∀ language,
        contentAt? (filesOf (inLanguage request language) toolchain) pair.1 = some content := by
    intro pair member shared
    refine ⟨filledLine request toolchain pair.2, ?_⟩
    intro language
    rw [contentAt?_fixedFiles (stillNamed language) toolchain pair member,
      filled_eq_filledLine request toolchain shared]
  intro names member
  simp only [sharedNames, List.mem_cons, List.not_mem_nil, or_false] at member
  rcases member with rfl | rfl | rfl
  · exact fixed (["settings.gradle".toList], buildSettings)
      (List.mem_of_getElem? (rfl : fixedFiles[1]? = _)) (isShared_sources _ (by simp))
  · exact fixed ([".gitignore".toList], ignoredFiles)
      (List.mem_of_getElem? (rfl : fixedFiles[3]? = _)) (isShared_sources _ (by simp))
  · refine ⟨filledLine request toolchain mixins, ?_⟩
    intro language
    rw [← filled_eq_filledLine request toolchain (isShared_sources _ (by simp)) language]
    exact contentAt?_mixins (stillNamed language) toolchain

end

/--
An accepted request can be rendered in either language with every toolchain. The six
common files stand at the same paths, and three of them are the same. Each of the other
three comes from a template with guarded blocks of lines: in Kotlin it has the lines of
all blocks, filled one by one, and in Java those of the blocks that are not guarded.
-/
theorem render_guarded_lines
    {fields : Request.Fields}
    {request : Request}
    (accepted : Request.ofFields fields = .ok request)
    (toolchain : Toolchain) :
    ∃ (scope : Language → Context) (files : Language → List File),
      (∀ language,
        context (inLanguage request language).brief toolchain.settings = .ok (scope language) ∧
          render (inLanguage request language).brief toolchain.settings =
            .ok (files language)) ∧
        (∃ names,
          names.length = 6 ∧ ∀ language, ((files language).take 6).map File.names = names) ∧
          (∀ names ∈ sharedNames request, ∃ content, ∀ language,
            contentAt? (files language) names = some content) ∧
            ∀ pair ∈ guardedFiles, ∃ lines fill,
              RendersLines scope pair.2 lines fill ∧
                ∀ language,
                  contentAt? (files language) pair.1 =
                    some ((filledBlocks fill lines).shown (language == .kotlin)) := by
  have named := Request.named_of_ofFields accepted
  refine
    ⟨fun language => contextOf (inLanguage request language) toolchain,
      fun language => filesOf (inLanguage request language) toolchain, ?_, ?_, ?_, ?_⟩
  · intro language
    exact
      ⟨context_eq (inLanguage request language) toolchain,
        render_eq (inLanguage request language) toolchain⟩
  · exact ⟨_, rfl, names_common_inLanguage named toolchain⟩
  · exact exists_shared_content named toolchain
  · intro pair member
    have isFixed : pair ∈ fixedFiles := by
      simp only [guardedFiles, List.mem_cons, List.not_mem_nil, or_false] at member
      rcases member with rfl | rfl | rfl
      · exact List.mem_of_getElem? (rfl : fixedFiles[0]? = _)
      · exact List.mem_of_getElem? (rfl : fixedFiles[2]? = _)
      · exact List.mem_of_getElem? (rfl : fixedFiles[4]? = _)
    have guarded : isGuarded pair.2 = true :=
      isGuarded_sources pair.2 (List.mem_map_of_mem member : pair.2 ∈ guardedFiles.map Prod.snd)
    refine ⟨_, _, rendersLines_of_isGuarded request toolchain guarded, ?_⟩
    intro language
    have stillNamed : (inLanguage request language).Named := named.of_same rfl rfl
    rw [contentAt?_fixedFiles stillNamed toolchain pair isFixed,
      filled_of_isGuarded request toolchain guarded]

/-- The build script of a project with directives in its name is switched by whole lines. -/
theorem render_guarded_lines_quoted :
    Request.ofFields quotedFields = .ok quotedRequest ∧
      ∃ (scope : Language → Context) (files : Language → List File) (lines : _) (fill : _),
        RendersLines scope buildScript lines fill ∧
          ∀ language,
            render (inLanguage quotedRequest language).brief Toolchain.default.settings =
                .ok (files language) ∧
              contentAt? (files language) ["build.gradle".toList] =
                some ((filledBlocks fill lines).shown (language == .kotlin)) := by
  have accepted : Request.ofFields quotedFields = .ok quotedRequest := rfl
  obtain ⟨scope, files, rendered, _, _, guarded⟩ :=
    render_guarded_lines accepted Toolchain.default
  obtain ⟨lines, fill, renders, contents⟩ :=
    guarded (["build.gradle".toList], buildScript) List.mem_cons_self
  exact
    ⟨accepted, scope, files, lines, fill, renders, fun language =>
      ⟨(rendered language).2, contents language⟩⟩

end ModSkeleton.Project
