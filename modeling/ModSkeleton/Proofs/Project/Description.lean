import ModSkeleton.Proofs.Groovy.Quoting
import ModSkeleton.Proofs.Project.Resources
import ModSkeleton.Proofs.Text.Newlines

namespace ModSkeleton

open Template

/-!
# The description of a project

The build script describes the project by the name of the mod, as a literal on a line of
its own. Such a literal must not run over the end of a line. Quoting takes care of line
feeds, but leaves carriage returns as they are, and so does the check of names: the
description stays on one line exactly if the name has no carriage return in it
(`Project.description_on_one_line_iff`).
-/

namespace Groovy

/-- The body of a literal has no line feed in it. -/
theorem newline_not_mem_body
    (text : Text) :
    '\n' ∉ body text := by
  rw [body_eq_flatMap]
  intro member
  obtain ⟨c, _, inEscape⟩ := List.mem_flatMap.mp member
  rcases escapeChar_cases c with
    ⟨isMark, escaped⟩ | ⟨_, escaped⟩ | ⟨⟨_, _, notNewline⟩, escaped⟩
  · rw [escaped] at inEscape
    rcases isMark with rfl | rfl
    · exact absurd inEscape (by decide)
    · exact absurd inEscape (by decide)
  · rw [escaped] at inEscape
    exact absurd inEscape (by decide)
  · rw [escaped] at inEscape
    exact notNewline (List.mem_singleton.mp inEscape).symm

/-- A character that neither is escaped nor helps to escape is in the body if it is in the text. -/
theorem mem_body_iff
    {c : Char}
    (notEscaped : c ≠ '\\' ∧ c ≠ '\'' ∧ c ≠ '\n')
    (notLetter : c ≠ 'n')
    (text : Text) :
    c ∈ body text ↔ c ∈ text := by
  rw [body_eq_flatMap, List.mem_flatMap]
  constructor
  · rintro ⟨original, isOriginal, inEscape⟩
    rcases escapeChar_cases original with
      ⟨isMark, escaped⟩ | ⟨_, escaped⟩ | ⟨_, escaped⟩
    · rw [escaped] at inEscape
      rcases isMark with rfl | rfl <;> simp [notEscaped] at inEscape
    · rw [escaped] at inEscape
      simp [notEscaped, notLetter] at inEscape
    · rw [escaped] at inEscape
      obtain rfl := List.mem_singleton.mp inEscape
      exact isOriginal
  · intro member
    refine ⟨c, member, ?_⟩
    have unchanged : escapeChar c = [c] := by
      simp [escapeChar, notEscaped]
    rw [unchanged]
    exact List.mem_singleton_self c

theorem newline_not_mem_quote
    (text : Text) :
    '\n' ∉ quote text := by
  simp [quote, newline_not_mem_body]

/-- Quoting leaves carriage returns where they are. -/
theorem return_mem_quote_iff
    (text : Text) :
    '\r' ∈ quote text ↔ '\r' ∈ text := by
  simp [quote, mem_body_iff (show '\r' ≠ '\\' ∧ '\r' ≠ '\'' ∧ '\r' ≠ '\n' by decide)
    (show '\r' ≠ 'n' by decide)]

end Groovy

namespace Template.Chunk

/-- Whether a chunk stands in an outline between texts that end and begin as given. -/
def standsBetween
    (before after : Text)
    (chunk : Chunk) :
    List Chunk → Bool
  | .text front :: place :: .text back :: later =>
      (decide (place = chunk) && before.isSuffixOf front && after.isPrefixOf back) ||
        standsBetween before after chunk (place :: .text back :: later)
  | _ :: later => standsBetween before after chunk later
  | [] => false

/-- Such a chunk is filled between these texts. -/
theorem infix_fill_of_standsBetween
    {before after : Text}
    {chunk : Chunk}
    {chunks : List Chunk}
    (stands : standsBetween before after chunk chunks = true)
    (context : Context) :
    before ++ (chunk.fill context ++ after) <:+: chunks.flatMap (fill context) := by
  fun_induction standsBetween before after chunk chunks with
  | case1 front place back later inductionHypothesis =>
      rw [Bool.or_eq_true, Bool.and_eq_true, Bool.and_eq_true, decide_eq_true_eq,
        List.isSuffixOf_iff_suffix, List.isPrefixOf_iff_prefix] at stands
      rcases stands with ⟨⟨rfl, start, rfl⟩, rest, rfl⟩ | inLater
      · refine ⟨start, rest ++ later.flatMap (fill context), ?_⟩
        simp only [List.flatMap_cons, fill, List.append_assoc]
      · exact (inductionHypothesis inLater).trans (List.suffix_append _ _).isInfix
  | case2 first later _ inductionHypothesis =>
      exact (inductionHypothesis stands).trans (List.suffix_append _ _).isInfix
  | case3 => cases stands

end Template.Chunk

namespace Project

/-- The beginning of the line that describes a project. -/
def descriptionStart : Text :=
  "description = ".toList

/-- The line of the build script that describes a project. -/
def descriptionLine
    (request : Request) :
    Text :=
  descriptionStart ++ Groovy.quote request.modName

/-- The name of the mod stands quoted on the line of the description. -/
theorem standsBetween_buildScript
    (language : Language) :
    Chunk.standsBetween ('\n' :: descriptionStart) ['\n']
        (.filtered .groovyString "mod_name".toList []) (outlineOf language buildScript) =
      true := by
  rw [outlineOf_of_hasOutlines hasOutlines_buildScript]
  unfold buildScriptOutline descriptionStart
  repeat rw [String.toList_ofList]
  cases language <;> decide +kernel

/-- The build script has a line feed before and behind the description. -/
theorem exists_filled_description
    (request : Request)
    (toolchain : Toolchain) :
    ∃ before after,
      filled request toolchain buildScript =
        before ++ '\n' :: (descriptionLine request ++ '\n' :: after) := by
  obtain ⟨before, after, whole⟩ :=
    Chunk.infix_fill_of_standsBetween (standsBetween_buildScript request.language)
      (contextOf request toolchain)
  refine ⟨before, after, ?_⟩
  rw [filled, ← whole, Chunk.fill, (prints_contextOf request toolchain).modName]
  simp only [descriptionLine, Filter.ofText, List.append_assoc, List.cons_append,
    List.nil_append, List.append_nil]

/-- The description is one physical line exactly if the name has no carriage return in it. -/
theorem descriptionLine_mem_physicalLines_iff
    (request : Request)
    (before after : Text) :
    descriptionLine request ∈
        Text.physicalLines (before ++ '\n' :: (descriptionLine request ++ '\n' :: after)) ↔
      '\r' ∉ request.modName := by
  have startFree : '\n' ∉ descriptionStart ∧ '\r' ∉ descriptionStart := by
    decide
  have newlineFree : '\n' ∉ descriptionLine request := by
    simp only [descriptionLine, List.mem_append, startFree, Groovy.newline_not_mem_quote,
      or_self, not_false_eq_true]
  have returnInName : '\r' ∈ descriptionLine request ↔ '\r' ∈ request.modName := by
    simp only [descriptionLine, List.mem_append, startFree, Groovy.return_mem_quote_iff,
      false_or]
  constructor
  · intro member isReturn
    exact (Text.not_mem_of_mem_physicalLines member).2 (returnInName.mpr isReturn)
  · intro noReturn
    exact Text.mem_physicalLines before after newlineFree (mt returnInName.mp noReturn)

/--
The build script of every resolved request describes the project by the quoted name of the
mod, between two line feeds. The literal has no line feed in it, and a carriage return
exactly if the name has one. So the description is a physical line of the build script
exactly if the name has no carriage return in it.
-/
theorem description_on_one_line_iff
    {host : Host}
    {workspace : Workspace}
    {options : Request.Options}
    {request : Request}
    (resolved : Request.resolve host workspace options = .ok request)
    (toolchain : Toolchain) :
    ∃ files script before after,
      render request.brief toolchain.settings = .ok files ∧
        contentAt? files ["build.gradle".toList] = some script ∧
          script = before ++ '\n' :: (descriptionLine request ++ '\n' :: after) ∧
            '\n' ∉ Groovy.quote request.modName ∧
              ('\r' ∈ Groovy.quote request.modName ↔ '\r' ∈ request.modName) ∧
                (descriptionLine request ∈ Text.physicalLines script ↔
                  '\r' ∉ request.modName) := by
  obtain ⟨_, fromFields⟩ := Request.ofFields_of_resolve resolved
  have named := Request.named_of_ofFields fromFields
  obtain ⟨before, after, script⟩ := exists_filled_description request toolchain
  refine
    ⟨_, _, before, after, render_eq request toolchain, contentAt?_buildScript named toolchain,
      script, Groovy.newline_not_mem_quote _, Groovy.return_mem_quote_iff _, ?_⟩
  rw [script]
  exact descriptionLine_mem_physicalLines_iff request before after

/-- Options with a given name. -/
def optionsWithName
    (name : Text) :
    Request.Options where
  targetPath := .text "mod".toList
  modName := .text name
  modId := .null
  useKotlin := .bool false
  mainClass := .null

/-- The request that they stand for. -/
def requestWithName
    (name : Text) :
    Request where
  targetPath := ⟨.relative, ["mod".toList]⟩
  modId := "mod".toList
  modName := name
  language := .java
  mainClass := MainClass.default

/-- A name with a line feed, a quote and a backslash at its end. -/
def foldedName : Text :=
  "it's\nfolded\\".toList

/-- A name with a carriage return in it. -/
def returningName : Text :=
  "a\rb".toList

/-- A name with a line feed in it is described on one line. -/
theorem description_on_one_line_iff_folded :
    Request.resolve .faultless bareWorkspace (optionsWithName foldedName) =
        .ok (requestWithName foldedName) ∧
      ∃ files script,
        render (requestWithName foldedName).brief Toolchain.default.settings = .ok files ∧
          contentAt? files ["build.gradle".toList] = some script ∧
            "description = 'it\\'s\\nfolded\\\\'".toList ∈ Text.physicalLines script := by
  have resolved :
      Request.resolve .faultless bareWorkspace (optionsWithName foldedName) =
        .ok (requestWithName foldedName) :=
    rfl
  obtain ⟨files, script, _, _, rendered, found, _, _, _, onOneLine⟩ :=
    description_on_one_line_iff resolved Toolchain.default
  have line :
      descriptionLine (requestWithName foldedName) =
        "description = 'it\\'s\\nfolded\\\\'".toList := by
    decide
  rw [line] at onOneLine
  exact ⟨resolved, files, script, rendered, found, onOneLine.mpr (by decide)⟩

/-- A name with a carriage return in it is accepted, and breaks the line of the description. -/
theorem description_broken_by_return :
    Request.resolve .faultless bareWorkspace (optionsWithName returningName) =
        .ok (requestWithName returningName) ∧
      ∃ files script before after,
        render (requestWithName returningName).brief Toolchain.default.settings = .ok files ∧
          contentAt? files ["build.gradle".toList] = some script ∧
            script =
                before ++ '\n' ::
                  (descriptionLine (requestWithName returningName) ++ '\n' :: after) ∧
              '\r' ∈ Groovy.quote (requestWithName returningName).modName ∧
                descriptionLine (requestWithName returningName) ∉
                  Text.physicalLines script := by
  have resolved :
      Request.resolve .faultless bareWorkspace (optionsWithName returningName) =
        .ok (requestWithName returningName) :=
    rfl
  obtain ⟨_, fromFields⟩ := Request.ofFields_of_resolve resolved
  have named := Request.named_of_ofFields fromFields
  obtain ⟨before, after, script⟩ :=
    exists_filled_description (requestWithName returningName) Toolchain.default
  refine
    ⟨resolved, _, _, before, after, render_eq _ Toolchain.default,
      contentAt?_buildScript named Toolchain.default, script, by decide, ?_⟩
  rw [script, descriptionLine_mem_physicalLines_iff]
  decide

end Project

end ModSkeleton
