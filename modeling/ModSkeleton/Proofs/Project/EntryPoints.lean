import ModSkeleton.Proofs.Generation.Sequence
import ModSkeleton.Proofs.Project.Documents
import ModSkeleton.Proofs.Request.ModIds

namespace ModSkeleton.Project

open Template

/-!
# Entry points of a project

The entry point declares the mod id as a string, in which the mod id stands as it
is. Nothing in an accepted mod id ends that string, escapes in it or returns the
carriage, so the only thing that can go wrong is the line feed that the check of
mod ids admits: the declaration stays on one line exactly if the mod id follows
the rule (`declaration_on_one_line_iff`).
-/

/-- The item of the entry point in a language. -/
def entryPointItem
    (language : Language) :
    Item :=
  ⟨entryPointTemplate language, entryPointOutput⟩

theorem source_entryPointItem
    (language : Language) :
    (entryPointItem language).source = entryPointSource language := by
  cases language with
  | java => exact source_of_mem (List.mem_of_getElem? (rfl : sources[6]? = _))
  | kotlin => exact source_of_mem (List.mem_of_getElem? (rfl : sources[7]? = _))

/-- The entry point of a project is found under its names. -/
theorem contentAt?_entryPoint
    {request : Request}
    (named : request.Named)
    (toolchain : Toolchain) :
    contentAt? (filesOf request toolchain) (entryPointNames request) =
      some (filled request toolchain (entryPointSource request.language)) := by
  have member : entryPointItem request.language ∈ items request.language :=
    List.mem_of_getElem? (rfl : (items request.language)[6]? = _)
  have leads := components_entryPoint request toolchain named
  rw [contentAt?_filesOf named toolchain member leads, source_entryPointItem]

/-- The declaration of the mod id in an entry point, up to the end of the string. -/
def idDeclaration
    (request : Request) :
    Text :=
  declarationStart ++ (request.modId ++ ['"'])

/-- In either language, the mod id stands between quotes. -/
theorem exists_entryPointOutline
    (language : Language) :
    ∃ front before after,
      entryPointOutline language =
        front ++
          [.text (before ++ declarationStart), .slot "mod_id".toList,
           .text ('"' :: after)] := by
  cases language with
  | java => exact ⟨_, _, _, rfl⟩
  | kotlin => exact ⟨_, _, _, rfl⟩

/-- The entry point declares the mod id. -/
theorem filled_declares_id
    (request : Request)
    (toolchain : Toolchain) :
    idDeclaration request <:+: filled request toolchain (entryPointSource request.language) := by
  obtain ⟨front, before, after, outline⟩ := exists_entryPointOutline request.language
  rw [filled, outlineOf_entryPoint, outline]
  refine ⟨front.flatMap (Chunk.fill (contextOf request toolchain)) ++ before, after, ?_⟩
  simp only [idDeclaration, Chunk.fill, (prints_contextOf request toolchain).modId,
    List.flatMap_append, List.flatMap_cons, List.flatMap_nil, List.append_assoc,
    List.append_nil, List.cons_append, List.nil_append]

/-- The declaration of an accepted mod id stays on one line exactly if the rule is followed. -/
theorem declaration_on_one_line_iff
    {request : Request}
    (accepted : ModId.accepts request.modId = true)
    (toolchain : Toolchain) :
    (∃ line ∈ Text.splitOn '\n' (filled request toolchain (entryPointSource request.language)),
        idDeclaration request <:+: line) ↔
      ModId.FollowsRule request.modId := by
  rw [ModId.followsRule_iff_of_accepts accepted]
  constructor
  · rintro ⟨line, member, inLine⟩ newline
    have inDeclaration : '\n' ∈ idDeclaration request := by
      simp [idDeclaration, newline]
    exact Text.not_mem_of_mem_splitOn member (inLine.subset inDeclaration)
  · intro noNewline
    have startFree : '\n' ∉ declarationStart := by
      decide
    have free : '\n' ∉ idDeclaration request := by
      rw [idDeclaration]
      simp only [List.mem_append, startFree, noNewline, List.mem_singleton]
      decide
    exact Text.exists_piece_of_infix free (filled_declares_id request toolchain)

/-- Nothing in an accepted mod id ends a string, escapes in it or returns the carriage. -/
theorem no_marks_of_accepts
    {modId : Text}
    (accepted : ModId.accepts modId = true) :
    ∀ c ∈ ['"', '\\', '\r'], c ∉ modId := by
  intro c special
  simp only [List.mem_cons, List.not_mem_nil, or_false] at special
  rcases special with rfl | rfl | rfl
  · exact ModId.not_mem_of_accepts accepted (by decide) (by decide)
  · exact ModId.not_mem_of_accepts accepted (by decide) (by decide)
  · exact ModId.not_mem_of_accepts accepted (by decide) (by decide)

/--
Exactly those texts pass as mod ids that follow the rule, with or without one line
feed behind them. In every resolved request, the mod id has neither quotes nor
backslashes nor carriage returns in it, and the entry point declares it; the
declaration stays on one line exactly if the mod id follows the rule.
-/
theorem validate_modId_iff_and_declared
    (text : Text) :
    (ModId.validate text = .ok () ↔
        ∃ id, ModId.FollowsRule id ∧ (text = id ∨ text = id ++ ['\n'])) ∧
      ∀ {host : Host} {workspace : Workspace} {options : Request.Options}
          {request : Request},
        Request.resolve host workspace options = .ok request →
        (∀ c ∈ ['"', '\\', '\r'], c ∉ request.modId) ∧
          ∀ toolchain : Toolchain,
            ∃ files content,
              render request.brief toolchain.settings = .ok files ∧
                contentAt? files (entryPointNames request) = some content ∧
                  idDeclaration request <:+: content ∧
                    ((∃ line ∈ Text.splitOn '\n' content, idDeclaration request <:+: line) ↔
                      ModId.FollowsRule request.modId) := by
  refine ⟨?_, ?_⟩
  · rw [ModId.validate_eq_ok_iff, ModId.accepts_iff]
  · intro host workspace options request resolved
    obtain ⟨modId, fromFields⟩ := Request.ofFields_of_resolve resolved
    have named := Request.named_of_ofFields fromFields
    have accepted := (Request.valid_of_ofFields fromFields).1.modId
    refine ⟨no_marks_of_accepts accepted, ?_⟩
    intro toolchain
    exact
      ⟨_, _, render_eq request toolchain, contentAt?_entryPoint named toolchain,
        filled_declares_id request toolchain, declaration_on_one_line_iff accepted toolchain⟩

/-- Options with a given mod id. -/
def optionsWithId
    (modId : Text) :
    Request.Options where
  targetPath := .text "mod".toList
  modName := .text "Sample".toList
  modId := .text modId
  useKotlin := .bool true
  mainClass := .null

/-- The request that they stand for. -/
def requestWithId
    (modId : Text) :
    Request where
  targetPath := ⟨.relative, ["mod".toList]⟩
  modId := modId
  modName := "Sample".toList
  language := .kotlin
  mainClass := MainClass.default

/-- A mod id that follows the rule. -/
def ruledId : Text :=
  "a-0_".toList

/-- A mod id with a line feed behind it. -/
def brokenId : Text :=
  "ab\n".toList

theorem resolve_optionsWithId :
    Request.resolve .faultless bareWorkspace (optionsWithId ruledId) = .ok (requestWithId ruledId) ∧
      Request.resolve .faultless bareWorkspace (optionsWithId brokenId) =
        .ok (requestWithId brokenId) :=
  ⟨rfl, rfl⟩

/-- A mod id of all kinds of characters passes and is declared on one line. -/
theorem validate_modId_iff_and_declared_hyphen :
    ModId.validate ruledId = .ok () ∧
      Request.resolve .faultless bareWorkspace (optionsWithId ruledId) =
          .ok (requestWithId ruledId) ∧
        ∃ files content,
          render (requestWithId ruledId).brief Toolchain.default.settings = .ok files ∧
            contentAt? files (entryPointNames (requestWithId ruledId)) = some content ∧
              ∃ line ∈ Text.splitOn '\n' content,
                idDeclaration (requestWithId ruledId) <:+: line := by
  have follows : ModId.FollowsRule ruledId := by
    decide
  obtain ⟨passes, declared⟩ := validate_modId_iff_and_declared ruledId
  obtain ⟨_, rendered⟩ := declared resolve_optionsWithId.1
  obtain ⟨files, content, isOk, found, _, onOneLine⟩ := rendered Toolchain.default
  exact
    ⟨passes.mpr ⟨ruledId, follows, .inl rfl⟩, resolve_optionsWithId.1, files, content, isOk,
      found, onOneLine.mpr follows⟩

/-- A line feed behind a mod id passes against the rule, and breaks the declaration. -/
theorem validate_passes_line_feed :
    ModId.validate brokenId = .ok () ∧
      ¬ModId.FollowsRule brokenId ∧
        Request.resolve .faultless bareWorkspace (optionsWithId brokenId) =
            .ok (requestWithId brokenId) ∧
          ∃ files content,
            render (requestWithId brokenId).brief Toolchain.default.settings = .ok files ∧
              contentAt? files (entryPointNames (requestWithId brokenId)) = some content ∧
                '\n' ∈ (requestWithId brokenId).modId ∧
                  ¬∃ line ∈ Text.splitOn '\n' content,
                    idDeclaration (requestWithId brokenId) <:+: line := by
  have accepted : ModId.accepts brokenId = true := by
    decide
  have broken : ¬ModId.FollowsRule brokenId := by
    decide
  obtain ⟨_, fromFields⟩ := Request.ofFields_of_resolve resolve_optionsWithId.2
  have named := Request.named_of_ofFields fromFields
  refine
    ⟨(ModId.validate_eq_ok_iff brokenId).mpr accepted, broken, resolve_optionsWithId.2, _, _,
      render_eq _ Toolchain.default, contentAt?_entryPoint named Toolchain.default,
      by decide, ?_⟩
  intro onOneLine
  exact broken ((declaration_on_one_line_iff accepted Toolchain.default).mp onOneLine)

end ModSkeleton.Project
