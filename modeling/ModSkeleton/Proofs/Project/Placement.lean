import ModSkeleton.Proofs.Project.Containment

namespace ModSkeleton.Project

open Template

/-!
# Placement of the entry point

The main class of a request says three things about its entry point: where the file
stands, which package it declares, and which class. All three come from the segments of
the main class, so they agree (`entryPoint_placed`). Conversely the path of the entry
point tells the language and the main class, because no segment has a dot or a slash in
it.
-/

/-- What ends the declaration of a package. -/
def packageEnd : Language → Text
  | .java => ";\n".toList
  | .kotlin => ['\n']

/-- The line that declares the package with given segments. -/
def packageLine
    (language : Language)
    (segments : List Text) :
    Text :=
  "package ".toList ++ Text.joinWith ['.'] segments ++ packageEnd language

/-- What stands on a line in front of the name of the entry point's class. -/
def classStart : Language → Text
  | .java => "\npublic class ".toList
  | .kotlin => "\nclass ".toList

/-- What stands on the same line behind it. -/
def classEnd : Language → Text
  | .java => " implements ModInitializer \x7b\n".toList
  | .kotlin => " : ModInitializer \x7b\n".toList

/-- The line that declares the class of an entry point, from the line end before it. -/
def classLine
    (language : Language)
    (name : Text) :
    Text :=
  classStart language ++ name ++ classEnd language

/-- A slot that comes first but for a text stands between this text and the one behind it. -/
theorem prefix_fill_slot
    (context : Context)
    {first second after word : Text}
    (begins : after <+: second)
    (later : List Chunk) :
    first ++ Chunk.textOf context word ++ after <+:
      (.text first :: .slot word :: .text second :: later).flatMap (Chunk.fill context) := by
  obtain ⟨rest, rfl⟩ := begins
  refine ⟨rest ++ later.flatMap (Chunk.fill context), ?_⟩
  simp only [List.flatMap_cons, Chunk.fill, List.append_assoc]

/-- A slot stands between the end of the text before it and the beginning of the one behind. -/
theorem infix_fill_slot
    (context : Context)
    {first second before after word : Text}
    (ends : before <:+ first)
    (begins : after <+: second)
    (front later : List Chunk) :
    before ++ Chunk.textOf context word ++ after <:+:
      (front ++ .text first :: .slot word :: .text second :: later).flatMap
        (Chunk.fill context) := by
  obtain ⟨start, rfl⟩ := ends
  obtain ⟨rest, rfl⟩ := begins
  refine
    ⟨front.flatMap (Chunk.fill context) ++ start, rest ++ later.flatMap (Chunk.fill context), ?_⟩
  simp only [List.flatMap_append, List.flatMap_cons, Chunk.fill, List.append_assoc]

/-- In either language, the package is what comes first. -/
theorem exists_outline_package
    (language : Language) :
    ∃ second later,
      entryPointOutline language =
          .text "package ".toList :: .slot "package".toList :: .text second :: later ∧
        packageEnd language <+: second := by
  cases language with
  | java => exact ⟨_, _, rfl, by decide +kernel⟩
  | kotlin => exact ⟨_, _, rfl, by decide +kernel⟩

/-- In either language, the name of the class stands in a line of its own. -/
theorem exists_outline_class
    (language : Language) :
    ∃ front first second later,
      entryPointOutline language =
          front ++ .text first :: .slot "class_name".toList :: .text second :: later ∧
        classStart language <:+ first ∧ classEnd language <+: second := by
  cases language with
  | java => exact ⟨[_, _], _, _, _, rfl, by decide +kernel, by decide +kernel⟩
  | kotlin => exact ⟨[_, _], _, _, _, rfl, by decide +kernel, by decide +kernel⟩

section

variable
    (request : Request)
    (toolchain : Toolchain)

/-- The content of the entry point of a project. -/
theorem content_entryPoint :
    ((entryPointItem request.language).file request toolchain).content =
      (entryPointOutline request.language).flatMap
        (Chunk.fill (contextOf request toolchain)) := by
  simp only [Item.file, source_entryPointItem, filled, outlineOf_entryPoint]

theorem packageLine_prefix :
    packageLine request.language request.packageSegments <+:
      ((entryPointItem request.language).file request toolchain).content := by
  obtain ⟨second, later, outline, begins⟩ := exists_outline_package request.language
  calc
    packageLine request.language request.packageSegments
    _ = "package ".toList ++ Chunk.textOf (contextOf request toolchain) "package".toList ++
          packageEnd request.language := by
        unfold packageLine
        rw [(prints_contextOf request toolchain).package, request.package_eq_joinWith]
    _ <+: _ := prefix_fill_slot _ begins later
    _ = _ := by
        rw [content_entryPoint, outline]

theorem classLine_infix :
    classLine request.language request.className <:+:
      ((entryPointItem request.language).file request toolchain).content := by
  obtain ⟨front, first, second, later, outline, ends, begins⟩ :=
    exists_outline_class request.language
  calc
    classLine request.language request.className
    _ = classStart request.language ++
          Chunk.textOf (contextOf request toolchain) "class_name".toList ++
            classEnd request.language := by
        unfold classLine
        rw [(prints_contextOf request toolchain).className]
    _ <:+: _ := infix_fill_slot _ ends begins front later
    _ = _ := by
        rw [content_entryPoint, outline]

end

/-- The names of the entry point tell the language and the main class. -/
theorem entryPointNames_injective
    {first second : Request}
    (firstNamed : first.Named)
    (secondNamed : second.Named)
    (same : entryPointNames first = entryPointNames second) :
    first.language = second.language ∧ first.mainClass = second.mainClass := by
  have folders :
      sourceFolder first.language = sourceFolder second.language ∧
        first.packageSegments ++ [first.className ++ '.' :: first.language.extension] =
          second.packageSegments ++ [second.className ++ '.' :: second.language.extension] := by
    rw [entryPointNames, entryPointNames, List.append_assoc, List.append_assoc] at same
    exact List.append_inj same rfl
  have language : first.language = second.language := by
    have different : sourceFolder .java ≠ sourceFolder .kotlin := by
      decide
    cases isFirst : first.language with
    | java =>
        cases isSecond : second.language with
        | java => rfl
        | kotlin =>
            rw [isFirst, isSecond] at folders
            exact (different folders.1).elim
    | kotlin =>
        cases isSecond : second.language with
        | java =>
            rw [isFirst, isSecond] at folders
            exact (different folders.1.symm).elim
        | kotlin => rfl
  obtain ⟨package, fileName⟩ := List.append_inj' folders.2 rfl
  rw [language] at fileName
  have className : first.className = second.className :=
    List.append_cancel_right (List.singleton_inj.mp fileName)
  refine ⟨language, ?_⟩
  rw [← firstNamed.mainClass_eq, ← secondNamed.mainClass_eq, firstNamed.package,
    secondNamed.package, package, className]

/-- The names of the entry point are told by the language and the main class. -/
theorem entryPointNames_congr
    {first second : Request}
    (language : first.language = second.language)
    (mainClass : first.mainClass = second.mainClass) :
    entryPointNames first = entryPointNames second := by
  simp only [entryPointNames, Request.packageSegments, Request.className, language, mainClass]

/-- An entry point of given segments: where it stands and what it declares. -/
structure IsPlaced
    (language : Language)
    (package : List Text)
    (className : Text)
    (entry : File) :
    Prop where
  path :
    entry.path =
      ⟨.relative,
        sourceFolder language ++ package ++ [className ++ '.' :: language.extension]⟩
  package : packageLine language package <+: entry.content
  declares : classLine language className <:+: entry.content

/-- The last file of a project is its entry point. -/
theorem getLast?_of_render
    {request : Request}
    {toolchain : Toolchain}
    {files : List File}
    (rendered : render request.brief toolchain.settings = .ok files) :
    files.getLast? = some ((entryPointItem request.language).file request toolchain) := by
  rw [render_eq] at rendered
  cases rendered
  rw [filesOf_eq_append, List.getLast?_concat]

/-- The entry point of a request that passed the checks is placed by its main class. -/
theorem isPlaced_entryPoint
    {request : Request}
    (named : request.Named)
    (toolchain : Toolchain) :
    IsPlaced request.language request.packageSegments request.className
      ((entryPointItem request.language).file request toolchain) where
  path := by
    rw [File.path, names_entryPoint request toolchain named]
    rfl
  package := packageLine_prefix request toolchain
  declares := classLine_infix request toolchain

/--
The main class of an accepted request is a package of some segments and a class name.
The last rendered file stands in the folders of these segments under the name of the
class, begins with the declaration of that package and declares that class. Two accepted
requests have the same entry point, as far as its path goes, exactly if they agree on
the language and the main class.
-/
theorem entryPoint_placed
    {fields : Request.Fields}
    {request : Request}
    (accepted : Request.ofFields fields = .ok request)
    (toolchain : Toolchain) :
    ∃ package className files entry,
      MainClass.segments request.mainClass = package ++ [className] ∧
        package ≠ [] ∧
          render request.brief toolchain.settings = .ok files ∧
            files.getLast? = some entry ∧
              IsPlaced request.language package className entry ∧
                request.package ++ '.' :: request.className = request.mainClass ∧
                  ∀ {otherFields : Request.Fields} {other : Request},
                    Request.ofFields otherFields = .ok other →
                    ∀ {otherToolchain : Toolchain} {otherFiles : List File} {otherEntry : File},
                      render other.brief otherToolchain.settings = .ok otherFiles →
                      otherFiles.getLast? = some otherEntry →
                      (otherEntry.path = entry.path ↔
                        other.language = request.language ∧
                          other.mainClass = request.mainClass) := by
  have named := Request.named_of_ofFields accepted
  have rendered := render_eq request toolchain
  have placed := isPlaced_entryPoint named toolchain
  refine
    ⟨_, _, _, _, request.segments_eq, named.packageSome, rendered,
      getLast?_of_render rendered, placed, named.mainClass_eq, ?_⟩
  intro otherFields other otherAccepted otherToolchain otherFiles otherEntry otherRendered isLast
  have otherNamed := Request.named_of_ofFields otherAccepted
  have otherPlaced := isPlaced_entryPoint otherNamed otherToolchain
  rw [getLast?_of_render otherRendered, Option.some_inj] at isLast
  rw [← isLast, placed.path, otherPlaced.path]
  constructor
  · intro same
    exact entryPointNames_injective otherNamed named (congrArg Path.parts same)
  · rintro ⟨language, mainClass⟩
    exact congrArg (Path.mk .relative) (entryPointNames_congr language mainClass)

/-- Line feeds in the main class stay in the segments that place the entry point. -/
theorem entryPoint_placed_line_feeds :
    Request.ofFields brokenFields = .ok brokenRequest ∧
      Request.ofFields quotedFields = .ok quotedRequest ∧
        ∃ files entry otherFiles otherEntry,
          render brokenRequest.brief Toolchain.default.settings = .ok files ∧
            files.getLast? = some entry ∧
              IsPlaced .kotlin ["com\n".toList, "$\n".toList] "Mod\n".toList entry ∧
                render quotedRequest.brief Toolchain.default.settings = .ok otherFiles ∧
                  otherFiles.getLast? = some otherEntry ∧ otherEntry.path ≠ entry.path := by
  have accepted : Request.ofFields brokenFields = .ok brokenRequest := rfl
  have otherAccepted : Request.ofFields quotedFields = .ok quotedRequest := rfl
  have otherRendered := render_eq quotedRequest Toolchain.default
  have otherLast := getLast?_of_render otherRendered
  have expected :
      MainClass.segments brokenRequest.mainClass =
        ["com\n".toList, "$\n".toList] ++ ["Mod\n".toList] := by
    decide
  have different : quotedRequest.mainClass ≠ brokenRequest.mainClass := by
    decide
  obtain ⟨package, className, files, entry, segments, _, rendered, isLast, placed, _, samePath⟩ :=
    entryPoint_placed accepted Toolchain.default
  obtain ⟨rfl, name⟩ := List.append_inj' (segments.symm.trans expected) rfl
  obtain rfl := List.singleton_inj.mp name
  refine
    ⟨accepted, otherAccepted, files, entry, _, _, rendered, isLast, placed, otherRendered,
      otherLast, ?_⟩
  intro same
  exact different ((samePath otherAccepted otherRendered otherLast).mp same).2

end ModSkeleton.Project
