import Mathlib.Data.List.Infix
import ModSkeleton.Proofs.Project.Resources
import ModSkeleton.Proofs.Project.Variants

namespace ModSkeleton.Project

open Template

/-!
# Properties of a project

The build script of a project reads properties that another file defines, line by line,
with values that are printed as they are. What a value holds makes no difference to how
the file is read as long as it is one line: its line begins with the key and an equals
sign, and everything behind the first equals sign is the value. So the file defines every
property that the script reads, once and with the value that was printed.
-/

/-- Whether a line is a comment. -/
def isComment
    (line : Text) :
    Bool :=
  line.head?.any fun c => c = '#' || c = '!'

/--
The property that a line defines: none if the line is empty or a comment, and else the key
before the first equals sign with the value behind it.
-/
def property?
    (line : Text) :
    Option (Text × Text) :=
  if line = [] ∨ isComment line = true then none
  else some (line.takeWhile (· != '='), (line.dropWhile (· != '=')).drop 1)

/-- The properties that the lines of a file define. -/
def readProperties
    (content : Text) :
    List (Text × Text) :=
  (Text.splitOn '\n' content).filterMap property?

theorem property?_of_equals
    {key : Text}
    (free : '=' ∉ key)
    (value : Text)
    (notComment : isComment (key ++ '=' :: value) = false) :
    property? (key ++ '=' :: value) = some (key, value) := by
  have allKept : ∀ c ∈ key, (c != '=') = true := by
    intro c member
    have different : c ≠ '=' := by
      rintro rfl
      exact free member
    simpa using different
  unfold property?
  rw [if_neg (by simp [notComment]), List.takeWhile_append_of_pos allKept,
    List.dropWhile_append_of_pos allKept]
  simp

/--
Once a line has an equals sign, or is a comment, what is printed behind it goes to the
value, whatever it is.
-/
theorem property?_append
    {line : Text}
    (settled : isComment line = true ∨ '=' ∈ line)
    (more : Text) :
    property? (line ++ more) =
      (property? line).map fun pair => (pair.1, pair.2 ++ more) := by
  -- A settled line is not empty, and its first character tells comments apart.
  have sameKind : isComment (line ++ more) = isComment line := by
    cases line with
    | nil => rcases settled with comment | equals <;> contradiction
    | cons c rest => rfl
  by_cases comment : isComment line = true
  · have none : property? line = none := if_pos (.inr comment)
    have stillNone : property? (line ++ more) = .none := if_pos (.inr (sameKind.trans comment))
    rw [none, stillNone]
    rfl
  · have notComment : isComment line = false := Bool.eq_false_iff.mpr comment
    obtain ⟨key, value, rfl, free⟩ :=
      List.eq_append_cons_of_mem (settled.resolve_left comment)
    rw [property?_of_equals free value notComment]
    rw [List.append_assoc, List.cons_append] at sameKind ⊢
    rw [property?_of_equals free (value ++ more) (sameKind.trans notComment)]
    rfl

theorem readProperties_ofLines
    {lines : List Text}
    (free : ∀ line ∈ lines, '\n' ∉ line) :
    readProperties (Text.ofLines lines) = lines.filterMap property? := by
  rw [readProperties, Text.splitOn_ofLines free, List.filterMap_append]
  exact List.append_nil _

/-! ## Lines with slots -/

/-- Whether what stands in front of the slots of a line settles which property it defines. -/
def isSettled : List Chunk → Bool
  | [] => true
  | .text content :: _ => isComment content || content.contains '='
  | _ => false

/-- The property that a line defines, with an outline as its value. -/
def propertyOutline? : List Chunk → Option (Text × List Chunk)
  | .text content :: later =>
      (property? content).map fun pair => (pair.1, Chunk.pushText pair.2 later)
  | _ => none

/-- A property with the slots of its value filled. -/
def fillProperty
    (context : Context)
    (outline : Text × List Chunk) :
    Text × Text :=
  (outline.1, outline.2.flatMap (Chunk.fill context))

/-- Reading a settled line that was filled fills the property that it defines. -/
theorem property?_fill
    {outline : List Chunk}
    (settled : isSettled outline = true)
    (context : Context) :
    property? (outline.flatMap (Chunk.fill context)) =
      (propertyOutline? outline).map (fillProperty context) := by
  unfold isSettled at settled
  split at settled
  case h_1 => rfl
  case h_2 content later =>
    rw [Bool.or_eq_true, List.contains_iff_mem] at settled
    rw [List.flatMap_cons, Chunk.fill, property?_append settled, propertyOutline?,
      Option.map_map]
    congr 1
    funext pair
    simp only [Function.comp_apply, fillProperty, Chunk.flatMap_fill_pushText]
  case h_3 => cases settled

/-- Whether a chunk stays on its line when given names have one line each. -/
def staysOnLine
    (words : List Text) :
    Chunk → Bool
  | .text content => !content.contains '\n'
  | .slot word => words.contains word
  | .filtered _ _ _ => false

theorem newline_not_mem_fill
    {context : Context}
    {words : List Text}
    (oneLine : ∀ word ∈ words, '\n' ∉ Chunk.textOf context word)
    {chunk : Chunk}
    (stays : staysOnLine words chunk = true) :
    '\n' ∉ chunk.fill context := by
  cases chunk with
  | text content => simpa [staysOnLine, Chunk.fill] using stays
  | slot word => exact oneLine word (List.contains_iff_mem.mp stays)
  | filtered filter word suffix => cases stays

/-- Reading lines that were filled fills the properties that they define. -/
theorem readProperties_fill
    {outlines : List (List Chunk)}
    (settled : ∀ outline ∈ outlines, isSettled outline = true)
    {context : Context}
    {words : List Text}
    (oneLine : ∀ word ∈ words, '\n' ∉ Chunk.textOf context word)
    (stay : ∀ outline ∈ outlines, outline.all (staysOnLine words) = true) :
    readProperties (Text.ofLines (outlines.map (·.flatMap (Chunk.fill context)))) =
      (outlines.filterMap propertyOutline?).map (fillProperty context) := by
  have free :
      ∀ line ∈ outlines.map (·.flatMap (Chunk.fill context)), '\n' ∉ line := by
    intro line member inside
    obtain ⟨outline, isOutline, rfl⟩ := List.mem_map.mp member
    obtain ⟨chunk, isChunk, inChunk⟩ := List.mem_flatMap.mp inside
    have stays := List.all_eq_true.mp (stay outline isOutline) chunk isChunk
    exact newline_not_mem_fill oneLine stays inChunk
  rw [readProperties_ofLines free, List.filterMap_map, List.map_filterMap]
  apply List.filterMap_congr
  intro outline member
  exact property?_fill (settled outline member) context

/-! ## The properties of a project -/

/-- The properties that Gradle itself reads. -/
def gradleFlags : List (Text × Text) :=
  [("org.gradle.jvmargs".toList, "-Xmx1G".toList),
   ("org.gradle.parallel".toList, "true".toList)]

/-- The properties of a project: the adapter for Kotlin only if it is written in Kotlin. -/
def projectProperties
    (request : Request)
    (toolchain : Toolchain) :
    List (Text × Text) :=
  [("minecraft_version".toList, toolchain.minecraftVersion),
   ("yarn_mappings".toList, toolchain.yarnMappings),
   ("loader_version".toList, toolchain.loaderVersion),
   ("mod_version".toList, toolchain.modVersion),
   ("maven_group".toList, request.mavenGroup),
   ("archives_base_name".toList, request.archivesBaseName),
   ("fabric_version".toList, toolchain.fabricVersion)] ++
  (match request.language with
   | .java => []
   | .kotlin => [("fabric_kotlin_version".toList, toolchain.kotlin.fabricKotlin)])

/-- The keys of these properties in a language. -/
def projectKeys
    (language : Language) :
    List Text :=
  ["minecraft_version".toList, "yarn_mappings".toList, "loader_version".toList,
   "mod_version".toList, "maven_group".toList, "archives_base_name".toList,
   "fabric_version".toList] ++
  (match language with
   | .java => []
   | .kotlin => ["fabric_kotlin_version".toList])

/-- The outlines of the lines that define properties. -/
def propertyLines
    (language : Language) :
    List (List Chunk) :=
  ((guardedLines buildProperties).shown (language == .kotlin)).map fun line =>
    Chunk.merge (outlineOf .java line)

/--
All lines are settled and short. Apart from two that are fixed, each property has a slot
as its value, which is called as the property is.
-/
theorem propertyLines_cases
    (language : Language) :
    (∀ outline ∈ propertyLines language, isSettled outline = true) ∧
      (∀ outline ∈ propertyLines language,
        outline.all (staysOnLine (projectKeys language)) = true) ∧
        (propertyLines language).filterMap propertyOutline? =
          (gradleFlags.map fun pair => (pair.1, [.text pair.2])) ++
            (projectKeys language).map fun key => (key, [.slot key]) := by
  unfold propertyLines buildProperties
  rw [Spelled.map_toList (by repeat' constructor)]
  cases language <;> decide +kernel

section

variable
    (request : Request)
    (toolchain : Toolchain)

/-- The properties are those of the slots that are called as they are. -/
theorem projectProperties_eq_map :
    projectProperties request toolchain =
      (projectKeys request.language).map fun key =>
        (key, Chunk.textOf (contextOf (inLanguage request .java) toolchain) key) := by
  unfold projectProperties projectKeys
  cases request.language <;> rfl

theorem map_fst_projectProperties :
    (projectProperties request toolchain).map Prod.fst = projectKeys request.language := by
  rw [projectProperties_eq_map, List.map_map]
  exact List.map_id _

theorem nodup_keys :
    ((gradleFlags ++ projectProperties request toolchain).map Prod.fst).Nodup := by
  rw [List.map_append, map_fst_projectProperties]
  cases request.language <;> decide

/-- The file with the properties is filled line by line. -/
theorem filled_buildProperties :
    filled request toolchain buildProperties =
      Text.ofLines
        ((propertyLines request.language).map
          (·.flatMap (Chunk.fill (contextOf (inLanguage request .java) toolchain)))) := by
  have guarded : isGuarded buildProperties = true := isGuarded_sources _ (by simp)
  -- Merging the outline of a line drops the empty texts around its slot.
  have byLine :
      (propertyLines request.language).map
          (·.flatMap (Chunk.fill (contextOf (inLanguage request .java) toolchain))) =
        ((guardedLines buildProperties).shown (request.language == .kotlin)).map
          (filledLine request toolchain) := by
    rw [propertyLines, List.map_map]
    apply List.map_congr_left
    intro line _
    exact Chunk.flatMap_fill_merge _ _
  have ownLanguage : inLanguage request request.language = request := rfl
  have byBlock := filled_of_isGuarded request toolchain guarded request.language
  rw [ownLanguage] at byBlock
  rw [byBlock, byLine, ofLines_shown]

variable
    {request : Request}
    {toolchain : Toolchain}

/-- Properties of one line each are read back as they were printed. -/
theorem readProperties_filled
    (oneLine : ∀ pair ∈ projectProperties request toolchain, '\n' ∉ pair.2) :
    readProperties (filled request toolchain buildProperties) =
      gradleFlags ++ projectProperties request toolchain := by
  obtain ⟨settled, stay, defined⟩ := propertyLines_cases request.language
  have wordsOneLine :
      ∀ word ∈ projectKeys request.language,
        '\n' ∉ Chunk.textOf (contextOf (inLanguage request .java) toolchain) word := by
    intro word member
    refine oneLine (word, _) ?_
    rw [projectProperties_eq_map]
    exact List.mem_map_of_mem member
  rw [filled_buildProperties, readProperties_fill settled wordsOneLine stay, defined,
    projectProperties_eq_map, List.map_append, List.map_map, List.map_map]
  refine congrArg (gradleFlags ++ ·) (List.map_congr_left ?_)
  intro key _
  simp [fillProperty, Chunk.fill]

end

/-! ## Values of one line -/

/-- The texts of a toolchain. -/
def toolchainTexts
    (toolchain : Toolchain) :
    List Text :=
  [toolchain.minecraftVersion, toolchain.yarnMappings, toolchain.loaderVersion,
   toolchain.fabricVersion, toolchain.loomVersion, toolchain.modVersion,
   toolchain.kotlin.kotlin, toolchain.kotlin.fabricKotlin]

/-- The Maven group is a part of the main class. -/
theorem mavenGroup_subset
    (request : Request) :
    request.mavenGroup ⊆ request.mainClass := by
  have packageInside : request.package ⊆ request.mainClass :=
    Text.beforeLast_subset '.' request.mainClass
  simp only [Request.mavenGroup, MainClass.mavenGroup]
  split
  · exact packageInside
  · exact List.Subset.trans (Text.beforeLast_subset '.' _) packageInside

/-- The base name of the archive is a part of the main class, or the mod id. -/
theorem archivesBaseName_cases
    (request : Request) :
    request.archivesBaseName ⊆ request.mainClass ∨
      request.archivesBaseName = request.modId := by
  unfold Request.archivesBaseName MainClass.archivesBaseName MainClass.lastPackageSegment?
  split
  · exact .inr rfl
  · refine .inl (List.Subset.trans (Text.afterLast_subset '.' _) ?_)
    exact Text.beforeLast_subset '.' request.mainClass

/-- If what a project is made from has no line ends, its properties have one line each. -/
theorem newline_not_mem_projectProperties
    {request : Request}
    (modId : '\n' ∉ request.modId)
    (mainClass : '\n' ∉ request.mainClass)
    {toolchain : Toolchain}
    (texts : ∀ text ∈ toolchainTexts toolchain, '\n' ∉ text) :
    ∀ pair ∈ projectProperties request toolchain, '\n' ∉ pair.2 := by
  have group : '\n' ∉ request.mavenGroup :=
    fun member => mainClass (mavenGroup_subset request member)
  have baseName : '\n' ∉ request.archivesBaseName := by
    rcases archivesBaseName_cases request with inside | same
    · exact fun member => mainClass (inside member)
    · rw [same]
      exact modId
  simp only [toolchainTexts, List.forall_mem_cons, List.not_mem_nil, IsEmpty.forall_iff,
    implies_true, and_true] at texts
  obtain ⟨minecraft, yarn, loader, fabric, _, version, _, adapter⟩ := texts
  intro pair member
  rcases List.mem_append.mp member with common | ofKotlin
  · simp only [List.mem_cons, List.not_mem_nil, or_false] at common
    rcases common with rfl | rfl | rfl | rfl | rfl | rfl | rfl <;> assumption
  · split at ofKotlin
    · cases ofKotlin
    · obtain rfl := List.mem_singleton.mp ofKotlin
      exact adapter

/-! ## What the build script reads -/

/-- The characters that names in scripts are made of. -/
def isNameChar
    (c : Char) :
    Bool :=
  c.isAlphanum || c = '_'

/-- A whole name stands right behind a marker somewhere in a text. -/
def NamedBehind
    (marker text name : Text) :
    Prop :=
  ∃ before after,
    text = before ++ marker ++ name ++ after ∧
      (∀ c ∈ name, isNameChar c = true) ∧ ∀ c ∈ after.head?, isNameChar c = false

/-- The names right behind a marker, found by trying all places of a text. -/
def namesBehind
    (marker text : Text) :
    List Text :=
  text.tails.filterMap fun rest =>
    if marker <+: rest then some ((rest.drop marker.length).takeWhile isNameChar) else none

theorem mem_namesBehind_iff
    {marker text name : Text} :
    name ∈ namesBehind marker text ↔ NamedBehind marker text name := by
  unfold namesBehind
  rw [List.mem_filterMap]
  constructor
  · rintro ⟨rest, isTail, found⟩
    obtain ⟨before, rfl⟩ := (List.mem_tails _ _).mp isTail
    split at found
    case isTrue starts =>
      obtain ⟨behind, rfl⟩ := starts
      rw [List.drop_left] at found
      cases found
      refine ⟨before, behind.dropWhile isNameChar, ?_, ?_, ?_⟩
      · simp [List.takeWhile_append_dropWhile]
      · intro c member
        exact List.all_eq_true.mp List.all_takeWhile c member
      · intro c isHead
        have stopped := List.head?_dropWhile_not isNameChar behind
        rw [Option.mem_def.mp isHead] at stopped
        exact stopped
    case isFalse => cases found
  · rintro ⟨before, after, rfl, named, ends⟩
    refine ⟨marker ++ (name ++ after), (List.mem_tails _ _).mpr ⟨before, by simp⟩, ?_⟩
    -- The name is taken whole, since what follows it does not go on with a name.
    have stops : after.takeWhile isNameChar = [] := by
      cases after with
      | nil => rfl
      | cons c later => simp [ends c rfl]
    rw [if_pos (List.prefix_append _ _), List.drop_left, List.takeWhile_append_of_pos named,
      stops, List.append_nil]

/-- What stands in front of the name of a property that a script reads. -/
def propertyMarker : Text :=
  "project.".toList

/-- The fixed text of an outline reads a property of the project. -/
def ReadsProperty
    (outline : List Chunk)
    (key : Text) :
    Prop :=
  ∃ content, .text content ∈ Chunk.merge outline ∧ NamedBehind propertyMarker content key

/-- The properties that the fixed text of an outline reads. -/
def keysRead
    (outline : List Chunk) :
    List Text :=
  (Chunk.merge outline).flatMap fun chunk =>
    match chunk with
    | .text content => namesBehind propertyMarker content
    | _ => []

theorem mem_keysRead_iff
    {outline : List Chunk}
    {key : Text} :
    key ∈ keysRead outline ↔ ReadsProperty outline key := by
  unfold keysRead
  rw [List.mem_flatMap]
  constructor
  · rintro ⟨chunk, member, isRead⟩
    cases chunk with
    | text content => exact ⟨content, member, mem_namesBehind_iff.mp isRead⟩
    | slot word => cases isRead
    | filtered filter word suffix => cases isRead
  · rintro ⟨content, member, isRead⟩
    exact ⟨.text content, member, mem_namesBehind_iff.mpr isRead⟩

/-- What every project of Gradle has on its own, without a file that defines it. -/
def ownMembers : List Text :=
  ["version".toList, "base".toList]

/-- Apart from what a project has on its own, the script reads just the defined properties. -/
theorem readsProperty_buildScript_iff
    (language : Language)
    (key : Text) :
    ReadsProperty (outlineOf language buildScript) key ↔
      key ∈ ownMembers ∨ key ∈ projectKeys language := by
  have sameKeys :
      keysRead (outlineOf language buildScript) ⊆ ownMembers ++ projectKeys language ∧
        ownMembers ++ projectKeys language ⊆ keysRead (outlineOf language buildScript) := by
    rw [outlineOf_of_hasOutlines hasOutlines_buildScript]
    unfold buildScriptOutline ownMembers projectKeys
    repeat rw [String.toList_ofList]
    cases language <;> decide +kernel
  rw [← mem_keysRead_iff, ← List.mem_append]
  exact ⟨fun isRead => sameKeys.1 isRead, fun isKey => sameKeys.2 isKey⟩

/--
The build script and the properties of an accepted request agree, if neither the request
nor the toolchain brings a line end into them. Reading the properties line by line gives
every key once: those of Gradle, and those of the project with the values of the request
and of the toolchain. The fixed text of the build script reads these properties, all of
them, and nothing else that a project does not have on its own.
-/
theorem rendered_properties_agree
    {fields : Request.Fields}
    {request : Request}
    (accepted : Request.ofFields fields = .ok request)
    (modId : '\n' ∉ request.modId)
    (mainClass : '\n' ∉ request.mainClass)
    {toolchain : Toolchain}
    (texts : ∀ text ∈ toolchainTexts toolchain, '\n' ∉ text) :
    ∃ files properties,
      render request.brief toolchain.settings = .ok files ∧
        contentAt? files ["build.gradle".toList] =
          some
            ((outlineOf request.language buildScript).flatMap
              (Chunk.fill (contextOf request toolchain))) ∧
        contentAt? files ["gradle.properties".toList] = some properties ∧
        readProperties properties = gradleFlags ++ projectProperties request toolchain ∧
        ((readProperties properties).map Prod.fst).Nodup ∧
        (∀ key,
          ReadsProperty (outlineOf request.language buildScript) key ↔
            key ∈ ownMembers ∨ key ∈ (projectProperties request toolchain).map Prod.fst) ∧
        ∀ pair ∈ projectProperties request toolchain,
          (readProperties properties).lookup pair.1 = some pair.2 := by
  have named := Request.named_of_ofFields accepted
  have oneLine := newline_not_mem_projectProperties modId mainClass texts
  have inFile :
      contentAt? (filesOf request toolchain) ["gradle.properties".toList] =
        some (filled request toolchain buildProperties) :=
    contentAt?_fixedFiles named toolchain (["gradle.properties".toList], buildProperties)
      (List.mem_of_getElem? (rfl : fixedFiles[2]? = _))
  have distinct := nodup_keys request toolchain
  have read := readProperties_filled oneLine
  refine
    ⟨_, _, render_eq request toolchain, contentAt?_buildScript named toolchain, inFile, read,
      ?_, ?_, ?_⟩
  · rw [read]
    exact distinct
  · intro key
    rw [map_fst_projectProperties]
    exact readsProperty_buildScript_iff request.language key
  · intro pair member
    rw [read]
    exact lookup_of_nodup distinct (List.mem_append_right gradleFlags member)

/-- A toolchain whose versions look like comments, other properties and directives. -/
def commentToolchain : Toolchain :=
  { Toolchain.default with
    yarnMappings := "mod_version=2 \x7b\x7b mod_id \x7d\x7d".toList
    loaderVersion := []
    modVersion := "# 1.0=!".toList }

/-- Such versions are read back as they are. -/
theorem rendered_properties_agree_comments :
    Request.ofFields quotedFields = .ok quotedRequest ∧
      ∃ files properties,
        render quotedRequest.brief commentToolchain.settings = .ok files ∧
          contentAt? files ["gradle.properties".toList] = some properties ∧
          ((readProperties properties).map Prod.fst).Nodup ∧
          (readProperties properties).lookup "mod_version".toList =
            some "# 1.0=!".toList ∧
          (readProperties properties).lookup "yarn_mappings".toList =
            some "mod_version=2 \x7b\x7b mod_id \x7d\x7d".toList ∧
          (readProperties properties).lookup "fabric_kotlin_version".toList =
            some Toolchain.default.kotlin.fabricKotlin := by
  have accepted : Request.ofFields quotedFields = .ok quotedRequest := rfl
  obtain ⟨files, properties, rendered, _, inFile, _, distinct, _, values⟩ :=
    rendered_properties_agree accepted (by decide) (by decide)
      (by decide : ∀ text ∈ toolchainTexts commentToolchain, '\n' ∉ text)
  refine ⟨accepted, files, properties, rendered, inFile, distinct, ?_, ?_, ?_⟩
  · exact values ("mod_version".toList, _) (List.mem_of_getElem? (i := 3) rfl)
  · exact values ("yarn_mappings".toList, _) (List.mem_of_getElem? (i := 1) rfl)
  · exact values ("fabric_kotlin_version".toList, _) (List.mem_of_getElem? (i := 7) rfl)

end ModSkeleton.Project
