import ModSkeleton.Proofs.Text.Splitting
import ModSkeleton.Request.Resolve

namespace ModSkeleton

/-!
# Names in accepted requests

The mod id and the segments of the main class of an accepted request are words:
texts that are not empty and have neither a slash nor a dot nor a NUL in them. So
they can stand in a path as they are, and the package path has one component for
every segment of the package. A request is accepted through `Request.ofFields`.
-/

/-- A text that can stand in a path as a component of its own, and in a dotted name. -/
structure Text.IsWord
    (text : Text) :
    Prop where
  notEmpty : text ≠ []
  noSlash : '/' ∉ text
  noDot : '.' ∉ text
  noNull : '\x00' ∉ text

theorem Text.mem_dropFinalNewline
    {text : Text}
    {c : Char}
    (member : c ∈ text)
    (notNewline : c ≠ '\n') :
    c ∈ Text.dropFinalNewline text := by
  unfold Text.dropFinalNewline
  split
  case isTrue endsInNewline =>
    obtain ⟨front, rfl⟩ := List.getLast?_eq_some_iff.mp endsInNewline
    rw [List.dropLast_concat]
    rcases List.mem_append.mp member with inFront | isLast
    · exact inFront
    · exact (notNewline (List.mem_singleton.mp isLast)).elim
  case isFalse => exact member

/-- A text is a word when what stands before a final line feed has word characters only. -/
theorem Text.IsWord.of_dropFinalNewline
    {text : Text}
    {allowed : Char → Bool}
    (some : Text.dropFinalNewline text ≠ [])
    (all : ∀ c ∈ Text.dropFinalNewline text, allowed c = true)
    (excludes : allowed '/' = false ∧ allowed '.' = false ∧ allowed '\x00' = false) :
    Text.IsWord text := by
  have absent : ∀ c, c ≠ '\n' → allowed c = false → c ∉ text := by
    intro c notNewline refused member
    have accepted := all c (Text.mem_dropFinalNewline member notNewline)
    rw [refused] at accepted
    cases accepted
  obtain ⟨slash, dot, null⟩ := excludes
  refine
    { notEmpty := ?_
      noSlash := absent '/' (by decide) slash
      noDot := absent '.' (by decide) dot
      noNull := absent '\x00' (by decide) null }
  rintro rfl
  exact some rfl

theorem ModId.isWord_of_accepts
    {modId : Text}
    (accepted : ModId.accepts modId = true) :
    Text.IsWord modId := by
  unfold ModId.accepts at accepted
  cases shape : Text.dropFinalNewline modId with
  | nil =>
      rw [shape] at accepted
      cases accepted
  | cons first following =>
      rw [shape] at accepted
      simp only [ModId.hasShape, Bool.and_eq_true, List.all_eq_true] at accepted
      obtain ⟨⟨⟨firstLower, followingAll⟩, _⟩, _⟩ := accepted
      refine Text.IsWord.of_dropFinalNewline (by simp [shape]) ?_
        (by decide : ModId.isFollowing '/' = false ∧ _ ∧ _)
      intro c member
      rw [shape] at member
      rcases List.mem_cons.mp member with isFirst | inFollowing
      · simp [isFirst, ModId.isFollowing, firstLower]
      · exact followingAll c inFollowing

/-- Before a final line feed, an identifier has at least one character, and parts only. -/
theorem MainClass.isIdentifierPart_of_isIdentifier
    {segment : Text}
    (accepted : MainClass.isIdentifier segment = true) :
    Text.dropFinalNewline segment ≠ [] ∧
      ∀ c ∈ Text.dropFinalNewline segment, MainClass.isIdentifierPart c = true := by
  unfold MainClass.isIdentifier at accepted
  cases shape : Text.dropFinalNewline segment with
  | nil =>
      rw [shape] at accepted
      cases accepted
  | cons first following =>
      rw [shape] at accepted
      simp only [MainClass.hasIdentifierShape, Bool.and_eq_true, List.all_eq_true] at accepted
      obtain ⟨firstStarts, followingAll⟩ := accepted
      refine ⟨List.cons_ne_nil _ _, ?_⟩
      intro c member
      rcases List.mem_cons.mp member with isFirst | inFollowing
      · simp [isFirst, MainClass.isIdentifierPart, firstStarts]
      · exact followingAll c inFollowing

theorem MainClass.isWord_of_isIdentifier
    {segment : Text}
    (accepted : MainClass.isIdentifier segment = true) :
    Text.IsWord segment := by
  obtain ⟨some, parts⟩ := MainClass.isIdentifierPart_of_isIdentifier accepted
  exact Text.IsWord.of_dropFinalNewline some parts (by decide)

/-- A main class without fault has at least two segments, and all of them are identifiers. -/
theorem MainClass.isIdentifier_of_fault?
    {mainClass : Text}
    (faultless : MainClass.fault? mainClass = none) :
    2 ≤ (MainClass.segments mainClass).length ∧
      ∀ segment ∈ MainClass.segments mainClass, MainClass.isIdentifier segment = true := by
  unfold MainClass.fault? at faultless
  by_cases short : (MainClass.segments mainClass).length < 2
  · simp [short] at faultless
  · simp only [short, if_false, List.findSome?_eq_none_iff] at faultless
    refine ⟨Nat.le_of_not_lt short, ?_⟩
    intro segment member
    have none := faultless segment member
    unfold MainClass.segmentFault? at none
    split at none
    case isTrue => cases none
    case isFalse accepted => simpa using accepted

/-- A main class without fault has at least two segments, and all of them are words. -/
theorem MainClass.segments_of_fault?
    {mainClass : Text}
    (faultless : MainClass.fault? mainClass = none) :
    2 ≤ (MainClass.segments mainClass).length ∧
      ∀ segment ∈ MainClass.segments mainClass, Text.IsWord segment := by
  obtain ⟨atLeastTwo, identifiers⟩ := MainClass.isIdentifier_of_fault? faultless
  exact
    ⟨atLeastTwo, fun segment member =>
      MainClass.isWord_of_isIdentifier (identifiers segment member)⟩

/-- A main class without fault has parts of identifiers, dots and line feeds only. -/
theorem MainClass.isIdentifierPart_of_mem
    {mainClass : Text}
    (faultless : MainClass.fault? mainClass = none)
    {c : Char}
    (member : c ∈ mainClass)
    (notDot : c ≠ '.')
    (notNewline : c ≠ '\n') :
    MainClass.isIdentifierPart c = true := by
  have joined : Text.joinWith ['.'] (MainClass.segments mainClass) = mainClass :=
    Text.joinWith_splitOn '.' mainClass
  rw [← joined, Text.mem_joinWith_iff (by simpa using notDot)] at member
  obtain ⟨segment, isSegment, inSegment⟩ := member
  have identifier := (MainClass.isIdentifier_of_fault? faultless).2 segment isSegment
  exact
    (MainClass.isIdentifierPart_of_isIdentifier identifier).2 c
      (Text.mem_dropFinalNewline inSegment notNewline)

/-- No other character is in a main class without fault. -/
theorem MainClass.not_mem_of_fault?
    {mainClass : Text}
    (faultless : MainClass.fault? mainClass = none)
    {c : Char}
    (notDot : c ≠ '.')
    (notNewline : c ≠ '\n')
    (notPart : MainClass.isIdentifierPart c = false) :
    c ∉ mainClass := by
  intro member
  rw [MainClass.isIdentifierPart_of_mem faultless member notDot notNewline] at notPart
  cases notPart

/-- A field that has to be given and passes its check was given. -/
theorem Issue.given_of_checkRequired
    {α : Type}
    {check : Json.Value → Except Issue α}
    {given? : Option Json.Value}
    {value : α}
    (checked : Issue.checkRequired check given? = .ok value) :
    ∃ given, check given = .ok value := by
  cases given? with
  | none => cases checked
  | some given => exact ⟨given, checked⟩

/-- A field that may be left out and passes its check has the default or was given. -/
theorem Issue.given_of_checkOr
    {α : Type}
    {default : α}
    {check : Json.Value → Except Issue α}
    {given? : Option Json.Value}
    {value : α}
    (checked : Issue.checkOr default check given? = .ok value) :
    value = default ∨ ∃ given, check given = .ok value := by
  cases given? with
  | none =>
      cases checked
      exact .inl rfl
  | some given => exact .inr ⟨given, checked⟩

namespace Request

/-- The segments of the package of a request. -/
def packageSegments
    (request : Request) :
    List Text :=
  (MainClass.segments request.mainClass).dropLast

/-- How the names in a request come from the segments of its main class. -/
structure Named
    (request : Request) :
    Prop where
  modId : Text.IsWord request.modId
  packageSome : request.packageSegments ≠ []
  packageWords : ∀ segment ∈ request.packageSegments, Text.IsWord segment
  className : Text.IsWord request.className
  package : request.package = Text.joinWith ['.'] request.packageSegments
  packagePath : request.packagePath = Text.joinWith ['/'] request.packageSegments

/-- The segments of the main class are those of the package and the class name. -/
theorem segments_eq
    (request : Request) :
    MainClass.segments request.mainClass = request.packageSegments ++ [request.className] :=
  Text.splitOn_eq_append_afterLast '.' request.mainClass

/-- The package is all segments but the last one. -/
theorem package_eq_joinWith
    (request : Request) :
    request.package = Text.joinWith ['.'] request.packageSegments :=
  Text.beforeLast_eq_joinWith '.' request.mainClass

/-- In a request that passed the checks, all names are words. -/
theorem Valid.named
    {request : Request}
    (valid : request.Valid) :
    request.Named := by
  obtain ⟨atLeastTwo, words⟩ := MainClass.segments_of_fault? valid.mainClass
  have packageSome : request.packageSegments ≠ [] := by
    intro none
    have length := congrArg List.length none
    simp only [packageSegments, List.length_dropLast, List.length_nil] at length
    omega
  have packageWords : ∀ segment ∈ request.packageSegments, Text.IsWord segment :=
    fun segment member => words segment (List.dropLast_subset _ member)
  refine
    { modId := ModId.isWord_of_accepts valid.modId
      packageSome
      packageWords
      className := words request.className ?_
      package := package_eq_joinWith request
      packagePath := ?_ }
  · rw [segments_eq]
    exact List.mem_append_right _ (List.mem_singleton_self _)
  · have unfolded : request.packagePath = Text.replaceChar '.' ['/'] request.package := rfl
    rw [unfolded, package_eq_joinWith]
    exact Text.replaceChar_joinWith _
      (fun segment member => (packageWords segment member).noDot)

/-- Names are those of the mod id and the main class, whatever else a request says. -/
theorem Named.of_same
    {first second : Request}
    (named : first.Named)
    (modId : second.modId = first.modId)
    (mainClass : second.mainClass = first.mainClass) :
    second.Named := by
  obtain ⟨_, secondId, _, _, secondClass⟩ := second
  cases modId
  cases mainClass
  exact
    ⟨named.modId, named.packageSome, named.packageWords, named.className, named.package,
      named.packagePath⟩

/-- The main class is the package, a dot and the class name. -/
theorem Named.mainClass_eq
    {request : Request}
    (named : request.Named) :
    request.package ++ '.' :: request.className = request.mainClass := by
  have joined : Text.joinWith ['.'] (MainClass.segments request.mainClass) = request.mainClass :=
    Text.joinWith_splitOn '.' request.mainClass
  rw [segments_eq, Text.joinWith_append _ named.packageSome (by simp), ← named.package] at joined
  rw [← joined]
  simp [Text.joinWith]

theorem accepts_of_checkModId
    {value : Json.Value}
    {modId : Text}
    (checked : checkModId value = .ok modId) :
    ModId.accepts modId = true := by
  unfold checkModId at checked
  split at checked
  case h_1 =>
    split at checked
    case isTrue accepted =>
      cases checked
      exact accepted
    case isFalse => cases checked
  case h_2 => cases checked

theorem ne_nil_of_checkNonempty
    {value : Json.Value}
    {text : Text}
    (checked : Issue.checkNonempty value = .ok text) :
    text ≠ [] := by
  unfold Issue.checkNonempty at checked
  split at checked
  case h_1 => cases checked
  case h_2 notEmpty =>
    rintro rfl
    exact notEmpty checked

theorem fault?_of_checkMainClass
    {value : Json.Value}
    {mainClass : Text}
    (checked : checkMainClass value = .ok mainClass) :
    MainClass.fault? mainClass = none := by
  unfold checkMainClass at checked
  split at checked
  case h_1 =>
    split at checked
    case h_1 faultless =>
      cases checked
      exact faultless
    case h_2 => cases checked
  case h_2 => cases checked

theorem parse_of_checkPath
    {value : Json.Value}
    {path : Path}
    (checked : checkPath value = .ok path) :
    ∃ text, path = Path.parse text := by
  unfold checkPath at checked
  split at checked
  case h_1 text =>
    cases checked
    exact ⟨text, rfl⟩
  case h_2 => cases checked

/-- Accepted values make a valid request with a path that was read from a text. -/
theorem valid_of_ofFields
    {fields : Fields}
    {request : Request}
    (accepted : ofFields fields = .ok request) :
    request.Valid ∧ ∃ text, request.targetPath = Path.parse text := by
  unfold ofFields at accepted
  simp only at accepted
  split at accepted
  case h_1 targetPath modId modName language mainClass path id name _ main =>
    cases accepted
    obtain ⟨_, pathChecked⟩ := Issue.given_of_checkRequired path
    obtain ⟨_, idChecked⟩ := Issue.given_of_checkRequired id
    obtain ⟨_, nameChecked⟩ := Issue.given_of_checkRequired name
    have faultless : MainClass.fault? mainClass = none := by
      rcases Issue.given_of_checkOr main with isDefault | ⟨_, mainChecked⟩
      · rw [isDefault]
        decide
      · exact fault?_of_checkMainClass mainChecked
    exact
      ⟨⟨accepts_of_checkModId idChecked, ne_nil_of_checkNonempty nameChecked, faultless⟩,
        parse_of_checkPath pathChecked⟩
  case h_2 => cases accepted

/-- The target path of an accepted request is the one that was given. -/
theorem targetPath_of_ofFields
    {fields : Fields}
    {text : Text}
    (given : fields.targetPath = some (.text text))
    {request : Request}
    (accepted : ofFields fields = .ok request) :
    request.targetPath = Path.parse text := by
  unfold ofFields at accepted
  rw [given] at accepted
  simp only [Issue.checkRequired, checkPath] at accepted
  split at accepted
  case h_1 path _ _ _ _ parsed _ _ _ _ =>
    cases accepted
    cases parsed
    rfl
  case h_2 => cases accepted

/-- Accepted values make a request in which all names are words. -/
theorem named_of_ofFields
    {fields : Fields}
    {request : Request}
    (accepted : ofFields fields = .ok request) :
    request.Named :=
  (valid_of_ofFields accepted).1.named

/-- No component of an accepted target path stays in place. -/
theorem currentName_not_mem_of_ofFields
    {fields : Fields}
    {request : Request}
    (accepted : ofFields fields = .ok request) :
    Path.currentName ∉ request.targetPath.parts := by
  obtain ⟨_, text, shape⟩ := valid_of_ofFields accepted
  rw [shape]
  intro member
  exact (Path.ne_of_mem_components member).2 rfl

/-- A resolved request was accepted from what its options stand for. -/
theorem ofFields_of_resolve
    {host : Host}
    {workspace : Workspace}
    {options : Options}
    {request : Request}
    (resolved : resolve host workspace options = .ok request) :
    ∃ modId, ofFields (options.fields modId) = .ok request := by
  unfold resolve at resolved
  split at resolved
  case h_1 => cases resolved
  case h_2 => cases resolved
  case h_3 =>
    split at resolved
    case h_1 => cases resolved
    case h_2 modId _ =>
      simp only at resolved
      split at resolved
      case h_1 request accepted =>
        cases resolved
        exact ⟨modId, accepted⟩
      case h_2 => cases resolved

end Request

end ModSkeleton
