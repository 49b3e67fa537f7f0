import ModSkeleton.Proofs.Path.Printing
import ModSkeleton.Proofs.Request.MainClasses
import ModSkeleton.Request.Resolve

namespace ModSkeleton.Request

/-!
# Resolving texts

Options that are texts or absent stand for a mod id: the given one, or the one that is
derived from the target path, which may fail (`TextOptions.idOf`). If they stand for one,
they are resolved or refused by an error of the project. The name comes first, then the mod
id, then the main class, and the first of them that is not accepted decides (`Refusal`). A
request with a name is resolved exactly as it is made from its fields, where all issues are
listed and the first of them is reported. A resolved request is resolved again from its own
values (`resolve_texts`).
-/

/-- Options that are texts or absent; any value may choose the language. -/
structure TextOptions where
  targetPath : Text
  modName : Option Text
  modId : Option Text
  useKotlin : Json.Value
  mainClass : Option Text

/-- A text that may be absent, as a value. -/
def valueOf : Option Text → Json.Value
  | none => .null
  | some text => .text text

/-- A text that is given and not empty, or another one in its place. -/
def givenOr
    (fallback : Text) :
    Option Text → Text
  | some (c :: rest) => c :: rest
  | _ => fallback

namespace TextOptions

/-- The options that texts stand for. -/
def options
    (given : TextOptions) :
    Options where
  targetPath := .text given.targetPath
  modName := valueOf given.modName
  modId := valueOf given.modId
  useKotlin := given.useKotlin
  mainClass := valueOf given.mainClass

/-- The language that is chosen. -/
def language
    (given : TextOptions) :
    Language :=
  if given.useKotlin.truthy then .kotlin else .java

/-- The main class that is chosen. -/
def chosenClass
    (given : TextOptions) :
    Text :=
  givenOr MainClass.default given.mainClass

/-- The options that repeat the values of a request. -/
def ofRequest
    (request : Request) :
    TextOptions where
  targetPath := request.targetPath.toText
  modName := some request.modName
  modId := some request.modId
  useKotlin := .bool (request.language == .kotlin)
  mainClass := some request.mainClass

/-- The mod id that is chosen: the given one unless it is empty, or the derived one. -/
def idOf
    (host : Host)
    (workspace : Workspace)
    (given : TextOptions) :
    Except ResolveError Text :=
  match given.modId with
  | some (c :: rest) => .ok (c :: rest)
  | _ => derivedModId host workspace (Path.parse given.targetPath)

/-- The values from which a request is made directly. -/
def fields
    (given : TextOptions)
    (id name : Text) :
    Fields where
  targetPath := some (.text given.targetPath)
  modId := some (.text id)
  modName := some (.text name)
  language := some (.text given.language.name)
  mainClass := some (.text given.chosenClass)

end TextOptions

/-- Which field is refused, with its value and the reason: the mod id before the main class. -/
inductive Refusal
    (id mainClass : Text) :
    Text → Text → Text → Prop where
  | emptyId
      (isEmpty : id = []) :
      Refusal id mainClass "mod_id".toList id "String should have at least 1 character".toList
  | modId
      {reason : Text}
      (notEmpty : id ≠ [])
      (refused :
        ModId.validate id = .error (.invalidField "mod_id".toList (.text id) reason)) :
      Refusal id mainClass "mod_id".toList id reason
  | mainClass
      {reason : Text}
      (accepted : ModId.validate id = .ok ())
      (refused :
        MainClass.validate mainClass =
          .error (.invalidField "main_class".toList (.text mainClass) reason)) :
      Refusal id mainClass "main_class".toList mainClass reason

theorem validate_nil :
    ModId.validate [] ≠ .ok () := by
  rw [Ne, ModId.validate_eq_ok_iff]
  decide

/-- What is accepted is not refused. -/
theorem Refusal.not_accepted
    {id mainClass field value reason : Text}
    (refusal : Refusal id mainClass field value reason) :
    ¬(ModId.validate id = .ok () ∧ MainClass.validate mainClass = .ok ()) := by
  rintro ⟨idAccepted, classAccepted⟩
  cases refusal with
  | emptyId isEmpty =>
      subst id
      exact validate_nil idAccepted
  | modId _ refused =>
      rw [idAccepted] at refused
      cases refused
  | mainClass _ refused =>
      rw [classAccepted] at refused
      cases refused

/-- There is only one first refusal. -/
theorem Refusal.unique
    {id mainClass field value reason otherField otherValue otherReason : Text}
    (refusal : Refusal id mainClass field value reason)
    (other : Refusal id mainClass otherField otherValue otherReason) :
    field = otherField ∧ value = otherValue ∧ reason = otherReason := by
  cases refusal with
  | emptyId isEmpty =>
      cases other with
      | emptyId _ => exact ⟨rfl, rfl, rfl⟩
      | modId notEmpty _ => exact (notEmpty isEmpty).elim
      | mainClass accepted _ =>
          subst id
          exact (validate_nil accepted).elim
  | modId notEmpty refused =>
      cases other with
      | emptyId isEmpty => exact (notEmpty isEmpty).elim
      | modId _ otherRefused =>
          rw [refused] at otherRefused
          cases otherRefused
          exact ⟨rfl, rfl, rfl⟩
      | mainClass accepted _ =>
          rw [accepted] at refused
          cases refused
  | mainClass accepted refused =>
      cases other with
      | emptyId isEmpty =>
          subst id
          exact (validate_nil accepted).elim
      | modId _ otherRefused =>
          rw [accepted] at otherRefused
          cases otherRefused
      | mainClass _ otherRefused =>
          rw [refused] at otherRefused
          cases otherRefused
          exact ⟨rfl, rfl, rfl⟩

/-- A mod id passes the check of its field, or is refused there as by its own check. -/
theorem checkModId_cases
    (id mainClass : Text) :
    (ModId.validate id = .ok () ∧ checkModId (.text id) = .ok id) ∨
      ∃ issue,
        checkModId (.text id) = .error issue ∧
          Refusal id mainClass "mod_id".toList id issue.reason := by
  cases id with
  | nil => exact .inr ⟨.empty, rfl, .emptyId rfl⟩
  | cons c rest =>
      by_cases accepted : ModId.accepts (c :: rest) = true
      · refine .inl ⟨(ModId.validate_eq_ok_iff _).mpr accepted, ?_⟩
        simp [checkModId, Issue.checkNonempty, Issue.checkText, accepted]
      · refine .inr ⟨.refused ModId.rule, ?_, .modId (List.cons_ne_nil c rest) ?_⟩
        · simp [checkModId, Issue.checkNonempty, Issue.checkText, accepted]
        · simp [ModId.validate, accepted, Issue.reason]

/-- A main class passes the check of its field, or is refused there as by its own check. -/
theorem checkMainClass_cases
    (mainClass : Text) :
    (MainClass.validate mainClass = .ok () ∧
        checkMainClass (.text mainClass) = .ok mainClass) ∨
      ∃ issue,
        checkMainClass (.text mainClass) = .error issue ∧
          MainClass.validate mainClass =
            .error (.invalidField "main_class".toList (.text mainClass) issue.reason) := by
  unfold MainClass.validate checkMainClass
  cases found : MainClass.fault? mainClass with
  | none => exact .inl ⟨rfl, by simp [Issue.checkText, found]⟩
  | some fault => exact .inr ⟨.refused fault.message, by simp [Issue.checkText, found], rfl⟩

section

variable
    (given : TextOptions)
    (id : Text)
    {name : Text}

/--
Made directly, a request has the given values if its mod id and its main class are
accepted; otherwise the first issue is the refusal, at its field.
-/
theorem ofFields_cases
    (notEmpty : name ≠ []) :
    (ModId.validate id = .ok () ∧
        MainClass.validate given.chosenClass = .ok () ∧
          ofFields (given.fields id name) =
            .ok
              ⟨Path.parse given.targetPath, id, name, given.language, given.chosenClass⟩) ∨
      ∃ field value issue later,
        ofFields (given.fields id name) = .error (⟨[field], issue⟩ :: later) ∧
          (given.fields id name).value? field = some (.text value) ∧
            Refusal id given.chosenClass field value issue.reason := by
  have nameChecked : Issue.checkNonempty (.text name) = .ok name := by
    cases name with
    | nil => exact absurd rfl notEmpty
    | cons c rest => rfl
  have languageChecked :
      checkLanguage (.text given.language.name) = .ok given.language := by
    rw [checkLanguage, Language.ofName?_name]
  rcases checkModId_cases id given.chosenClass with
    ⟨idAccepted, idChecked⟩ | ⟨issue, idFailed, refusal⟩
  · rcases checkMainClass_cases given.chosenClass with
      ⟨classAccepted, classChecked⟩ | ⟨issue, classFailed, refused⟩
    · refine .inl ⟨idAccepted, classAccepted, ?_⟩
      simp only [ofFields, TextOptions.fields, Issue.checkRequired, Issue.checkOr, checkPath,
        idChecked, nameChecked, languageChecked, classChecked]
    · refine
        .inr ⟨"main_class".toList, given.chosenClass, issue, [], ?_, rfl,
          .mainClass idAccepted refused⟩
      simp only [ofFields, TextOptions.fields, Issue.checkRequired, Issue.checkOr, checkPath,
        idChecked, nameChecked, languageChecked, classFailed, Issue.locate, List.nil_append]
  · refine
      .inr ⟨"mod_id".toList, id, issue,
        Issue.locate ["main_class".toList] (checkMainClass (.text given.chosenClass)), ?_, rfl,
        refusal⟩
    simp only [ofFields, TextOptions.fields, Issue.checkRequired, Issue.checkOr, checkPath,
      idFailed, nameChecked, languageChecked, Issue.locate, List.nil_append]
    rfl

end

theorem orElse_valueOf
    (text? : Option Text)
    (fallback : Text) :
    orElse (valueOf text?) (.text fallback) = .text (givenOr fallback text?) := by
  cases text? with
  | none => rfl
  | some text =>
      cases text with
      | nil => rfl
      | cons c rest => rfl

theorem givenOr_of_ne_nil
    {text : Text}
    (notEmpty : text ≠ [])
    (fallback : Text) :
    givenOr fallback (some text) = text := by
  cases text with
  | nil => exact absurd rfl notEmpty
  | cons c rest => rfl

/-- Options without a mod id stand for the one that is derived. -/
theorem idOf_of_absent
    (host : Host)
    (workspace : Workspace)
    {given : TextOptions}
    (absent : given.modId = none ∨ given.modId = some []) :
    given.idOf host workspace = derivedModId host workspace (Path.parse given.targetPath) := by
  unfold TextOptions.idOf
  rcases absent with isNone | isEmpty
  · rw [isNone]
  · rw [isEmpty]

/-- No mod id is derived from a path that has no real path, and for no other reason. -/
theorem derivedModId_eq_error
    {host : Host}
    {workspace : Workspace}
    {path : Path}
    {error : ResolveError}
    (failed : derivedModId host workspace path = .error error) :
    ∃ fault, host.realPath workspace path = .error fault ∧ error = .noRealPath fault := by
  unfold derivedModId at failed
  split at failed
  case isTrue =>
    split at failed
    case h_1 => cases failed
    case h_2 fault noRealPath =>
      cases failed
      exact ⟨fault, noRealPath, rfl⟩
  case isFalse => cases failed

/-- The mod id of texts is the one that is chosen. -/
theorem modIdOr_options
    (host : Host)
    (workspace : Workspace)
    (given : TextOptions) :
    given.options.modIdOr host workspace (Path.parse given.targetPath) =
      (given.idOf host workspace).map Json.Value.text := by
  unfold Options.modIdOr TextOptions.options TextOptions.idOf
  cases given.modId with
  | none => rfl
  | some id =>
      cases id with
      | nil => rfl
      | cons c rest => rfl

/-- Whether a name is given and not blank. -/
def IsNamed
    (name? : Option Text)
    (name : Text) :
    Prop :=
  name? = some name ∧ Text.allBlank name = false

theorem isNamed_or_blank
    (name? : Option Text) :
    (∃ name, IsNamed name? name) ∨ ∀ name ∈ name?, Text.allBlank name = true := by
  cases name? with
  | none => exact .inr nofun
  | some name =>
      by_cases blank : Text.allBlank name = true
      · refine .inr ?_
        intro other same
        cases same
        exact blank
      · exact .inl ⟨name, rfl, by simpa using blank⟩

theorem IsNamed.ne_nil
    {name? : Option Text}
    {name : Text}
    (named : IsNamed name? name) :
    name ≠ [] := by
  rintro rfl
  cases named.2

section

variable
    {host : Host}
    {workspace : Workspace}
    {given : TextOptions}

theorem checkName_of_named
    {name : Text}
    (named : IsNamed given.modName name) :
    checkName given.options.modName = .ok () := by
  obtain ⟨isName, notBlank⟩ := named
  simp [TextOptions.options, valueOf, isName, checkName, notBlank]

theorem check_targetPath :
    NotPath.check given.options.targetPath = .ok (Path.parse given.targetPath) :=
  rfl

/-- Options without a name are refused before anything else is looked at. -/
theorem resolve_of_blank
    (blank : ∀ name ∈ given.modName, Text.allBlank name = true) :
    resolve host workspace given.options =
      .error (.project (.missingField "mod_name".toList)) := by
  have missing :
      checkName given.options.modName = .error (.project (.missingField "mod_name".toList)) := by
    unfold TextOptions.options valueOf
    cases isName : given.modName with
    | none => rfl
    | some name => simp [checkName, blank name isName]
  simp only [resolve, missing]

/-- Options with a name are resolved by making a request from their values. -/
theorem resolve_of_named
    {name : Text}
    (named : IsNamed given.modName name)
    {id : Text}
    (isId : given.idOf host workspace = .ok id) :
    resolve host workspace given.options =
      (ofFields (given.fields id name)).mapError fun issues =>
        .project (invalidField (given.fields id name) issues) := by
  have sameFields : given.options.fields (.text id) = given.fields id name := by
    unfold Options.fields TextOptions.options TextOptions.fields
    rw [orElse_valueOf, named.1]
    simp only [valueOf, TextOptions.chosenClass, TextOptions.language, apply_ite Language.name]
  simp only [resolve, checkName_of_named named, check_targetPath, modIdOr_options, isId,
    Except.map, sameFields]
  cases ofFields (given.fields id name) with
  | ok request => rfl
  | error issues => rfl

/-- Options with a name that stand for no mod id are refused for the reason of that. -/
theorem resolve_of_unidentified
    {name : Text}
    (named : IsNamed given.modName name)
    {error : ResolveError}
    (unidentified : given.idOf host workspace = .error error) :
    resolve host workspace given.options = .error error := by
  simp only [resolve, checkName_of_named named, check_targetPath, modIdOr_options,
    unidentified, Except.map]

/-- Options with a name are resolved to their values, or refused for the first issue. -/
theorem resolve_cases
    {name : Text}
    (named : IsNamed given.modName name)
    {id : Text}
    (isId : given.idOf host workspace = .ok id) :
    (∃ request : Request,
      request = ⟨Path.parse given.targetPath, id, name, given.language, given.chosenClass⟩ ∧
        (ModId.validate id = .ok () ∧ MainClass.validate given.chosenClass = .ok ()) ∧
          ofFields (given.fields id name) = .ok request ∧
            resolve host workspace given.options = .ok request) ∨
      ∃ field value issue later,
        ofFields (given.fields id name) = .error (⟨[field], issue⟩ :: later) ∧
          (given.fields id name).value? field = some (.text value) ∧
            Refusal id given.chosenClass field value issue.reason ∧
              resolve host workspace given.options =
                .error (.project (.invalidField field (.text value) issue.reason)) := by
  rw [resolve_of_named named isId]
  rcases ofFields_cases given id named.ne_nil with
    ⟨idAccepted, classAccepted, made⟩ | ⟨field, value, issue, later, failed, hasValue, refusal⟩
  · refine .inl ⟨_, rfl, ⟨idAccepted, classAccepted⟩, made, ?_⟩
    rw [made]
    rfl
  · refine .inr ⟨field, value, issue, later, failed, hasValue, refusal, ?_⟩
    have reported :
        invalidField (given.fields id name) (⟨[field], issue⟩ :: later) =
          .invalidField field (.text value) issue.reason := by
      simp only [invalidField, List.headD_cons, hasValue, Option.getD_some,
        Json.Value.display_text]
    rw [failed, ← reported]
    rfl

end

/-- What becomes of options, given the mod id that they stand for. -/
structure ResolvesBy
    (host : Host)
    (workspace : Workspace)
    (given : TextOptions)
    (id : Text) :
    Prop where
  succeeds :
    ∀ request,
      resolve host workspace given.options = .ok request ↔
        ∃ name,
          IsNamed given.modName name ∧
            ModId.validate id = .ok () ∧
              MainClass.validate given.chosenClass = .ok () ∧
                request =
                  ⟨Path.parse given.targetPath, id, name, given.language, given.chosenClass⟩
  unnamed :
    (∀ name ∈ given.modName, Text.allBlank name = true) →
    resolve host workspace given.options = .error (.project (.missingField "mod_name".toList))
  refused :
    ∀ name,
      IsNamed given.modName name →
      ∀ error,
        resolve host workspace given.options = .error error ↔
          ∃ field value reason,
            Refusal id given.chosenClass field value reason ∧
              error = .project (.invalidField field (.text value) reason)
  accepts :
    ∀ name,
      IsNamed given.modName name →
      ∀ request,
        ofFields (given.fields id name) = .ok request ↔
          resolve host workspace given.options = .ok request
  reports :
    ∀ name,
      IsNamed given.modName name →
      ∀ issues,
        ofFields (given.fields id name) = .error issues →
        ∃ field value issue later,
          issues = ⟨[field], issue⟩ :: later ∧
            (given.fields id name).value? field = some (.text value) ∧
              resolve host workspace given.options =
                .error (.project (.invalidField field (.text value) issue.reason))

/-- Options are resolved by the mod id that they stand for. -/
theorem resolvesBy_of_idOf
    {host : Host}
    {workspace : Workspace}
    {given : TextOptions}
    {id : Text}
    (isId : given.idOf host workspace = .ok id) :
    ResolvesBy host workspace given id where
  succeeds := by
    intro request
    rcases isNamed_or_blank given.modName with ⟨name, named⟩ | blank
    · rcases resolve_cases named isId with
        ⟨_, rfl, ⟨idAccepted, classAccepted⟩, _, resolved⟩ | ⟨_, _, _, _, _, _, refusal, failed⟩
      · rw [resolved]
        constructor
        · intro same
          cases same
          exact ⟨name, named, idAccepted, classAccepted, rfl⟩
        · rintro ⟨other, otherNamed, _, _, rfl⟩
          have sameName : name = other := Option.some.inj (named.1.symm.trans otherNamed.1)
          rw [sameName]
      · rw [failed]
        refine ⟨nofun, ?_⟩
        rintro ⟨_, _, idAccepted, classAccepted, _⟩
        exact (refusal.not_accepted ⟨idAccepted, classAccepted⟩).elim
    · rw [resolve_of_blank blank]
      refine ⟨nofun, ?_⟩
      rintro ⟨name, ⟨isName, notBlank⟩, _⟩
      rw [blank name isName] at notBlank
      cases notBlank
  unnamed := resolve_of_blank
  refused := by
    intro name named error
    rcases resolve_cases named isId with
      ⟨_, _, accepted, _, resolved⟩ | ⟨field, value, issue, _, _, _, refusal, failed⟩
    · rw [resolved]
      refine ⟨nofun, ?_⟩
      rintro ⟨_, _, _, refusal, _⟩
      exact (refusal.not_accepted accepted).elim
    · rw [failed]
      constructor
      · intro same
        cases same
        exact ⟨field, value, issue.reason, refusal, rfl⟩
      · rintro ⟨_, _, _, otherRefusal, rfl⟩
        obtain ⟨rfl, rfl, sameReason⟩ := refusal.unique otherRefusal
        rw [sameReason]
  accepts := by
    intro name named request
    rcases resolve_cases named isId with
      ⟨_, _, _, made, resolved⟩ | ⟨_, _, _, _, unmade, _, _, failed⟩
    · rw [made, resolved]
      constructor
      · intro same
        cases same
        rfl
      · intro same
        cases same
        rfl
    · rw [unmade, failed]
      exact ⟨nofun, nofun⟩
  reports := by
    intro name named issues listed
    rcases resolve_cases named isId with
      ⟨_, _, _, made, _⟩ | ⟨field, value, issue, later, unmade, hasValue, _, failed⟩
    · rw [made] at listed
      cases listed
    · rw [unmade] at listed
      cases listed
      exact ⟨field, value, issue, later, rfl, hasValue, failed⟩

/-- An accepted main class is not empty. -/
theorem ne_nil_of_validate
    {mainClass : Text}
    (accepted : MainClass.validate mainClass = .ok ()) :
    mainClass ≠ [] := by
  rintro rfl
  exact absurd ((MainClass.validate_eq_ok_iff []).mp accepted) (by decide)

/-- A resolved request is resolved again from its own values, wherever this is done. -/
theorem resolve_ofRequest
    {host : Host}
    {workspace : Workspace}
    {given : TextOptions}
    {id : Text}
    (resolves : ResolvesBy host workspace given id)
    {request : Request}
    (resolved : resolve host workspace given.options = .ok request)
    (otherHost : Host)
    (other : Workspace) :
    resolve otherHost other (TextOptions.ofRequest request).options = .ok request := by
  obtain ⟨name, ⟨_, notBlank⟩, idAccepted, classAccepted, isRequest⟩ :=
    (resolves.succeeds request).mp resolved
  have ownPath : Path.parse (TextOptions.ofRequest request).targetPath = request.targetPath := by
    rw [isRequest]
    exact Path.parse_toText given.targetPath
  have sameId : (TextOptions.ofRequest request).idOf otherHost other = .ok id := by
    rw [isRequest]
    cases id with
    | nil => exact (validate_nil idAccepted).elim
    | cons c rest => rfl
  have sameClass : (TextOptions.ofRequest request).chosenClass = given.chosenClass := by
    rw [isRequest]
    exact givenOr_of_ne_nil (ne_nil_of_validate classAccepted) _
  have sameLanguage : (TextOptions.ofRequest request).language = request.language := by
    unfold TextOptions.language TextOptions.ofRequest
    cases request.language with
    | java => rfl
    | kotlin => rfl
  apply ((resolvesBy_of_idOf sameId).succeeds request).mpr
  rw [sameClass, sameLanguage, ownPath]
  refine ⟨name, ⟨?_, notBlank⟩, idAccepted, classAccepted, ?_⟩
  · rw [isRequest]
    rfl
  · rw [isRequest]

/-- What becomes of options that stand for no mod id. -/
structure Unidentified
    (host : Host)
    (workspace : Workspace)
    (given : TextOptions)
    (error : ResolveError) :
    Prop where
  noRealPath :
    ∃ fault,
      host.realPath workspace (Path.parse given.targetPath) = .error fault ∧
        error = .noRealPath fault
  unnamed :
    (∀ name ∈ given.modName, Text.allBlank name = true) →
    resolve host workspace given.options = .error (.project (.missingField "mod_name".toList))
  named :
    ∀ name,
      IsNamed given.modName name →
      resolve host workspace given.options = .error error

/-- Texts stand for no mod id only if none is given and the path has no real path. -/
theorem unidentified_of_idOf
    {host : Host}
    {workspace : Workspace}
    {given : TextOptions}
    {error : ResolveError}
    (failed : given.idOf host workspace = .error error) :
    Unidentified host workspace given error where
  noRealPath := by
    unfold TextOptions.idOf at failed
    split at failed
    case h_1 => cases failed
    case h_2 => exact derivedModId_eq_error failed
  unnamed := resolve_of_blank
  named := fun _ named => resolve_of_unidentified named failed

/--
Options that are texts or absent stand for a mod id: the given one, or the one that is
derived from the path. They are resolved exactly if the name is given and not blank and mod
id and main class pass their checks, to the request with these values; otherwise the first
of the three that fails is reported. For options with a name this agrees with the first
issue of making the request from the same values. A resolved request is resolved again from
its own values, on every host and in every workspace. Where no mod id is given and the path
has no real path from which one could be derived, the reason of that is reported, but for a
missing name before.
-/
theorem resolve_texts
    (host : Host)
    (workspace : Workspace)
    (given : TextOptions) :
    (∀ id,
        given.idOf host workspace = .ok id →
        ResolvesBy host workspace given id ∧
          ∀ request,
            resolve host workspace given.options = .ok request →
            ∀ otherHost other,
              resolve otherHost other (TextOptions.ofRequest request).options = .ok request) ∧
      ∀ error,
        given.idOf host workspace = .error error →
        Unidentified host workspace given error := by
  constructor
  · intro id isId
    have resolves := resolvesBy_of_idOf isId
    refine ⟨resolves, ?_⟩
    intro request resolved otherHost other
    exact resolve_ofRequest resolves resolved otherHost other
  · intro error failed
    exact unidentified_of_idOf failed

/-- Options whose path ends by leading up again, with an empty mod id. -/
def detourOptions : TextOptions where
  targetPath := "//srv/./a-mod/x/..".toList
  modName := some " My Mod".toList
  modId := some []
  useKotlin := .int 1
  mainClass := none

/-- The request that they stand for. -/
def detourRequest : Request where
  targetPath := ⟨.doubleSlash, ["srv".toList, "a-mod".toList, "x".toList, "..".toList]⟩
  modId := "a-mod".toList
  modName := " My Mod".toList
  language := .kotlin
  mainClass := MainClass.default

/-- Options for the root of the file tree, with a main class that has no package. -/
def rootOptions : TextOptions where
  targetPath := "/".toList
  modName := some "Sample".toList
  modId := none
  useKotlin := .null
  mainClass := some "Foo".toList

/-- A mod id is found behind a detour; the root has none, which is reported first. -/
theorem resolve_texts_detour :
    resolve .faultless ⟨.empty, []⟩ detourOptions.options = .ok detourRequest ∧
      resolve .faultless ⟨.empty, ["home".toList]⟩
            (TextOptions.ofRequest detourRequest).options =
          .ok detourRequest ∧
        resolve .faultless ⟨.empty, []⟩ rootOptions.options =
          .error
            (.project
              (.invalidField "mod_id".toList (.text [])
                "String should have at least 1 character".toList)) := by
  have path : Path.parse detourOptions.targetPath = detourRequest.targetPath := by
    decide +kernel
  have realPath :
      Host.faultless.realPath ⟨.empty, []⟩ detourRequest.targetPath =
        .ok ⟨.absolute, ["srv".toList, "a-mod".toList]⟩ := by
    rfl
  have isId : detourOptions.idOf .faultless ⟨.empty, []⟩ = .ok "a-mod".toList := by
    rw [idOf_of_absent _ _ (.inr rfl), path, derivedModId, if_pos (by decide), realPath]
    rfl
  have isNone : rootOptions.idOf .faultless ⟨.empty, []⟩ = .ok [] := by
    rfl
  obtain ⟨resolves, again⟩ := (resolve_texts .faultless ⟨.empty, []⟩ detourOptions).1 _ isId
  have resolved : resolve .faultless ⟨.empty, []⟩ detourOptions.options = .ok detourRequest := by
    apply (resolves.succeeds detourRequest).mpr
    exact ⟨" My Mod".toList, ⟨rfl, by decide⟩, rfl, rfl, rfl⟩
  obtain ⟨refuses, _⟩ := (resolve_texts .faultless ⟨.empty, []⟩ rootOptions).1 _ isNone
  refine ⟨resolved, again detourRequest resolved _ _, ?_⟩
  apply (refuses.refused "Sample".toList ⟨rfl, by decide⟩ _).mpr
  exact ⟨_, _, _, .emptyId rfl, rfl⟩

/-- A workspace whose working directory has been removed. -/
def removedWorkspace : Workspace where
  tree := .empty
  directory := ["gone".toList]

/-- Options for the working directory, with nothing but a name. -/
def hereOptions : TextOptions where
  targetPath := ".".toList
  modName := some "Sample".toList
  modId := none
  useKotlin := .null
  mainClass := none

/--
In a working directory that has been removed, no mod id decides over options with a name and
a path without NUL: they are refused, but not by an error of the project.
-/
theorem resolve_removedWorkspace :
    '\x00' ∉ hereOptions.targetPath ∧
      IsNamed hereOptions.modName "Sample".toList ∧
        resolve .faultless removedWorkspace hereOptions.options =
            .error (.noRealPath .noDirectory) ∧
          ∀ id, ¬ResolvesBy .faultless removedWorkspace hereOptions id := by
  have unidentified :
      hereOptions.idOf .faultless removedWorkspace = .error (.noRealPath .noDirectory) := by
    rfl
  have named : IsNamed hereOptions.modName "Sample".toList :=
    ⟨rfl, by decide⟩
  have refused := resolve_of_unidentified named unidentified
  refine ⟨by decide, named, refused, ?_⟩
  intro id resolves
  obtain ⟨_, _, _, _, isProject⟩ := (resolves.refused _ named _).mp refused
  cases isProject

end ModSkeleton.Request
