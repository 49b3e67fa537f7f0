import ModSkeleton.Proofs.Json.Substitution
import ModSkeleton.Proofs.Project.EntryPoints

namespace ModSkeleton.Project

open Template

/-!
# Resources of a built project

When a project is built, its build script puts the version of the project in the
place of a token, on every line of the metadata. Behind that, the metadata is still
a document, in which the version is the one of the project, and everything that
cannot hold the token is as it was. The name can hold it: it survives exactly if it
does not, or if the version is the token itself (`read?_processed_metadata`).
-/

/-- The token that stands for the version of a project. -/
def versionToken : Text :=
  "$\x7bversion\x7d".toList

/-- The part of the build script that replaces the token. -/
def versionFilter : Text :=
  "filter \x7b line -> line.replace('${version}', project.version.toString()) \x7d".toList

/-- What the build makes of a resource: on every line, the token gives way to the version. -/
def processed
    (version resource : Text) :
    Text :=
  Text.joinWith ['\n']
    ((Text.splitOn '\n' resource).map (Text.replaceAll versionToken version))

theorem isToken_versionToken :
    Json.IsToken versionToken :=
  ⟨⟨_, rfl⟩, by decide⟩

/-- Lines make no difference to the token. -/
theorem processed_eq
    (version resource : Text) :
    processed version resource = Text.replaceAll versionToken version resource := by
  rw [processed,
    Text.joinWith_map_replaceAll isToken_versionToken.ne_nil version (by decide),
    Text.joinWith_splitOn]

/-- Whether a literal text of an outline has some text in it. -/
def hasLiteral
    (part : Text) :
    Chunk → Bool
  | .text content => decide (part <:+: content)
  | _ => false

theorem infix_filled
    {request : Request}
    {source part : Text}
    (literal : (outlineOf request.language source).any (hasLiteral part) = true)
    (toolchain : Toolchain) :
    part <:+: filled request toolchain source := by
  obtain ⟨chunk, member, has⟩ := List.any_eq_true.mp literal
  cases chunk with
  | text content =>
      have inside : part <:+: content := of_decide_eq_true has
      have filledContent :
          content ∈
            (outlineOf request.language source).map (Chunk.fill (contextOf request toolchain)) :=
        List.mem_map_of_mem member
      rw [filled, List.flatMap_def]
      exact inside.trans (List.infix_of_mem_flatten filledContent)
  | slot word => cases has
  | filtered filter word suffix => cases has

/-- The build script of every project replaces the token. -/
theorem filled_replaces_version
    (request : Request)
    (toolchain : Toolchain) :
    versionFilter <:+: filled request toolchain buildScript := by
  have literal (language : Language) :
      (buildScriptOutline language).any (hasLiteral versionFilter) = true := by
    unfold buildScriptOutline versionFilter
    repeat rw [String.toList_ofList]
    cases language <;> decide +kernel
  apply infix_filled
  rw [outlineOf_of_hasOutlines hasOutlines_buildScript]
  exact literal request.language

theorem contentAt?_buildScript
    {request : Request}
    (named : request.Named)
    (toolchain : Toolchain) :
    contentAt? (filesOf request toolchain) ["build.gradle".toList] =
      some (filled request toolchain buildScript) :=
  contentAt?_fixedFiles named toolchain (["build.gradle".toList], buildScript)
    (List.mem_of_getElem? (rfl : fixedFiles[0]? = _))

/-- What metadata says about a mod: under which version and name, and what it is made of. -/
structure Describes
    (document : Json.Value)
    (request : Request)
    (version name : Text) :
    Prop where
  version : document.member? "version" = some (.text version)
  name : document.member? "name" = some (.text name)
  id : document.member? "id" = some (.text request.modId)
  entrypoints :
    document.member? "entrypoints" =
      some (.object [("main".toList, .list [.text request.mainClass])])
  mixins : document.member? "mixins" = some (.list [.text (mixinsName request)])

/-- The mod id and the main class of a request that passed the checks cannot hold the token. -/
theorem replaceAll_of_valid
    {request : Request}
    (valid : request.Valid)
    (version : Text) :
    Text.replaceAll versionToken version request.modId = request.modId ∧
      Text.replaceAll versionToken version (mixinsName request) = mixinsName request ∧
        Text.replaceAll versionToken version request.mainClass = request.mainClass := by
  have idFree : '$' ∉ request.modId :=
    ModId.not_mem_of_accepts valid.modId (by decide) (by decide)
  have nameFree : '$' ∉ mixinsName request := by
    have ending : '$' ∉ ".mixins.json".toList := by
      decide
    rw [mixinsName, List.mem_append]
    exact not_or.mpr ⟨idFree, ending⟩
  have classFree : '\x7b' ∉ request.mainClass :=
    MainClass.not_mem_of_fault? valid.mainClass (by decide) (by decide) (by decide)
  exact
    ⟨isToken_versionToken.replaceAll_of_no_dollar version idFree,
      isToken_versionToken.replaceAll_of_no_dollar version nameFree,
      Text.replaceAll_of_not_mem (by decide : '\x7b' ∈ versionToken) version classFree⟩

/-- The keys of the metadata are fixed, and none of them has a dollar sign in it. -/
theorem member?_replaceTexts_metadata
    (request : Request)
    (toolchain : Toolchain)
    (version : Text)
    (key : String) :
    ((metadataDocument request toolchain).replaceTexts versionToken version).member? key =
      ((metadataDocument request toolchain).member? key).map
        (Json.Value.replaceTexts versionToken version) := by
  obtain ⟨members, shape, keys⟩ :
      ∃ members,
        metadataDocument request toolchain = .object members ∧
          members.map Prod.fst =
            ["schemaVersion", "id", "version", "name", "description", "authors", "contact",
              "license", "environment", "entrypoints", "mixins", "depends"].map
              String.toList :=
    ⟨_, rfl, rfl⟩
  rw [shape]
  apply Json.Value.member?_replaceTexts isToken_versionToken
  rw [keys]
  decide

/-- What the metadata says once the version is in the place of its token. -/
theorem describes_replaceTexts
    {request : Request}
    (valid : request.Valid)
    (toolchain : Toolchain)
    (version : Text) :
    Describes ((metadataDocument request toolchain).replaceTexts versionToken version) request
      version (Text.replaceAll versionToken version request.modName) := by
  have found := member?_replaceTexts_metadata request toolchain version
  obtain ⟨modId, mixins, mainClass⟩ := replaceAll_of_valid valid version
  have token : Text.replaceAll versionToken version versionToken = version := by
    have replaced := Text.replaceAll_target_append isToken_versionToken.ne_nil version []
    simpa [Text.replaceAll, Text.replaceFrom] using replaced
  have main : Text.replaceAll versionToken version "main".toList = "main".toList :=
    isToken_versionToken.replaceAll_of_no_dollar version (by decide)
  refine ⟨?_, ?_, ?_, ?_, ?_⟩
  · have before :
        (metadataDocument request toolchain).member? "version" = some (.text versionToken) :=
      rfl
    rw [found, before, Option.map_some, Json.Value.replaceTexts, token]
  · have before :
        (metadataDocument request toolchain).member? "name" = some (.text request.modName) :=
      rfl
    rw [found, before, Option.map_some, Json.Value.replaceTexts]
  · have before :
        (metadataDocument request toolchain).member? "id" = some (.text request.modId) :=
      rfl
    rw [found, before, Option.map_some, Json.Value.replaceTexts, modId]
  · have before :
        (metadataDocument request toolchain).member? "entrypoints" =
          some (.object [("main".toList, .list [.text request.mainClass])]) :=
      rfl
    rw [found, before, Option.map_some]
    simp only [Json.Value.replaceTexts, Json.Value.replaceMembers, Json.Value.replaceItems,
      main, mainClass]
  · have before :
        (metadataDocument request toolchain).member? "mixins" =
          some (.list [.text (mixinsName request)]) :=
      rfl
    rw [found, before, Option.map_some]
    simp only [Json.Value.replaceTexts, Json.Value.replaceItems, mixins]

/-- The metadata is still a document once the version is in the place of its token. -/
theorem read?_processed
    (request : Request)
    {version : Text}
    (plain : Json.IsPlain version) :
    Json.read? (processed version (filled request Toolchain.default metadata)) =
      some ((metadataDocument request Toolchain.default).replaceTexts versionToken version) := by
  rw [processed_eq, filled_metadata request Toolchain.default (by decide) (fun _ => by decide)]
  exact
    Json.read?_replaceAll_layout isToken_versionToken plain _
      (isIntegral_metadataDocument request Toolchain.default) (by decide)

/--
The metadata of every accepted request is still a document once the build has put a
plain version into it. That document has the version, and the mod id, main class and
mixin configuration of the request; in the name, the token is replaced as well. So
the name survives exactly if the token is not in it or the version is the token.
-/
theorem read?_processed_metadata
    {fields : Request.Fields}
    {request : Request}
    (accepted : Request.ofFields fields = .ok request)
    {version : Text}
    (plain : Json.IsPlain version) :
    ∃ files script metadata document,
      render request.brief Toolchain.default.settings = .ok files ∧
        contentAt? files ["build.gradle".toList] = some script ∧
          versionFilter <:+: script ∧
            contentAt? files (resources ++ ["fabric.mod.json".toList]) = some metadata ∧
              Json.read? (processed version metadata) = some document ∧
                Describes document request version
                    (Text.replaceAll versionToken version request.modName) ∧
                  (Describes document request version request.modName ↔
                    version = versionToken ∨ ¬versionToken <:+: request.modName) := by
  have named := Request.named_of_ofFields accepted
  have valid := (Request.valid_of_ofFields accepted).1
  have describes := describes_replaceTexts valid Toolchain.default version
  have unchanged :=
    Text.replaceAll_eq_self_iff isToken_versionToken.ne_nil version request.modName
  refine
    ⟨_, _, _, _, render_eq request Toolchain.default,
      contentAt?_buildScript named Toolchain.default,
      filled_replaces_version request Toolchain.default,
      contentAt?_metadata named Toolchain.default, read?_processed request plain, describes, ?_⟩
  rw [← unchanged]
  constructor
  · intro survives
    have same := survives.name.symm.trans describes.name
    simpa using same.symm
  · intro same
    rwa [same] at describes

/-- Values of a request with a given name and a dollar sign in its main class. -/
def namedFields
    (name : Text) :
    Request.Fields where
  targetPath := some (.text "mod".toList)
  modId := some (.text "sample_mod".toList)
  modName := some (.text name)
  language := none
  mainClass := some (.text "a.$B".toList)

/-- The request with these values. -/
def namedRequest
    (name : Text) :
    Request where
  targetPath := ⟨.relative, ["mod".toList]⟩
  modId := "sample_mod".toList
  modName := name
  language := .java
  mainClass := "a.$B".toList

/-- A name that nearly holds the token. -/
def nearToken : Text :=
  "Cash$\x7bversion".toList

/-- A version. -/
def sampleVersion : Text :=
  "1.0.0".toList

theorem isPlain_sampleVersion :
    Json.IsPlain sampleVersion := by
  decide

/-- A name that nearly holds the token survives. -/
theorem read?_processed_metadata_near_token :
    Request.ofFields (namedFields nearToken) = .ok (namedRequest nearToken) ∧
      Json.IsPlain sampleVersion ∧
        ∃ files metadata document,
          render (namedRequest nearToken).brief Toolchain.default.settings = .ok files ∧
            contentAt? files (resources ++ ["fabric.mod.json".toList]) = some metadata ∧
              Json.read? (processed sampleVersion metadata) = some document ∧
                Describes document (namedRequest nearToken) sampleVersion nearToken := by
  have accepted : Request.ofFields (namedFields nearToken) = .ok (namedRequest nearToken) :=
    rfl
  have absent : ¬versionToken <:+: nearToken := by
    decide
  obtain ⟨files, _, metadata, document, rendered, _, _, found, read, _, survives⟩ :=
    read?_processed_metadata accepted isPlain_sampleVersion
  exact
    ⟨accepted, isPlain_sampleVersion, files, metadata, document, rendered, found, read,
      survives.mpr (.inr absent)⟩

/-- A name that is the token is replaced by the version. -/
theorem processed_replaces_name :
    Request.ofFields (namedFields versionToken) = .ok (namedRequest versionToken) ∧
      Json.IsPlain sampleVersion ∧
        ∃ files metadata document,
          render (namedRequest versionToken).brief Toolchain.default.settings = .ok files ∧
            contentAt? files (resources ++ ["fabric.mod.json".toList]) = some metadata ∧
              Json.read? (processed sampleVersion metadata) = some document ∧
                document.member? "name" = some (.text sampleVersion) ∧
                  ¬Describes document (namedRequest versionToken) sampleVersion
                    versionToken := by
  have accepted :
      Request.ofFields (namedFields versionToken) = .ok (namedRequest versionToken) :=
    rfl
  have named := Request.named_of_ofFields accepted
  have valid := (Request.valid_of_ofFields accepted).1
  have name := (describes_replaceTexts valid Toolchain.default sampleVersion).name
  have replaced :
      Text.replaceAll versionToken sampleVersion (namedRequest versionToken).modName =
        sampleVersion := by
    decide
  have different : sampleVersion ≠ versionToken := by
    decide
  rw [replaced] at name
  refine
    ⟨accepted, isPlain_sampleVersion, _, _, _,
      render_eq (namedRequest versionToken) Toolchain.default,
      contentAt?_metadata named Toolchain.default,
      read?_processed _ isPlain_sampleVersion, name, ?_⟩
  intro describes
  rw [describes.name, Option.some_inj] at name
  exact different (Json.Value.text.inj name).symm

end ModSkeleton.Project
