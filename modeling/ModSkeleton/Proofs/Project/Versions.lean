import ModSkeleton.Proofs.Json.Places
import ModSkeleton.Proofs.Project.Documents

namespace ModSkeleton.Project

open Template

/-!
# Versions in the metadata

The metadata of a project says which versions of its tools the mod requires. For two
toolchains it has the same members, and only these requirements differ, exactly if the
versions that are printed between quotes as they are need no escapes
(`read?_metadata_agree_iff`). If they need some, the metadata may be no document at all.
-/

/-- What a project requires of its tools: for every one of them, a range of versions. -/
def requirements
    (language : Language)
    (toolchain : Toolchain) :
    List (String × Text) :=
  [("fabricloader", ">=".toList ++ toolchain.loaderVersion),
   ("minecraft", '~' :: toolchain.minecraftVersion),
   ("java", ">=".toList ++ Text.decimal toolchain.javaVersion)] ++
  match language with
  | .java => []
  | .kotlin => [("fabric-language-kotlin", ">=".toList ++ toolchain.kotlin.fabricKotlin)]

/-- The place of what is required of a tool. -/
def requirementPlace
    (tool : String) :
    List String :=
  ["depends", tool]

/-- The places of all requirements. -/
def requirementPlaces
    (language : Language) :
    List (List String) :=
  (requirements language Toolchain.default).map fun (tool, _) => requirementPlace tool

/-- A document has what is required of every tool at its place. -/
def Requires
    (document : Json.Value)
    (language : Language)
    (toolchain : Toolchain) :
    Prop :=
  ∀ entry ∈ requirements language toolchain,
    document.at? (requirementPlace entry.1) = some (.text entry.2)

/-- The versions that stand in the metadata as they are need no escapes. -/
structure PlainVersions
    (language : Language)
    (toolchain : Toolchain) :
    Prop where
  loader : Json.IsPlain toolchain.loaderVersion
  adapter : language = .kotlin → Json.IsPlain toolchain.kotlin.fabricKotlin

section

variable
    (request : Request)
    (toolchain : Toolchain)

/-- The step to what a mod depends on, behind all other members of the metadata. -/
def dependsStep : Json.Step where
  front := (metadataDocument request toolchain).members.dropLast
  key := "depends"

theorem isFirst_dependsStep :
    (dependsStep request toolchain).IsFirst where
  isNew := by
    have absent :
        "depends".toList ∉
          ["schemaVersion", "id", "version", "name", "description", "authors", "contact",
            "license", "environment", "entrypoints", "mixins"].map String.toList := by
      decide
    exact absent
  isIntegral := rfl

/-- The step to the version of the adapter, behind the other requirements. -/
def adapterStep : Json.Step where
  front := (dependencies request toolchain).take 3
  key := "fabric-language-kotlin"

theorem isFirst_adapterStep :
    (adapterStep request toolchain).IsFirst where
  isNew := by
    have absent :
        "fabric-language-kotlin".toList ∉
          ["fabricloader", "minecraft", "java"].map String.toList := by
      decide
    exact absent
  isIntegral := rfl

/-- The outline of the metadata from the value of what a mod depends on. -/
def dependsOutline
    (language : Language) :
    List Chunk :=
  .text "\x7b\n    \"fabricloader\": \">=".toList :: (metadataOutline language).drop 9

set_option maxRecDepth 8000 in
theorem filled_metadata_depends :
    filled request toolchain metadata =
      Json.Step.layout .indented 0 [dependsStep request toolchain] ++
        (dependsOutline request.language).flatMap
          (Chunk.fill (contextOf request toolchain)) := by
  have prints := prints_contextOf request toolchain
  rw [filled, outlineOf_of_hasOutlines hasOutlines_metadata]
  simp only [dependsOutline, metadataOutline, List.flatMap_cons, List.cons_append,
    List.nil_append, List.append_nil, List.drop_succ_cons, List.drop_zero, Chunk.fill,
    Filter.ofText, prints.modId, prints.modName, prints.mainClass]
  simp only [dependsStep, metadataDocument, Json.Value.members, List.dropLast,
    Json.Step.layout, Json.Value.layoutFront, Json.Value.layout, Json.Value.layoutMembers,
    Json.Value.layoutItems, List.append_assoc, List.cons_append, List.nil_append]
  repeat rw [String.toList_ofList]
  rfl

theorem filled_metadata_loader :
    ∃ rest,
      filled request toolchain metadata =
        Json.Step.layout .indented 0 [dependsStep request toolchain, ⟨[], "fabricloader"⟩] ++
          '"' :: (">=".toList ++ toolchain.loaderVersion ++ '"' :: ',' :: '\n' :: rest) := by
  refine
    ⟨"    \"minecraft\": ".toList ++ ((metadataOutline request.language).drop 11).flatMap
      (Chunk.fill (contextOf request toolchain)), ?_⟩
  rw [filled_metadata_depends, Json.Step.layout_cons _ _ _ [⟨[], "fabricloader"⟩],
    List.append_assoc, List.append_cancel_left_eq]
  simp only [dependsOutline, metadataOutline, List.flatMap_cons, List.cons_append,
    List.nil_append, List.append_nil, List.drop_succ_cons, List.drop_zero, Chunk.fill,
    Filter.ofText, (prints_contextOf request toolchain).loaderVersion, Json.Step.layout,
    Json.Value.layoutFront, List.append_assoc]
  rfl

theorem filled_metadata_adapter
    (isKotlin : request.language = .kotlin)
    (plainLoader : Json.IsPlain toolchain.loaderVersion) :
    ∃ rest,
      filled request toolchain metadata =
        Json.Step.layout .indented 0
            [dependsStep request toolchain, adapterStep request toolchain] ++
          '"' :: (">=".toList ++ toolchain.kotlin.fabricKotlin ++
            '"' :: ',' :: '\n' :: rest) := by
  refine ⟨"    \"fabric-api\": \"*\"\n  \x7d\n\x7d\n".toList, ?_⟩
  have loader := writeText_atLeast plainLoader
  have java := writeText_atLeast (Json.isPlain_decimal toolchain.javaVersion)
  have prints := prints_contextOf request toolchain
  rw [filled_metadata_depends, isKotlin,
    Json.Step.layout_cons _ _ _ [adapterStep request toolchain], List.append_assoc,
    List.append_cancel_left_eq]
  simp only [dependsOutline, metadataOutline, List.flatMap_cons, List.flatMap_nil,
    List.cons_append, List.nil_append, List.append_nil, List.drop_succ_cons, List.drop_zero,
    Chunk.fill, Filter.ofText, prints.loaderVersion, prints.minecraftDependency,
    prints.javaVersion, prints.fabricKotlinVersion, adapterStep, dependencies, List.take,
    Json.Step.layout, Json.Value.layoutFront, Json.Value.layout, loader, java,
    List.append_assoc]
  rfl

/-- A mod depends on what it requires, and on nothing else but the interface of the loader. -/
theorem dependencies_eq :
    dependencies request toolchain =
      (requirements request.language toolchain).map
          (fun entry => (entry.1.toList, Json.Value.text entry.2)) ++
        [("fabric-api".toList, .text ['*'])] := by
  unfold dependencies requirements
  cases request.language <;> rfl

theorem nodup_keys_dependencies :
    ((dependencies request toolchain).map Prod.fst).Nodup := by
  unfold dependencies
  cases request.language with
  | java =>
      have distinct :
          (["fabricloader", "minecraft", "java", "fabric-api"].map String.toList).Nodup := by
        decide
      exact distinct
  | kotlin =>
      have distinct :
          (["fabricloader", "minecraft", "java", "fabric-language-kotlin", "fabric-api"].map
            String.toList).Nodup := by
        decide
      exact distinct

/-- The metadata of a project has what is required of every tool. -/
theorem requires_metadataDocument :
    Requires (metadataDocument request toolchain) request.language toolchain := by
  intro entry member
  have listed :
      (entry.1.toList, Json.Value.text entry.2) ∈ dependencies request toolchain := by
    rw [dependencies_eq]
    exact List.mem_append_left _ (List.mem_map_of_mem member)
  have depends :
      (metadataDocument request toolchain).member? "depends" =
        some (.object (dependencies request toolchain)) :=
    rfl
  have found :
      (Json.Value.object (dependencies request toolchain)).member? entry.1 =
        some (.text entry.2) :=
    lookup_of_nodup (nodup_keys_dependencies request toolchain) listed
  simp only [requirementPlace, Json.Value.at?, depends, found, Option.bind_some]

/-- The metadata with two toolchains differs only in what is required of the tools. -/
theorem agreeExceptAt_metadataDocument
    (other : Toolchain) :
    Json.Value.AgreeExceptAt (requirementPlaces request.language)
      (metadataDocument request toolchain) (metadataDocument request other) := by
  unfold metadataDocument dependencies
  cases request.language <;> rfl

end

section

variable
    {request : Request}
    {toolchain : Toolchain}

theorem isPlain_of_isPlain_atLeast
    {version : Text}
    (plain : Json.IsPlain (">=".toList ++ version)) :
    Json.IsPlain version :=
  fun c member => plain c (List.mem_append_right _ member)

/-- If the metadata has what is required of every tool, its unescaped versions are plain. -/
theorem plainVersions_of_requires
    {document : Json.Value}
    (read : Json.read? (filled request toolchain metadata) = some document)
    (requires : Requires document request.language toolchain) :
    PlainVersions request.language toolchain := by
  have loader : Json.IsPlain toolchain.loaderVersion := by
    obtain ⟨rest, shape⟩ := filled_metadata_loader request toolchain
    have areFirst :
        ∀ step ∈ [dependsStep request toolchain, ⟨[], "fabricloader"⟩], step.IsFirst :=
      List.forall_mem_cons.mpr ⟨isFirst_dependsStep request toolchain,
        List.forall_mem_singleton.mpr ⟨List.not_mem_nil, rfl⟩⟩
    have found := requires ("fabricloader", ">=".toList ++ toolchain.loaderVersion)
      List.mem_cons_self
    rw [shape] at read
    exact isPlain_of_isPlain_atLeast (Json.isPlain_of_at? areFirst read found)
  refine ⟨loader, ?_⟩
  intro isKotlin
  obtain ⟨rest, shape⟩ := filled_metadata_adapter request toolchain isKotlin loader
  have areFirst :
      ∀ step ∈ [dependsStep request toolchain, adapterStep request toolchain], step.IsFirst :=
    List.forall_mem_cons.mpr ⟨isFirst_dependsStep request toolchain,
      List.forall_mem_singleton.mpr (isFirst_adapterStep request toolchain)⟩
  rw [isKotlin] at requires
  have found :=
    requires ("fabric-language-kotlin", ">=".toList ++ toolchain.kotlin.fabricKotlin)
      (List.mem_of_getElem? (rfl : (requirements .kotlin toolchain)[3]? = _))
  rw [shape] at read
  exact isPlain_of_isPlain_atLeast (Json.isPlain_of_at? areFirst read found)

/-- With plain versions, the metadata is read back. -/
theorem read?_filled_metadata
    (plain : PlainVersions request.language toolchain) :
    Json.read? (filled request toolchain metadata) =
      some (metadataDocument request toolchain) := by
  rw [filled_metadata request toolchain plain.loader plain.adapter]
  exact Json.read?_layout _ (isIntegral_metadataDocument request toolchain) (by decide)

end

/-- The metadata file of a project. -/
def metadataNames : List Text :=
  resources ++ ["fabric.mod.json".toList]

/--
For every accepted request and any two toolchains, the metadata of both projects are
documents with the same members, which differ only in what they require of the tools, and
require what the toolchains say, exactly if the versions that are printed without escapes
are plain: the one of the loader and, for Kotlin, the one of the adapter.
-/
theorem read?_metadata_agree_iff
    {fields : Request.Fields}
    {request : Request}
    (accepted : Request.ofFields fields = .ok request)
    (first second : Toolchain) :
    ∃ firstFiles secondFiles firstText secondText,
      render request.brief first.settings = .ok firstFiles ∧
        render request.brief second.settings = .ok secondFiles ∧
          contentAt? firstFiles metadataNames = some firstText ∧
            contentAt? secondFiles metadataNames = some secondText ∧
              ((∃ firstDocument secondDocument,
                  Json.read? firstText = some firstDocument ∧
                    Json.read? secondText = some secondDocument ∧
                      Json.Value.AgreeExceptAt (requirementPlaces request.language)
                          firstDocument secondDocument ∧
                        Requires firstDocument request.language first ∧
                          Requires secondDocument request.language second) ↔
                PlainVersions request.language first ∧
                  PlainVersions request.language second) := by
  have named := Request.named_of_ofFields accepted
  refine
    ⟨_, _, _, _, render_eq request first, render_eq request second,
      contentAt?_metadata named first, contentAt?_metadata named second, ?_, ?_⟩
  · rintro ⟨_, _, readFirst, readSecond, _, requiresFirst, requiresSecond⟩
    exact
      ⟨plainVersions_of_requires readFirst requiresFirst,
        plainVersions_of_requires readSecond requiresSecond⟩
  · rintro ⟨plainFirst, plainSecond⟩
    exact
      ⟨_, _, read?_filled_metadata plainFirst, read?_filled_metadata plainSecond,
        agreeExceptAt_metadataDocument request first second,
        requires_metadataDocument request first, requires_metadataDocument request second⟩

/-- Values of a toolchain whose versions hold what documents are made of. -/
def markedFields : List (Text × Json.Value) :=
  [("minecraft_version".toList, .text "1\"\n\\".toList),
   ("loader_version".toList, .text "0, \x7b: [\x7d".toList)]

/-- The toolchain with these values. -/
def markedToolchain : Toolchain :=
  { Toolchain.default with
    minecraftVersion := "1\"\n\\".toList
    loaderVersion := "0, \x7b: [\x7d".toList }

/-- Marks of documents in versions that are escaped or plain change nothing but the versions. -/
theorem read?_metadata_agree_iff_marked :
    Request.ofFields quotedFields = .ok quotedRequest ∧
      Toolchain.ofFields markedFields = .ok markedToolchain ∧
        ∃ firstFiles secondFiles firstText secondText firstDocument secondDocument,
          render quotedRequest.brief Toolchain.default.settings = .ok firstFiles ∧
            render quotedRequest.brief markedToolchain.settings = .ok secondFiles ∧
              contentAt? firstFiles metadataNames = some firstText ∧
                contentAt? secondFiles metadataNames = some secondText ∧
                  Json.read? firstText = some firstDocument ∧
                    Json.read? secondText = some secondDocument ∧
                      Json.Value.AgreeExceptAt (requirementPlaces .kotlin) firstDocument
                          secondDocument ∧
                        Requires firstDocument .kotlin Toolchain.default ∧
                          Requires secondDocument .kotlin markedToolchain := by
  have accepted : Request.ofFields quotedFields = .ok quotedRequest := rfl
  have plainDefault : PlainVersions .kotlin Toolchain.default :=
    ⟨by decide, fun _ => by decide⟩
  have plainMarked : PlainVersions .kotlin markedToolchain :=
    ⟨by decide, fun _ => by decide⟩
  obtain ⟨firstFiles, secondFiles, firstText, secondText, renderedFirst, renderedSecond,
      foundFirst, foundSecond, agree⟩ :=
    read?_metadata_agree_iff accepted Toolchain.default markedToolchain
  obtain ⟨firstDocument, secondDocument, documents⟩ := agree.mpr ⟨plainDefault, plainMarked⟩
  exact
    ⟨accepted, rfl, firstFiles, secondFiles, firstText, secondText, firstDocument,
      secondDocument, renderedFirst, renderedSecond, foundFirst, foundSecond, documents⟩

/-- Values of a toolchain with a quote in the version of the loader. -/
def quotedLoaderFields : List (Text × Json.Value) :=
  [("loader_version".toList, .text "1\"x".toList)]

/-- The toolchain with these values. -/
def quotedLoader : Toolchain :=
  { Toolchain.default with loaderVersion := "1\"x".toList }

/-- With a quote in the version of the loader, the metadata is no document. -/
theorem read?_metadata_quoted_loader :
    Request.ofFields quotedFields = .ok quotedRequest ∧
      Toolchain.ofFields quotedLoaderFields = .ok quotedLoader ∧
        ∃ files text,
          render quotedRequest.brief quotedLoader.settings = .ok files ∧
            contentAt? files metadataNames = some text ∧ Json.read? text = none := by
  have accepted : Request.ofFields quotedFields = .ok quotedRequest := rfl
  have named := Request.named_of_ofFields accepted
  refine
    ⟨accepted, rfl, _, _, render_eq quotedRequest quotedLoader,
      contentAt?_metadata named quotedLoader, ?_⟩
  rw [filled, outlineOf_of_hasOutlines hasOutlines_metadata, ← Option.isNone_iff_eq_none]
  unfold metadataOutline
  repeat rw [String.toList_ofList]
  decide +kernel

end ModSkeleton.Project
