import ModSkeleton.Proofs.Project.Sources

namespace ModSkeleton.Project

open Template

/-!
# Rendering by outlines

The slots of the bundled templates take names that the context of a project binds. So
rendering a request with a toolchain always succeeds, and each file is the outline of its
template with the slots filled (`render_eq`).
-/

/-- A source with its slots filled for a request and a toolchain. -/
def filled
    (request : Request)
    (toolchain : Toolchain)
    (source : Text) :
    Text :=
  (outlineOf request.language source).flatMap (Chunk.fill (contextOf request toolchain))

/-- A usable source renders to its outline with the slots filled. -/
theorem renderAs_of_isUsable
    (request : Request)
    (toolchain : Toolchain)
    {source : Text}
    (usable : isUsable source = true)
    (template? : Option Text) :
    renderAs template? (contextOf request toolchain) source =
      .ok (filled request toolchain source) := by
  unfold isUsable at usable
  split at usable
  case h_1 nodes parsed =>
    obtain ⟨ascii, inLanguages⟩ := Bool.and_eq_true_iff.mp usable
    have inLanguage := List.all_eq_true.mp inLanguages request.language
      (by cases request.language <;> simp)
    obtain ⟨chunks, outlined, uses⟩ := (Option.any_eq_true _ _).mp inLanguage
    have found : outlineOf? (tests request.language) source = some chunks := by
      simp only [outlineOf?, parsed, outlined]
    rw [filled, outlineOf, found]
    exact renderAs_of_outline (binds_contextOf request toolchain)
      (decides_contextOf request toolchain) (lookup_ownName_contextOf request toolchain)
      parsed (namesApart_of_isAscii ascii) outlined uses template?
  case h_2 => cases usable

theorem source?_of_walk
    {library : Library}
    {name source : Text}
    (inside : Path.parentName ∉ Path.components name)
    {location : Location}
    (walked :
      library.tree.walk true FileTree.maxLinks library.root (Path.components name) =
        .ok (.present location (.file (Text.encode source)))) :
    library.source? name = some source := by
  unfold Library.source?
  simp only [List.contains_iff_mem, inside, if_false, walked]
  exact Text.decode?_encode source

/-- Every bundled template is found under its name. -/
theorem source?_bundled :
    ∀ pair ∈ sources, bundled.source? pair.1 = some pair.2 := by
  intro pair member
  simp only [sources, List.mem_cons, List.not_mem_nil, or_false] at member
  rcases member with rfl | rfl | rfl | rfl | rfl | rfl | rfl | rfl
  all_goals exact source?_of_walk (by decide) rfl

/-- The source of the template of an item. -/
def Item.source
    (item : Item) :
    Text :=
  (sources.lookup item.template).getD []

theorem source_of_mem
    {item : Item}
    {source : Text}
    (member : (item.template, source) ∈ sources) :
    item.source = source := by
  have distinct : (sources.map Prod.fst).Nodup := by
    decide
  rw [Item.source, lookup_of_nodup distinct member]
  rfl

/-- The template of every item is bundled. -/
theorem mem_sources_of_mem_items
    {language : Language}
    {item : Item}
    (member : item ∈ items language) :
    (item.template, item.source) ∈ sources := by
  have bundledTemplates :
      ∀ item ∈ items language, item.template ∈ sources.map Prod.fst := by
    cases language <;> decide
  obtain ⟨⟨name, source⟩, inSources, sameName⟩ :=
    List.mem_map.mp (bundledTemplates item member)
  cases sameName
  rw [source_of_mem inSources]
  exact inSources

/-- The file of an item, with the slots of its path and its template filled. -/
def Item.file
    (item : Item)
    (request : Request)
    (toolchain : Toolchain) :
    File where
  names :=
    Path.components (filled request toolchain item.output)
  content :=
    filled request toolchain item.source

/-- Every item of a project renders to its file. -/
theorem renderItem_eq
    (request : Request)
    (toolchain : Toolchain)
    {item : Item}
    (member : item ∈ items request.language) :
    renderItem (contextOf request toolchain) item = .ok (item.file request toolchain) := by
  have isBundled := mem_sources_of_mem_items member
  have output : renderSource (contextOf request toolchain) item.output = _ :=
    renderAs_of_isUsable request toolchain (isUsable_outputs _ item member) none
  have content :=
    renderAs_of_isUsable request toolchain (isUsable_sources _ isBundled) (some item.template)
  simp only [renderItem, output, Library.render, source?_bundled _ isBundled, content]
  rfl

theorem renderItems_of_forall
    {context : Context}
    {items : List Item}
    {file : Item → File}
    (each : ∀ item ∈ items, renderItem context item = .ok (file item)) :
    renderItems context items = .ok (items.map file) := by
  induction items with
  | nil => rfl
  | cons item later inductionHypothesis =>
      have first := each item List.mem_cons_self
      have rest :=
        inductionHypothesis (fun other member => each other (List.mem_cons_of_mem _ member))
      simp only [renderItems, first, rest, List.map_cons]

/-- The files of the project of a request with a toolchain. -/
def filesOf
    (request : Request)
    (toolchain : Toolchain) :
    List File :=
  (items request.language).map fun item => item.file request toolchain

theorem length_filesOf
    (request : Request)
    (toolchain : Toolchain) :
    (filesOf request toolchain).length = 7 := by
  rw [filesOf, List.length_map, length_items]

/-- Rendering a request with a toolchain succeeds with the files of its items. -/
theorem render_eq
    (request : Request)
    (toolchain : Toolchain) :
    render request.brief toolchain.settings = .ok (filesOf request toolchain) := by
  unfold render
  rw [context_eq]
  exact renderItems_of_forall fun _ member => renderItem_eq request toolchain member

end ModSkeleton.Project
