import ModSkeleton.Proofs.Path.Printing
import ModSkeleton.Proofs.Template.Directories

namespace ModSkeleton

open FileTree Workspace

/-!
# Listings of template libraries

The listing of a library has the names of exactly those entries, at any depth, that have the
ending of templates. Names are written as paths and stand in strictly increasing order. The
listing of a directory is the part of it that stands below this directory; what is no
directory has an empty listing. There is no listing at all if looking up the directory is
refused, or if the listing gets to a directory that is nested too deep or cannot be listed
(`Library.Refuses`), and what stands below a directory that may not be listed is left out
(`Library.Hides`). On a host without faults this is so only where a path is too long
(`Library.refuses_faultless_iff`).
-/

namespace Text

/-- Sorting distinct texts leaves them in strictly increasing order. -/
theorem pairwise_lt_mergeSort
    {texts : List Text}
    (distinct : texts.Nodup) :
    (texts.mergeSort precedes).Pairwise (· < ·) := by
  have transitive :
      ∀ first second third : Text,
        precedes first second = true → precedes second third = true →
        precedes first third = true := by
    intro first second third
    simp only [precedes, Bool.not_eq_true', decide_eq_false_iff_not, List.not_lt]
    exact List.le_trans
  have total :
      ∀ first second : Text, (precedes first second || precedes second first) = true := by
    intro first second
    simp only [precedes, Bool.or_eq_true, Bool.not_eq_true', decide_eq_false_iff_not,
      List.not_lt]
    exact List.le_total first second
  have sorted := List.pairwise_mergeSort transitive total texts
  have stillDistinct := (List.mergeSort_perm texts precedes).nodup_iff.mpr distinct
  refine (sorted.and stillDistinct).imp ?_
  rintro first second ⟨inOrder, different⟩
  simp only [precedes, Bool.not_eq_true', decide_eq_false_iff_not, List.not_lt] at inOrder
  refine Decidable.byContradiction fun notLess => ?_
  exact different (List.le_antisymm inOrder (List.not_lt.mp notLess))

/-- Texts in strictly increasing order are determined by which texts they are. -/
theorem eq_of_pairwise_lt
    {first second : List Text}
    (firstSorted : first.Pairwise (· < ·))
    (secondSorted : second.Pairwise (· < ·))
    (same : ∀ text, text ∈ first ↔ text ∈ second) :
    first = second := by
  have distinct : ∀ {texts : List Text}, texts.Pairwise (· < ·) → texts.Nodup := by
    intro texts sorted
    refine sorted.imp ?_
    rintro text _ smaller rfl
    exact List.lt_irrefl text smaller
  have permuted : first.Perm second :=
    (List.perm_ext_iff_of_nodup (distinct firstSorted) (distinct secondSorted)).mpr same
  refine permuted.eq_of_pairwise ?_ firstSorted secondSorted
  intro one other _ _ smaller larger
  exact absurd (List.lt_trans smaller larger) (List.lt_irrefl one)

end Text

namespace Template.Library

/-- A text that names an entry below a location that has the ending of templates. -/
def IsName
    (library : Library)
    (text : Text) :
    Prop :=
  ∃ names entry,
    names ≠ [] ∧
      library.tree.get? (library.root ++ names) = some entry ∧
        ending <:+ names.getLastD [] ∧ text = Text.joinWith ['/'] names

/-- Whether a path text leads strictly below a directory by its components. -/
def isBelow
    (parts : List Text)
    (text : Text) :
    Bool :=
  parts.isPrefixOf (Path.components text) && parts.length < (Path.components text).length

/-- The names of all templates in a library, in code point order. -/
def allNames
    (library : Library) :
    List Text :=
  ((((library.tree.below library.root).map Prod.fst).filter fun names =>
    ending.isSuffixOf (names.getLastD [])).map (Text.joinWith ['/'])).mergeSort Text.precedes

section

variable
    {library : Library}
    (ordinary : library.tree.IsOrdinary)

include ordinary

theorem components_of_isName
    {names : List Text}
    {entry : Entry}
    (found : library.tree.get? (library.root ++ names) = some entry) :
    Path.components (Text.joinWith ['/'] names) = names := by
  apply Path.components_joinWith
  intro name member
  exact (ordinary.isComponent found name (List.mem_append_right _ member)).isPart

theorem mem_allNames_iff
    {text : Text} :
    text ∈ library.allNames ↔ library.IsName text := by
  rw [allNames, List.mem_mergeSort, List.mem_map]
  constructor
  · rintro ⟨names, member, rfl⟩
    obtain ⟨inTree, ends⟩ := List.mem_filter.mp member
    obtain ⟨⟨_, entry⟩, isBelow, rfl⟩ := List.mem_map.mp inTree
    obtain ⟨notEmpty, found⟩ := ordinary.mem_below_iff.mp isBelow
    exact ⟨_, entry, notEmpty, found, List.isSuffixOf_iff_suffix.mp ends, rfl⟩
  · rintro ⟨names, entry, notEmpty, found, ends, rfl⟩
    refine ⟨names, List.mem_filter.mpr ⟨?_, List.isSuffixOf_iff_suffix.mpr ends⟩, rfl⟩
    exact List.mem_map.mpr ⟨(names, entry), ordinary.mem_below_iff.mpr ⟨notEmpty, found⟩, rfl⟩

/-- All names stand in strictly increasing order. -/
theorem pairwise_allNames :
    library.allNames.Pairwise (· < ·) := by
  apply Text.pairwise_lt_mergeSort
  refine List.pairwise_map.mpr (List.Pairwise.imp_of_mem ?_
    ((ordinary.nodup_names_below library.root).filter _))
  intro first second firstMember secondMember different same
  have components :
      ∀ names ∈ ((library.tree.below library.root).map Prod.fst).filter
          fun names => ending.isSuffixOf (names.getLastD []),
        Path.components (Text.joinWith ['/'] names) = names := by
    intro names member
    obtain ⟨⟨_, entry⟩, isBelow, rfl⟩ := List.mem_map.mp (List.mem_filter.mp member).1
    exact components_of_isName ordinary (ordinary.mem_below_iff.mp isBelow).2
  have sameNames := congrArg Path.components same
  rw [components first firstMember, components second secondMember] at sameNames
  exact different sameNames

end

section

variable
    (library : Library)
    (host : Host)
    (parts : List Text)

/--
A directory of the library has no listing: looking it up is refused, or its listing gets to a
directory that is nested too deep or cannot be listed.
-/
def Refuses :
    Prop :=
  (∃ fault,
      host.find? library.workspace ⟨.absolute, library.root ++ parts⟩ = .error fault) ∨
    library.FailsBelow host (library.maxDepth host) (library.root ++ parts)

/-- A name stands below a directory that a listing gets to but may not list. -/
def Hides
    (name : Text) :
    Prop :=
  ∃ names back,
    Path.components name = parts ++ names ++ back ∧
      back ≠ [] ∧
        library.Reaches host (library.root ++ parts) names ∧
          library.PassesOver host (library.root ++ parts ++ names)

end

section

variable
    {library : Library}
    (ordinary : library.tree.IsOrdinary)

include ordinary

omit ordinary in
/-- A template that is found has a name from the root of the library on. -/
theorem Finds.path_eq
    {host : Host}
    {parts : List Text}
    {path : Path}
    (finds : library.Finds host (library.root ++ parts) path) :
    ∃ further, path = ⟨.absolute, library.root ++ further⟩ := by
  obtain ⟨names, name, _, _, _, _, rfl⟩ := finds
  exact ⟨parts ++ names ++ [name], by simp only [List.append_assoc]⟩

/-- The names that lead to what is found are read back from its name. -/
theorem Finds.components
    {host : Host}
    {parts further : List Text}
    (finds : library.Finds host (library.root ++ parts) ⟨.absolute, library.root ++ further⟩) :
    Path.components (Text.joinWith ['/'] further) = further := by
  obtain ⟨names, name, _, _, ⟨entry, found⟩, _, isPath⟩ := finds
  have same : library.root ++ further = library.root ++ parts ++ names ++ [name] :=
    congrArg Path.parts isPath
  rw [← same] at found
  exact components_of_isName ordinary found

/-- What is found below a directory has a name below it that is not hidden. -/
theorem Finds.isName
    {host : Host}
    {parts further : List Text}
    (finds : library.Finds host (library.root ++ parts) ⟨.absolute, library.root ++ further⟩) :
    library.IsName (Text.joinWith ['/'] further) ∧
      isBelow parts (Text.joinWith ['/'] further) = true ∧
        ¬library.Hides host parts (Text.joinWith ['/'] further) := by
  obtain ⟨names, name, reaches, opensLast, ⟨entry, found⟩, ends, isPath⟩ := finds
  obtain rfl : further = parts ++ (names ++ [name]) := by
    have same : library.root ++ further = library.root ++ parts ++ names ++ [name] :=
      congrArg Path.parts isPath
    simpa only [List.append_assoc, List.append_cancel_left_eq] using same
  have foundBelow :
      library.tree.get? (library.root ++ (parts ++ (names ++ [name]))) = some entry := by
    simpa only [List.append_assoc] using found
  have components := components_of_isName ordinary foundBelow
  refine ⟨⟨_, entry, by simp, foundBelow, ?_, rfl⟩, ?_, ?_⟩
  · rwa [← List.append_assoc, List.getLastD_concat]
  · rw [isBelow, components, Bool.and_eq_true, List.isPrefixOf_iff_prefix, decide_eq_true_eq]
    exact ⟨List.prefix_append _ _, by simp⟩
  · rintro ⟨upper, back, shape, notEmpty, _, fault, refused, _⟩
    obtain ⟨lower, last, rfl⟩ := (List.eq_nil_or_concat back).resolve_left notEmpty
    rw [components, List.append_assoc, List.append_cancel_left_eq, List.concat_eq_append,
      ← List.append_assoc] at shape
    obtain ⟨isFront, _⟩ := List.append_inj' shape rfl
    have notOpen := not_opens_of_error refused
    by_cases whole : lower = []
    · rw [whole, List.append_nil] at isFront
      rw [isFront] at opensLast
      exact notOpen opensLast
    · exact notOpen (reaches.opens upper lower isFront whole)

/-- A name below a directory that is not hidden is found, if nothing fails. -/
theorem finds_of_isName
    {host : Host}
    {parts : List Text}
    {depth : Nat}
    (complete : ¬library.FailsBelow host depth (library.root ++ parts))
    {name : Text}
    (isName : library.IsName name)
    (below : isBelow parts name = true)
    (shown : ¬library.Hides host parts name) :
    ∃ further,
      library.Finds host (library.root ++ parts) ⟨.absolute, library.root ++ further⟩ ∧
        name = Text.joinWith ['/'] further := by
  obtain ⟨names, entry, _, found, ends, rfl⟩ := isName
  have components := components_of_isName ordinary found
  rw [isBelow, components, Bool.and_eq_true, List.isPrefixOf_iff_prefix, decide_eq_true_eq]
    at below
  obtain ⟨⟨rest, rfl⟩, longer⟩ := below
  have notEmpty : rest ≠ [] := by
    rintro rfl
    simp at longer
  obtain ⟨front, last, rfl⟩ := (List.eq_nil_or_concat rest).resolve_left notEmpty
  rw [List.concat_eq_append] at components ends found shown ⊢
  have opensOnWay :
      ∀ upper lower,
        front ++ [last] = upper ++ lower →
        lower ≠ [] →
        library.Reaches host (library.root ++ parts) upper →
        library.Opens host (library.root ++ parts ++ upper) := by
    intro upper lower shape further reaches
    rcases opens_cases ordinary reaches.directory with opened | passes | fails
    · exact ⟨_, opened⟩
    · refine (shown ⟨upper, lower, ?_, further, reaches, passes⟩).elim
      rw [components, shape, List.append_assoc]
    · exact (complete ⟨upper, reaches, .inr fails⟩).elim
  have foundBelow :
      library.tree.get? (library.root ++ parts ++ front ++ [last]) = some entry := by
    simpa only [List.append_assoc] using found
  have reachesFront : library.Reaches host (library.root ++ parts) front := by
    refine reaches_of_opens ordinary (ordinary.wellFormed _ _ _ foundBelow) ?_
    intro upper lower shape further reaches
    exact opensOnWay upper (lower ++ [last]) (by rw [shape, List.append_assoc]) (by simp) reaches
  have opensFront := opensOnWay front [last] rfl (by simp) reachesFront
  refine ⟨parts ++ (front ++ [last]), ?_, rfl⟩
  refine ⟨front, last, reachesFront, opensFront, ⟨entry, foundBelow⟩, ?_, ?_⟩
  · rwa [← List.append_assoc, List.getLastD_concat] at ends
  · simp only [List.append_assoc]

end

section

variable
    {library : Library}
    (ordinary : library.tree.IsOrdinary)
    (root : library.tree.get? library.root = some .directory)
    {text : Text}
    (noParent : Path.parentName ∉ Path.components text)

include ordinary root noParent

theorem areNames_root_append :
    AreNames (library.root ++ Path.components text) := by
  intro name member
  rcases List.mem_append.mp member with inRoot | inText
  · have component := ordinary.isComponent root name inRoot
    exact ⟨component.notParent, component.notCurrent⟩
  · refine ⟨?_, (Path.isPart_of_mem_components inText).notCurrent⟩
    rintro rfl
    exact noParent inText

/-- A directory of the library that is looked up is found exactly if it is there. -/
theorem find?_root_append
    (host : Host) :
    (∃ fault,
        host.find? library.workspace ⟨.absolute, library.root ++ Path.components text⟩ =
          .error fault) ∨
      ∃ found,
        host.find? library.workspace ⟨.absolute, library.root ++ Path.components text⟩ =
            .ok found ∧
          ((∃ location, found = some (location, .directory)) ↔
            library.tree.get? (library.root ++ Path.components text) = some .directory) := by
  have areNames := areNames_root_append ordinary root noParent
  rcases find?_cases host library.workspace
      ⟨.absolute, library.root ++ Path.components text⟩ with ⟨fault, refused⟩ | same
  · exact .inl ⟨_, refused⟩
  rw [same]
  by_cases refused : IsRefused library.tree (library.root ++ Path.components text)
  · exact .inl ⟨_, find?_of_isRefused ordinary.wellFormed ordinary.linkFree areNames refused⟩
  by_cases here : library.tree.get? (library.root ++ Path.components text) = some .directory
  · have found :=
      find?_of_directory ordinary.wellFormed ordinary.linkFree areNames refused
        (ordinary.noNull here) here
    exact .inr ⟨_, found, fun _ => here, fun _ => ⟨_, rfl⟩⟩
  · obtain ⟨found, looked, noDirectory⟩ :=
      find?_of_not_directory ordinary.wellFormed ordinary.linkFree areNames refused here
    refine .inr ⟨found, looked, ?_, fun there => (here there).elim⟩
    rintro ⟨location, isDirectory⟩
    exact (noDirectory location isDirectory).elim

variable
    (relative : Path.rootOf text = .relative)
    (host : Host)

include relative

omit ordinary root noParent in
/-- A relative path is looked up from the root of the library on. -/
theorem pathOf_parse :
    library.pathOf (Path.parse text) = ⟨.absolute, library.root ++ Path.components text⟩ := by
  simp only [pathOf, Path.parse, relative, if_true]

omit root noParent in
/-- Where a listing has found its templates, they are listed by their names. -/
theorem list_of_paths
    (here :
      library.tree.get? (library.root ++ Path.components text) = some .directory)
    {location : Location}
    (found :
      host.find? library.workspace ⟨.absolute, library.root ++ Path.components text⟩ =
        .ok (some (location, .directory)))
    {paths : List Path}
    (listed :
      library.pathsBelow host (library.maxDepth host)
          ⟨.absolute, library.root ++ Path.components text⟩ =
        .ok paths) :
    library.list host (Path.parse text) =
      .ok
        ((paths.map fun path =>
          Text.joinWith ['/'] (path.parts.drop library.root.length)).mergeSort
            Text.precedes) := by
  have named :
      ∀ path ∈ paths,
        library.nameAt path =
          .ok (Text.joinWith ['/'] (path.parts.drop library.root.length)) := by
    intro path member
    have finds := ((pathsBelow_finds ordinary here listed).2 path).mp member
    obtain ⟨further, rfl⟩ := finds.path_eq
    rw [nameAt, if_pos ⟨rfl, List.prefix_append _ _⟩]
  simp only [list, pathOf_parse relative, found, listed, mapM_of_ok named]

omit ordinary root noParent in
/-- What is no directory has an empty listing. -/
theorem list_of_not_directory
    {found : Option (Location × Entry)}
    (looked :
      host.find? library.workspace ⟨.absolute, library.root ++ Path.components text⟩ = .ok found)
    (notDirectory : ¬∃ location, found = some (location, .directory)) :
    library.list host (Path.parse text) = .ok [] := by
  simp only [list, pathOf_parse relative, looked]
  split
  case h_1 => contradiction
  case h_2 location same =>
    cases same
    exact (notDirectory ⟨_, rfl⟩).elim
  case h_3 => rfl

/-- A directory has no listing exactly if the library refuses it one. -/
theorem list_fails_iff :
    (∃ fault, library.list host (Path.parse text) = .error fault) ↔
      library.Refuses host (Path.components text) := by
  unfold Refuses
  rcases find?_root_append ordinary root noParent host with
    ⟨fault, refused⟩ | ⟨found, looked, isDirectory⟩
  · simp only [list, pathOf_parse relative, refused, Except.error.injEq, exists_eq', true_or]
  · have notRefused :
        ¬∃ fault,
          host.find? library.workspace ⟨.absolute, library.root ++ Path.components text⟩ =
            .error fault := by
      rw [looked]
      exact nofun
    rw [or_iff_right notRefused]
    by_cases here : library.tree.get? (library.root ++ Path.components text) = some .directory
    · obtain ⟨location, rfl⟩ := isDirectory.mpr here
      rw [← pathsBelow_fails_iff ordinary here]
      cases listed :
          library.pathsBelow host (library.maxDepth host)
            ⟨.absolute, library.root ++ Path.components text⟩ with
      | error fault => simp [list, pathOf_parse relative, looked, listed]
      | ok paths => simp [list_of_paths ordinary relative host here looked listed]
    · rw [list_of_not_directory relative host looked (fun found => here (isDirectory.mp found))]
      refine ⟨nofun, ?_⟩
      rintro ⟨names, reaches, _⟩
      exact (here (reaches.start_directory ordinary)).elim

/-- A listing that does not fail has the names below the directory that are not hidden. -/
theorem list_eq_ok
    {listed : List Text}
    (succeeds : library.list host (Path.parse text) = .ok listed) :
    listed.Pairwise (· < ·) ∧
      ∀ name,
        name ∈ listed ↔
          library.tree.get? (library.root ++ Path.components text) = some .directory ∧
            library.IsName name ∧
              isBelow (Path.components text) name = true ∧
                ¬library.Hides host (Path.components text) name := by
  have complete : ¬library.Refuses host (Path.components text) := by
    rw [← list_fails_iff ordinary root noParent relative host, succeeds]
    exact nofun
  rcases find?_root_append ordinary root noParent host with
    ⟨fault, refused⟩ | ⟨found, looked, isDirectory⟩
  · exact (complete (.inl ⟨fault, refused⟩)).elim
  by_cases here : library.tree.get? (library.root ++ Path.components text) = some .directory
  · obtain ⟨location, rfl⟩ := isDirectory.mpr here
    cases gone :
        library.pathsBelow host (library.maxDepth host)
          ⟨.absolute, library.root ++ Path.components text⟩ with
    | error fault =>
        exact (complete (.inr ((pathsBelow_fails_iff ordinary here _).mp ⟨fault, gone⟩))).elim
    | ok paths =>
        rw [list_of_paths ordinary relative host here looked gone] at succeeds
        cases succeeds
        obtain ⟨distinct, isFound⟩ := pathsBelow_finds ordinary here gone
        have fails : ¬library.FailsBelow host _ (library.root ++ Path.components text) :=
          fun fails => complete (.inr fails)
        refine ⟨Text.pairwise_lt_mergeSort (distinct.map_on ?_), fun name => ?_⟩
        · intro first firstMember second secondMember same
          have firstFinds := (isFound first).mp firstMember
          have secondFinds := (isFound second).mp secondMember
          obtain ⟨firstNames, rfl⟩ := firstFinds.path_eq
          obtain ⟨secondNames, rfl⟩ := secondFinds.path_eq
          simp only [List.drop_left] at same
          have sameNames := congrArg Path.components same
          rw [firstFinds.components ordinary, secondFinds.components ordinary] at sameNames
          rw [sameNames]
        · rw [List.mem_mergeSort, List.mem_map]
          constructor
          · rintro ⟨path, member, rfl⟩
            have finds := (isFound path).mp member
            obtain ⟨further, rfl⟩ := finds.path_eq
            rw [List.drop_left]
            exact ⟨here, finds.isName ordinary⟩
          · rintro ⟨_, isName, below, shown⟩
            obtain ⟨further, finds, rfl⟩ := finds_of_isName ordinary fails isName below shown
            exact ⟨_, (isFound _).mpr finds, by rw [List.drop_left]⟩
  · rw [list_of_not_directory relative host looked (fun found => here (isDirectory.mp found))]
      at succeeds
    cases succeeds
    refine ⟨List.Pairwise.nil, fun name => ⟨nofun, fun inside => (here inside.1).elim⟩⟩

end

/-- What a directory of a library is listed as, or why it is not. -/
structure ListsAt
    (library : Library)
    (host : Host)
    (all : List Text)
    (text : Text) :
    Prop where
  refused :
    (∃ fault, library.list host (Path.parse text) = .error fault) ↔
      library.Refuses host (Path.components text)
  sorted :
    ∀ listed,
      library.list host (Path.parse text) = .ok listed →
      listed.Pairwise (· < ·)
  names :
    ∀ listed,
      library.list host (Path.parse text) = .ok listed →
      ∀ name,
        name ∈ listed ↔
          library.tree.get? (library.root ++ Path.components text) = some .directory ∧
            name ∈ all ∧
              isBelow (Path.components text) name = true ∧
                ¬library.Hides host (Path.components text) name
  whole :
    ¬library.Refuses host (Path.components text) →
    (∀ name, ¬library.Hides host (Path.components text) name) →
    library.list host (Path.parse text) =
      .ok
        (if library.tree.get? (library.root ++ Path.components text) = some .directory then
          all.filter (isBelow (Path.components text))
        else [])

/--
There is one list of the names of all entries of a library with the ending of templates, in
strictly increasing order. On every host, a relative path without steps up has no listing if
that is refused; otherwise its listing has those names, in this order, that stand below it
and are not hidden, and is empty if no directory is there. If nothing is refused or hidden,
the listing of the whole library has all names.
-/
theorem list_templates
    (host : Host)
    {library : Library}
    (ordinary : library.tree.IsOrdinary)
    (root : library.tree.get? library.root = some .directory) :
    ∃ all : List Text,
      all.Pairwise (· < ·) ∧
        (∀ text, text ∈ all ↔ library.IsName text) ∧
          (¬library.Refuses host [] →
            (∀ name, ¬library.Hides host [] name) →
            library.list host (Path.parse []) = .ok all) ∧
            ∀ text,
              Path.rootOf text = .relative →
              Path.parentName ∉ Path.components text →
              library.ListsAt host all text := by
  have listsAt :
      ∀ text,
        Path.rootOf text = .relative →
        Path.parentName ∉ Path.components text →
        library.ListsAt host library.allNames text := by
    intro text relative noParent
    have refused := list_fails_iff ordinary root noParent relative host
    have names :
        ∀ listed,
          library.list host (Path.parse text) = .ok listed →
          ∀ name,
            name ∈ listed ↔
              library.tree.get? (library.root ++ Path.components text) = some .directory ∧
                name ∈ library.allNames ∧
                  isBelow (Path.components text) name = true ∧
                    ¬library.Hides host (Path.components text) name := by
      intro listed succeeds name
      rw [mem_allNames_iff ordinary]
      exact (list_eq_ok ordinary root noParent relative host succeeds).2 name
    refine
      { refused
        sorted := fun listed succeeds =>
          (list_eq_ok ordinary root noParent relative host succeeds).1
        names
        whole := ?_ }
    intro admits shown
    cases succeeds : library.list host (Path.parse text) with
    | error fault => exact (admits (refused.mp ⟨fault, succeeds⟩)).elim
    | ok listed =>
        have sorted := (list_eq_ok ordinary root noParent relative host succeeds).1
        congr 1
        apply Text.eq_of_pairwise_lt sorted
        · split
          case isTrue => exact (pairwise_allNames ordinary).filter _
          case isFalse => exact List.Pairwise.nil
        · intro name
          rw [names listed succeeds name]
          split
          case isTrue here => simp [here, shown, List.mem_filter]
          case isFalse notHere => simp [notHere]
  refine
    ⟨library.allNames, pairwise_allNames ordinary, fun _ => mem_allNames_iff ordinary, ?_,
      listsAt⟩
  intro admits shown
  have here : library.tree.get? (library.root ++ []) = some .directory := by
    rw [List.append_nil, root]
  have listed := (listsAt [] rfl (by decide)).whole admits shown
  have every : library.allNames.filter (isBelow []) = library.allNames := by
    apply List.filter_eq_self.mpr
    intro name member
    obtain ⟨names, entry, notEmpty, found, _, rfl⟩ := (mem_allNames_iff ordinary).mp member
    rw [isBelow, components_of_isName ordinary found]
    simpa using List.length_pos_iff.mpr notEmpty
  have noComponents : Path.components [] = [] := rfl
  rwa [noComponents, if_pos here, every] at listed

section

variable
    {library : Library}
    (ordinary : library.tree.IsOrdinary)

include ordinary

/-- On a host without faults, a directory whose path is too long cannot be listed. -/
theorem openDirectory_of_isRefused
    {location : Location}
    (here : library.tree.get? location = some .directory)
    (refused : IsRefused library.tree location) :
    library.openDirectory .faultless ⟨.absolute, location⟩ = .error (.system .nameTooLong) := by
  have located :
      library.workspace.locate true ⟨.absolute, location⟩ = .error (.system .nameTooLong) :=
    locate_of_isRefused ordinary.wellFormed ordinary.linkFree (areNames_of_get? ordinary here)
      refused
  simp only [openDirectory, locate_faultless, located]

/-- On a host without faults, every other directory can be listed. -/
theorem opens_of_admitted
    {location : Location}
    (here : library.tree.get? location = some .directory)
    (admitted : ¬IsRefused library.tree location) :
    library.Opens .faultless location := by
  have located :
      library.workspace.locate true ⟨.absolute, location⟩ =
        .ok (.present location .directory) :=
    locate_of_directory ordinary.wellFormed ordinary.linkFree (areNames_of_get? ordinary here)
      admitted (ordinary.noNull here) here
  exact ⟨_, by simp only [openDirectory, locate_faultless, located, Host.namesIn]; rfl⟩

/-- On a host without faults, no directory is passed over. -/
theorem not_passesOver_faultless
    {location : Location}
    (here : library.tree.get? location = some .directory) :
    ¬library.PassesOver .faultless location := by
  rintro ⟨fault, failed, passed⟩
  by_cases refused : IsRefused library.tree location
  · rw [openDirectory_of_isRefused ordinary here refused] at failed
    cases failed
    cases passed
  · exact not_opens_of_error failed (opens_of_admitted ordinary here refused)

theorem not_hides_faultless
    (parts : List Text)
    (name : Text) :
    ¬library.Hides .faultless parts name := by
  rintro ⟨_, _, _, _, reaches, passes⟩
  exact not_passesOver_faultless ordinary reaches.directory passes

/--
On a host without faults, a directory has no listing exactly if its own path, or that of a
directory below it, is too long.
-/
theorem refuses_faultless_iff
    (root : library.tree.get? library.root = some .directory)
    {text : Text}
    (noParent : Path.parentName ∉ Path.components text) :
    library.Refuses .faultless (Path.components text) ↔
      IsRefused library.tree (library.root ++ Path.components text) ∨
        ∃ names,
          library.tree.get? (library.root ++ Path.components text ++ names) =
              some .directory ∧
            IsRefused library.tree (library.root ++ Path.components text ++ names) := by
  have areNames := areNames_root_append ordinary root noParent
  constructor
  · rintro (⟨fault, failed⟩ | ⟨names, reaches, deep | ⟨fault, failed, _⟩⟩)
    · refine .inl ?_
      by_contra admitted
      obtain ⟨found, looked⟩ :
          ∃ found,
            library.workspace.find? ⟨.absolute, library.root ++ Path.components text⟩ =
              .ok found := by
        by_cases here :
            library.tree.get? (library.root ++ Path.components text) = some .directory
        · exact
            ⟨_, find?_of_directory ordinary.wellFormed ordinary.linkFree areNames admitted
              (ordinary.noNull here) here⟩
        · obtain ⟨found, looked, _⟩ :=
            find?_of_not_directory ordinary.wellFormed ordinary.linkFree areNames admitted here
          exact ⟨found, looked⟩
      rw [Workspace.find?, failed] at looked
      cases looked
    · have bound := ordinary.length_le_of_get? reaches.directory
      rw [List.length_append] at bound
      have room : library.maxDepth .faultless = library.tree.entries.length := rfl
      omega
    · refine .inr ⟨names, reaches.directory, ?_⟩
      by_contra admitted
      exact
        not_opens_of_error failed (opens_of_admitted ordinary reaches.directory admitted)
  · rintro (refused | ⟨names, here, refused⟩)
    · exact
        .inl ⟨_, find?_of_isRefused ordinary.wellFormed ordinary.linkFree areNames refused⟩
    · refine .inr ?_
      by_contra complete
      have reaches :
          library.Reaches .faultless (library.root ++ Path.components text) names := by
        refine reaches_of_opens ordinary here ?_
        intro front back _ _ reachesFront
        rcases opens_cases ordinary reachesFront.directory with opened | passes | fails
        · exact ⟨_, opened⟩
        · exact (not_passesOver_faultless ordinary reachesFront.directory passes).elim
        · exact (complete ⟨front, reachesFront, .inr fails⟩).elim
      have failed := openDirectory_of_isRefused ordinary here refused
      exact complete ⟨names, reaches, .inr ⟨_, failed, rfl⟩⟩

end

/-- A library with a hidden name, a directory with the ending and similar directory names. -/
def sampleLibrary : Library :=
  ofFilesAt ["t".toList]
    [("a/.j2".toList, []), ("a/d.j2/x.txt".toList, []), ("a-b/y.j2".toList, []),
     ("z.txt".toList, [])]

theorem isOrdinary_sampleLibrary :
    sampleLibrary.tree.IsOrdinary where
  unique := by decide
  components := by decide
  wellFormed := FileTree.wellFormed_of_entries (by decide)
  linkFree := FileTree.linkFree_of_entries (by decide)

/-- Every path in this library is short enough. -/
theorem not_refuses_sampleLibrary
    {text : Text}
    (noParent : Path.parentName ∉ Path.components text)
    (short : ¬IsRefused sampleLibrary.tree (sampleLibrary.root ++ Path.components text)) :
    ¬sampleLibrary.Refuses .faultless (Path.components text) := by
  have shortEntries :
      ∀ pair ∈ sampleLibrary.tree.entries,
        Text.utf8Size (Path.toText ⟨.absolute, pair.1⟩) ≤ maxPathSize ∧
          ∀ name ∈ pair.1, Text.utf8Size name ≤ maxNameSize := by
    decide
  rw [refuses_faultless_iff isOrdinary_sampleLibrary (by decide) noParent]
  rintro (refused | ⟨names, here, refused⟩)
  · exact short refused
  · revert refused
    by_cases isRoot : sampleLibrary.root ++ Path.components text ++ names = []
    · rw [isRoot]
      exact not_isRefused_of_short (by decide) (by decide)
    · obtain ⟨shortPath, shortNames⟩ := shortEntries _ (mem_entries_of_get? isRoot here)
      exact not_isRefused_of_short shortPath shortNames

/-- Names are listed by code points, hidden ones and those of directories as well. -/
theorem list_templates_sample :
    sampleLibrary.tree.IsOrdinary ∧
      sampleLibrary.tree.get? sampleLibrary.root = some .directory ∧
        ∃ all,
          sampleLibrary.list .faultless (Path.parse []) = .ok all ∧
            all.Pairwise (· < ·) ∧
              "a-b/y.j2".toList ∈ all ∧
                "a/.j2".toList ∈ all ∧
                  "a/d.j2".toList ∈ all ∧
                    sampleLibrary.list .faultless (Path.parse "./a//".toList) =
                        .ok (all.filter (isBelow ["a".toList])) ∧
                      sampleLibrary.list .faultless (Path.parse "z.txt".toList) = .ok [] := by
  have root : sampleLibrary.tree.get? sampleLibrary.root = some .directory := by
    decide
  obtain ⟨all, sorted, listed, whole, below⟩ :=
    list_templates .faultless isOrdinary_sampleLibrary root
  have shown := not_hides_faultless isOrdinary_sampleLibrary
  have admits :
      ∀ text ∈ [[], "./a//".toList, "z.txt".toList],
        ¬sampleLibrary.Refuses .faultless (Path.components text) := by
    intro text member
    have proper :
        ∀ text ∈ [[], "./a//".toList, "z.txt".toList],
          Path.parentName ∉ Path.components text ∧
            Text.utf8Size
                  (Path.toText ⟨.absolute, sampleLibrary.root ++ Path.components text⟩) ≤
                maxPathSize ∧
              ∀ name ∈ sampleLibrary.root ++ Path.components text,
                Text.utf8Size name ≤ maxNameSize := by
      decide
    obtain ⟨noParent, shortPath, shortNames⟩ := proper text member
    exact not_refuses_sampleLibrary noParent (not_isRefused_of_short shortPath shortNames)
  refine
    ⟨isOrdinary_sampleLibrary, root, all, whole (admits [] (by decide)) (shown []), sorted, ?_,
      ?_, ?_, ?_, ?_⟩
  · exact (listed _).mpr ⟨["a-b".toList, "y.j2".toList], .file [], by decide⟩
  · exact (listed _).mpr ⟨["a".toList, ".j2".toList], .file [], by decide⟩
  · exact (listed _).mpr ⟨["a".toList, "d.j2".toList], .directory, by decide⟩
  · exact (below "./a//".toList (by decide) (by decide)).whole (admits _ (by decide)) (shown _)
  · exact (below "z.txt".toList (by decide) (by decide)).whole (admits _ (by decide)) (shown _)

/-- A name that no directory can hold. -/
def overlongName : Text :=
  List.replicate 256 'a'

/-- Nothing stands under a name that is too long, and yet its listing is not empty but fails. -/
theorem list_overlongName :
    Path.rootOf overlongName = .relative ∧
      Path.parentName ∉ Path.components overlongName ∧
        sampleLibrary.tree.get? (sampleLibrary.root ++ Path.components overlongName) = none ∧
          sampleLibrary.list .faultless (Path.parse overlongName) =
            .error
              (.access (.system .nameTooLong)
                ⟨.absolute, sampleLibrary.root ++ Path.components overlongName⟩) := by
  have relative : Path.rootOf overlongName = .relative := by
    decide +kernel
  have noParent : Path.parentName ∉ Path.components overlongName := by
    decide +kernel
  have nothing :
      sampleLibrary.tree.get? (sampleLibrary.root ++ Path.components overlongName) = none := by
    decide +kernel
  have refused :
      Host.faultless.find? sampleLibrary.workspace
          ⟨.absolute, sampleLibrary.root ++ Path.components overlongName⟩ =
        .error .nameTooLong := by
    decide +kernel
  refine ⟨relative, noParent, nothing, ?_⟩
  simp only [list, pathOf_parse relative, refused]

end Template.Library

end ModSkeleton
