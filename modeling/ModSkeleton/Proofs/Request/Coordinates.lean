import ModSkeleton.Proofs.Request.Names

namespace ModSkeleton

/-!
# Gradle coordinates

The package of a request and the coordinates of its project are cut out of the main class one
separator after another, with a fallback where nothing stands before the separator. Here all
of them are read off the list of its segments: a package of several segments is its group and
its base name, a package of one segment is its own group and the mod id is the base name. So
coordinates are never empty, and those of packages of several segments belong to one package
(`readBySegments_of_ofFields`).
-/

namespace MainClass

variable {mainClass className : Text}

theorem package_of_segments
    {front : List Text}
    (shape : segments mainClass = front ++ [className]) :
    package mainClass = Text.joinWith ['.'] front := by
  have split : Text.splitOn '.' mainClass = front ++ [className] := shape
  rw [package, Text.beforeLast_eq_joinWith, split, List.dropLast_concat]

/-- Splitting the package gives back its segments. -/
theorem splitOn_package
    {front : List Text}
    (some : front ≠ [])
    (shape : segments mainClass = front ++ [className]) :
    Text.splitOn '.' (package mainClass) = front := by
  rw [package_of_segments shape]
  refine Text.splitOn_joinWith some fun segment member => ?_
  have isSegment : segment ∈ segments mainClass := by
    rw [shape]
    exact List.mem_append_left _ member
  exact Text.not_mem_of_mem_splitOn isSegment

/-- What stands in a package before its last segment. -/
theorem parent_of_segments
    {group : List Text}
    {base : Text}
    (shape : segments mainClass = group ++ [base, className]) :
    Text.beforeLast '.' (package mainClass) = Text.joinWith ['.'] group := by
  have longer : segments mainClass = (group ++ [base]) ++ [className] := by
    simpa using shape
  rw [Text.beforeLast_eq_joinWith, splitOn_package (by simp) longer, List.dropLast_concat]

/-- A package of one segment is its own group, and has no segment that names the archive. -/
theorem coordinates_of_single
    {only : Text}
    (shape : segments mainClass = [only, className]) :
    package mainClass = only ∧
      mavenGroup mainClass = only ∧
        lastPackageSegment? mainClass = none := by
  have parent : Text.beforeLast '.' (package mainClass) = [] :=
    @parent_of_segments mainClass className [] only shape
  have whole : package mainClass = only :=
    @package_of_segments mainClass className [only] shape
  refine ⟨whole, ?_, ?_⟩
  · rw [mavenGroup, parent]
    exact whole
  · rw [lastPackageSegment?, parent]
    rfl

/-- A package of several segments is a group and a last segment, which names the archive. -/
theorem coordinates_of_several
    {group : List Text}
    {base : Text}
    (parentSome : Text.joinWith ['.'] group ≠ [])
    (shape : segments mainClass = group ++ [base, className]) :
    mavenGroup mainClass = Text.joinWith ['.'] group ∧
      lastPackageSegment? mainClass = some base := by
  have longer : segments mainClass = (group ++ [base]) ++ [className] := by
    simpa using shape
  have split := splitOn_package (by simp) longer
  have last : Text.afterLast '.' (package mainClass) = base := by
    have pieces := Text.splitOn_eq_append_afterLast '.' (package mainClass)
    rw [split, List.dropLast_concat] at pieces
    exact (List.singleton_inj.mp (List.append_cancel_left pieces)).symm
  have notEmpty : ¬ (Text.joinWith ['.'] group).isEmpty = true := by
    simpa using parentSome
  constructor
  · rw [mavenGroup, parent_of_segments shape]
    simp only [if_neg notEmpty]
  · rw [lastPackageSegment?, parent_of_segments shape, if_neg notEmpty, last]

end MainClass

namespace Request

/-- What the segments of the main class say about the names that are cut out of it. -/
structure ReadBySegments
    (request : Request) :
    Prop where
  atLeastTwo : 2 ≤ (MainClass.segments request.mainClass).length
  package :
    ∀ front className,
      MainClass.segments request.mainClass = front ++ [className] →
      request.package = Text.joinWith ['.'] front ∧
        request.packagePath = Text.joinWith ['/'] front
  packageOfPath : Text.replaceChar '/' ['.'] request.packagePath = request.package
  single :
    ∀ only className,
      MainClass.segments request.mainClass = [only, className] →
      request.package = only ∧
        request.mavenGroup = only ∧
          request.archivesBaseName = request.modId
  several :
    ∀ group base className,
      group ≠ [] →
      MainClass.segments request.mainClass = group ++ [base, className] →
      request.mavenGroup = Text.joinWith ['.'] group ∧
        request.archivesBaseName = base ∧
          request.mavenGroup ++ '.' :: request.archivesBaseName = request.package
  groupSome : request.mavenGroup ≠ []
  baseNameSome : request.archivesBaseName ≠ []

/-- A package of several segments is the group, a dot and the base name. -/
theorem package_of_several
    {request : Request}
    (named : request.Named)
    {group : List Text}
    {base className : Text}
    (some : group ≠ [])
    (shape : MainClass.segments request.mainClass = group ++ [base, className]) :
    request.mavenGroup = Text.joinWith ['.'] group ∧
      request.archivesBaseName = base ∧
        request.mavenGroup ++ '.' :: request.archivesBaseName = request.package := by
  have front : request.packageSegments = group ++ [base] := by
    rw [packageSegments, shape]
    simp
  have parentSome : Text.joinWith ['.'] group ≠ [] := by
    obtain ⟨first, others, rfl⟩ := List.exists_cons_of_ne_nil some
    have isWord := named.packageWords first (by simp [front])
    exact Text.joinWith_ne_nil List.mem_cons_self isWord.notEmpty
  obtain ⟨isGroup, last⟩ := MainClass.coordinates_of_several parentSome shape
  have isBase : request.archivesBaseName = base := by
    rw [archivesBaseName, MainClass.archivesBaseName, last]
    rfl
  have groupShape : request.mavenGroup = Text.joinWith ['.'] group := isGroup
  refine ⟨groupShape, isBase, ?_⟩
  rw [named.package, front, Text.joinWith_append _ some (by simp), groupShape, isBase]
  simp [Text.joinWith]

/-- A package of one segment is its own group, and the mod id is the base name. -/
theorem package_of_single
    {request : Request}
    {only className : Text}
    (shape : MainClass.segments request.mainClass = [only, className]) :
    request.package = only ∧
      request.mavenGroup = only ∧
        request.archivesBaseName = request.modId := by
  obtain ⟨whole, isGroup, noLast⟩ := MainClass.coordinates_of_single shape
  refine ⟨whole, isGroup, ?_⟩
  rw [archivesBaseName, MainClass.archivesBaseName, noLast]
  rfl

/-- The segments of a package are one alone, or a group and a last one. -/
theorem segments_cases
    {request : Request}
    (named : request.Named) :
    (∃ only,
        request.packageSegments = [only] ∧
          MainClass.segments request.mainClass = [only, request.className]) ∨
      ∃ group base,
        group ≠ [] ∧
          request.packageSegments = group ++ [base] ∧
            MainClass.segments request.mainClass = group ++ [base, request.className] := by
  obtain ⟨group, base, front⟩ :
      ∃ group base, request.packageSegments = group ++ [base] :=
    ⟨_, _, (List.dropLast_concat_getLast named.packageSome).symm⟩
  have shape := segments_eq request
  rw [front, List.append_assoc] at shape
  cases group with
  | nil => exact .inl ⟨base, front, shape⟩
  | cons first others => exact .inr ⟨first :: others, base, by simp, front, shape⟩

/-- Coordinates are words, or made of words. -/
theorem Named.coordinates_ne_nil
    {request : Request}
    (named : request.Named) :
    request.mavenGroup ≠ [] ∧ request.archivesBaseName ≠ [] := by
  rcases segments_cases named with ⟨only, front, shape⟩ | ⟨group, base, some, front, shape⟩
  · obtain ⟨_, isGroup, isBase⟩ := package_of_single shape
    have isWord := named.packageWords only (by simp [front])
    rw [isGroup, isBase]
    exact ⟨isWord.notEmpty, named.modId.notEmpty⟩
  · obtain ⟨isGroup, isBase, _⟩ := package_of_several named some shape
    obtain ⟨first, others, rfl⟩ := List.exists_cons_of_ne_nil some
    have firstWord := named.packageWords first (by simp [front])
    have baseWord := named.packageWords base (by simp [front])
    rw [isGroup, isBase]
    exact ⟨Text.joinWith_ne_nil List.mem_cons_self firstWord.notEmpty, baseWord.notEmpty⟩

theorem Named.readBySegments
    {request : Request}
    (named : request.Named) :
    request.ReadBySegments := by
  obtain ⟨groupSome, baseNameSome⟩ := named.coordinates_ne_nil
  refine
    { atLeastTwo := ?_
      package := ?_
      packageOfPath := ?_
      single := fun only className shape => package_of_single shape
      several := fun group base className some shape => package_of_several named some shape
      groupSome
      baseNameSome }
  · have front := List.length_pos_iff.mpr named.packageSome
    rw [segments_eq, List.length_append, List.length_singleton]
    omega
  · intro front className shape
    have isFront : request.packageSegments = front := by
      rw [packageSegments, shape, List.dropLast_concat]
    rw [named.package, named.packagePath, isFront]
    exact ⟨rfl, rfl⟩
  · rw [named.package, named.packagePath]
    exact Text.replaceChar_joinWith _
      fun segment member => (named.packageWords segment member).noSlash

/-- A package of at least two segments is the group, a dot and the base name. -/
theorem Named.coordinates_eq_package
    {request : Request}
    (named : request.Named)
    (atLeastTwo : 2 ≤ request.packageSegments.length) :
    request.mavenGroup ++ '.' :: request.archivesBaseName = request.package := by
  rcases segments_cases named with ⟨only, front, _⟩ | ⟨group, base, some, _, shape⟩
  · rw [front, List.length_singleton] at atLeastTwo
    omega
  · exact (package_of_several named some shape).2.2

/--
The names in an accepted request are those that the segments of its main class say. Another
accepted request with the same coordinates has the same package, where both packages have two
segments or more.
-/
theorem readBySegments_of_ofFields
    {fields : Fields}
    {request : Request}
    (accepted : ofFields fields = .ok request) :
    request.ReadBySegments ∧
      ∀ otherFields other,
        ofFields otherFields = .ok other →
        2 ≤ request.packageSegments.length →
        2 ≤ other.packageSegments.length →
        other.mavenGroup = request.mavenGroup →
        other.archivesBaseName = request.archivesBaseName →
        other.package = request.package := by
  have named := named_of_ofFields accepted
  refine ⟨named.readBySegments, ?_⟩
  intro otherFields other otherAccepted several otherSeveral sameGroup sameBase
  have otherNamed := named_of_ofFields otherAccepted
  calc
    other.package = other.mavenGroup ++ '.' :: other.archivesBaseName :=
      (otherNamed.coordinates_eq_package otherSeveral).symm
    _ = request.mavenGroup ++ '.' :: request.archivesBaseName := by
      rw [sameGroup, sameBase]
    _ = request.package := named.coordinates_eq_package several

/-- Values of a request with a package of one segment. -/
def lonePackageFields : Fields where
  targetPath := some (.text "mod".toList)
  modId := some (.text "sample_mod".toList)
  modName := some (.text "Sample".toList)
  language := none
  mainClass := some (.text "sample.Sample".toList)

/-- The request with these values. -/
def lonePackageRequest : Request where
  targetPath := ⟨.relative, ["mod".toList]⟩
  modId := "sample_mod".toList
  modName := "Sample".toList
  language := .java
  mainClass := "sample.Sample".toList

/-- Values of a request with a package of three segments. -/
def deepPackageFields : Fields :=
  { lonePackageFields with mainClass := some (.text "org.sample.mod.Sample".toList) }

/-- The request with these values. -/
def deepPackageRequest : Request :=
  { lonePackageRequest with mainClass := "org.sample.mod.Sample".toList }

/-- Another class in the package of three segments. -/
def neighbourFields : Fields :=
  { lonePackageFields with mainClass := some (.text "org.sample.mod.Other".toList) }

/-- The request for it. -/
def neighbourRequest : Request :=
  { lonePackageRequest with mainClass := "org.sample.mod.Other".toList }

/-- Both kinds of packages are read by their segments, and neighbours share their package. -/
theorem readBySegments_of_ofFields_lone_deep :
    (lonePackageRequest.mavenGroup = "sample".toList ∧
        lonePackageRequest.archivesBaseName = "sample_mod".toList) ∧
      (deepPackageRequest.mavenGroup = "org.sample".toList ∧
          deepPackageRequest.archivesBaseName = "mod".toList ∧
            deepPackageRequest.packagePath = "org/sample/mod".toList) ∧
        neighbourRequest.package = deepPackageRequest.package := by
  have loneAccepted : ofFields lonePackageFields = .ok lonePackageRequest := rfl
  have deepAccepted : ofFields deepPackageFields = .ok deepPackageRequest := rfl
  have neighbourAccepted : ofFields neighbourFields = .ok neighbourRequest := rfl
  have lone := (readBySegments_of_ofFields loneAccepted).1
  obtain ⟨deep, determined⟩ := readBySegments_of_ofFields deepAccepted
  obtain ⟨_, loneGroup, loneBase⟩ := lone.single "sample".toList "Sample".toList (by decide)
  obtain ⟨deepGroup, deepBase, _⟩ :=
    deep.several ["org".toList, "sample".toList] "mod".toList "Sample".toList (by decide)
      (by decide)
  obtain ⟨_, deepPath⟩ :=
    deep.package ["org".toList, "sample".toList, "mod".toList] "Sample".toList (by decide)
  have samePackage :=
    determined _ _ neighbourAccepted (by decide) (by decide) (by decide) (by decide)
  exact ⟨⟨loneGroup, loneBase⟩, ⟨deepGroup, deepBase, deepPath⟩, samePackage⟩

end Request

end ModSkeleton
