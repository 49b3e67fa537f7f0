import Mathlib.Data.List.Induction
import ModSkeleton.Proofs.FileTree.Lookup
import ModSkeleton.Proofs.FileTree.Ordinary
import ModSkeleton.Template.Library

namespace ModSkeleton

open FileTree Workspace

/-!
# Directories that a listing goes through

A listing goes from a directory through those below it. It gets to a directory if all those
above it could be listed (`Reaches`). One that may not be listed is passed over; another one
that cannot be listed, or one that is nested too deep, ends the listing (`FailsBelow`), and
nothing else does. If it comes to its end, every entry of a listed directory with the ending
of templates is found once (`Finds`).
-/

namespace Template

section

variable
    {ε α β : Type}
    {action : α → Except ε β}

/-- Doing one thing after another fails exactly if one of them fails by itself. -/
theorem mapM_fails_iff
    {items : List α} :
    (∃ fault, items.mapM action = .error fault) ↔
      ∃ item ∈ items, ∃ fault, action item = .error fault := by
  induction items with
  | nil => simp [pure, Except.pure]
  | cons item items inductionHypothesis =>
      rw [List.mapM_cons]
      cases first : action item with
      | error fault => simp [first, bind, Except.bind]
      | ok value =>
          cases later : items.mapM action with
          | error fault =>
              rw [later] at inductionHypothesis
              obtain ⟨other, member, failed⟩ := inductionHypothesis.mp ⟨fault, rfl⟩
              simp only [bind, Except.bind, Except.error.injEq, exists_eq', true_iff]
              exact ⟨other, List.mem_cons_of_mem _ member, failed⟩
          | ok values =>
              rw [later] at inductionHypothesis
              simp only [bind, Except.bind, pure, Except.pure, reduceCtorEq, exists_false,
                false_iff]
              rintro ⟨other, member, fault, failed⟩
              rcases List.mem_cons.mp member with rfl | isLater
              · rw [first] at failed
                cases failed
              · obtain ⟨_, impossible⟩ := inductionHypothesis.mpr ⟨other, isLater, fault, failed⟩
                cases impossible

/-- Doing one thing after another gives what each of them gives by itself. -/
theorem mapM_of_ok
    {items : List α}
    {value : α → β}
    (each : ∀ item ∈ items, action item = .ok (value item)) :
    items.mapM action = .ok (items.map value) := by
  induction items with
  | nil => rfl
  | cons item items inductionHypothesis =>
      have later :=
        inductionHypothesis (fun other member => each other (List.mem_cons_of_mem _ member))
      rw [List.mapM_cons, each item List.mem_cons_self, later]
      rfl

/-- What comes of doing one thing after another comes of each of them. -/
theorem exists_values_of_mapM
    [Inhabited β]
    {items : List α}
    {values : List β}
    (done : items.mapM action = .ok values) :
    ∃ value : α → β,
      (∀ item ∈ items, action item = .ok (value item)) ∧ values = items.map value := by
  have each :
      ∀ item ∈ items, action item = .ok ((action item).toOption.getD default) := by
    intro item member
    cases outcome : action item with
    | error fault =>
        obtain ⟨_, failed⟩ := mapM_fails_iff.mpr ⟨item, member, fault, outcome⟩
        rw [done] at failed
        cases failed
    | ok value => rfl
  refine ⟨_, each, ?_⟩
  rw [mapM_of_ok each] at done
  exact (Except.ok.inj done).symm

end

namespace Library

section

variable
    (library : Library)
    (host : Host)

/-- A directory can be listed. -/
def Opens
    (location : Location) :
    Prop :=
  ∃ names, library.openDirectory host ⟨.absolute, location⟩ = .ok (location, names)

/-- A directory may not be listed. -/
def PassesOver
    (location : Location) :
    Prop :=
  ∃ fault,
    library.openDirectory host ⟨.absolute, location⟩ = .error fault ∧ isPassedOver fault = true

/-- A directory cannot be listed, for another reason than that it may not be listed. -/
def FailsToOpen
    (location : Location) :
    Prop :=
  ∃ fault,
    library.openDirectory host ⟨.absolute, location⟩ = .error fault ∧ isPassedOver fault = false

/-- A listing gets to a directory below where it starts: those on the way there can be listed. -/
structure Reaches
    (start names : Location) :
    Prop where
  directory : library.tree.get? (start ++ names) = some .directory
  opens :
    ∀ front back, names = front ++ back → back ≠ [] → library.Opens host (start ++ front)

/-- A listing gets to a directory that is nested too deep or cannot be listed. -/
def FailsBelow
    (depth : Nat)
    (start : Location) :
    Prop :=
  ∃ names,
    library.Reaches host start names ∧
      (depth < names.length ∨ library.FailsToOpen host (start ++ names))

/-- A template in a directory that is listed on the way. -/
def Finds
    (start : Location)
    (path : Path) :
    Prop :=
  ∃ names name,
    library.Reaches host start names ∧
      library.Opens host (start ++ names) ∧
        (∃ entry, library.tree.get? (start ++ names ++ [name]) = some entry) ∧
          ending <:+ name ∧ path = ⟨.absolute, start ++ names ++ [name]⟩

end

section

variable
    {library : Library}
    (ordinary : library.tree.IsOrdinary)
    {host : Host}

include ordinary

theorem areNames_of_get?
    {location : Location}
    {entry : Entry}
    (found : library.tree.get? location = some entry) :
    AreNames location := by
  intro name member
  have component := ordinary.isComponent found name member
  exact ⟨component.notParent, component.notCurrent⟩

/-- Where a directory is listed, its names are listed. -/
theorem names_of_openDirectory
    {location reached : Location}
    {names : List Text}
    (here : library.tree.get? location = some .directory)
    (opened : library.openDirectory host ⟨.absolute, location⟩ = .ok (reached, names)) :
    reached = location ∧ names = library.tree.childNames location := by
  unfold openDirectory at opened
  split at opened
  case h_1 => cases opened
  case h_2 => cases opened
  case h_4 => cases opened
  case h_3 place located =>
    have walks := (locate_eq_ok_iff.mp (locate_of_host located)).2
    have isHere : place = location :=
      walks.location_of_linkFreeFrom (.of_linkFree ordinary.linkFree [])
        (areNames_of_get? ordinary here)
    split at opened
    case h_1 => cases opened
    case h_2 listed =>
      cases opened
      rw [isHere] at listed ⊢
      exact ⟨rfl, names_of_namesIn listed⟩

/-- A directory is listed, or it is passed over, or its listing fails. -/
theorem opens_cases
    {location : Location}
    (here : library.tree.get? location = some .directory) :
    library.openDirectory host ⟨.absolute, location⟩ =
        .ok (location, library.tree.childNames location) ∨
      library.PassesOver host location ∨ library.FailsToOpen host location := by
  cases opened : library.openDirectory host ⟨.absolute, location⟩ with
  | error fault =>
      cases passed : isPassedOver fault with
      | true => exact .inr (.inl ⟨fault, opened, passed⟩)
      | false => exact .inr (.inr ⟨fault, opened, passed⟩)
  | ok found =>
      obtain ⟨reached, names⟩ := found
      obtain ⟨rfl, rfl⟩ := names_of_openDirectory ordinary here opened
      exact .inl rfl

omit ordinary in
theorem reaches_nil
    {start : Location}
    (here : library.tree.get? start = some .directory) :
    library.Reaches host start [] where
  directory := by rwa [List.append_nil]
  opens := by
    intro front back shape notEmpty
    exact (notEmpty (List.append_eq_nil_iff.mp shape.symm).2).elim

/-- A listing gets further from a directory that is listed. -/
theorem reaches_cons_iff
    {start : Location}
    {name : Text}
    {rest : List Text} :
    library.Reaches host start (name :: rest) ↔
      library.Opens host start ∧
        library.tree.get? (start ++ [name]) = some .directory ∧
          library.Reaches host (start ++ [name]) rest := by
  constructor
  · rintro ⟨here, opens⟩
    rw [List.append_cons] at here
    refine ⟨?_, ?_, here, ?_⟩
    · have opensStart := opens [] (name :: rest) rfl (List.cons_ne_nil name rest)
      rwa [List.append_nil] at opensStart
    · by_cases last : rest = []
      · rwa [last, List.append_nil] at here
      · exact ordinary.wellFormed.directory_above last here
    · intro front back shape notEmpty
      rw [← List.append_cons]
      exact opens (name :: front) back (by rw [shape, List.cons_append]) notEmpty
  · rintro ⟨opensStart, _, here, opens⟩
    refine ⟨by rwa [List.append_cons], ?_⟩
    intro front back shape notEmpty
    cases front with
    | nil => rwa [List.append_nil]
    | cons first front =>
        obtain ⟨rfl, rest⟩ := List.cons_eq_cons.mp shape
        rw [List.append_cons]
        exact opens front back rest notEmpty

/-- A listing begins in a directory. -/
theorem Reaches.start_directory
    {start names : Location}
    (reaches : library.Reaches host start names) :
    library.tree.get? start = some .directory := by
  have here := reaches.directory
  by_cases atStart : names = []
  · rwa [atStart, List.append_nil] at here
  · exact ordinary.wellFormed.directory_above atStart here

/-- A listing gets to a directory if whatever it gets to on the way can be listed. -/
theorem reaches_of_opens
    {start names : Location}
    (here : library.tree.get? (start ++ names) = some .directory)
    (opens :
      ∀ front back,
        names = front ++ back →
        back ≠ [] →
        library.Reaches host start front →
        library.Opens host (start ++ front)) :
    library.Reaches host start names := by
  induction names using List.reverseRecOn with
  | nil =>
      rw [List.append_nil] at here
      exact reaches_nil here
  | append_singleton front last inductionHypothesis =>
      have frontHere : library.tree.get? (start ++ front) = some .directory := by
        rw [← List.append_assoc] at here
        exact ordinary.wellFormed _ _ _ here
      have reachesFront : library.Reaches host start front := by
        refine inductionHypothesis frontHere ?_
        intro upper lower shape _ reaches
        exact opens upper (lower ++ [last]) (by rw [shape, List.append_assoc]) (by simp) reaches
      refine ⟨here, ?_⟩
      intro upper lower shape notEmpty
      obtain ⟨lowerFront, lowerLast, rfl⟩ := (List.eq_nil_or_concat lower).resolve_left notEmpty
      rw [List.concat_eq_append, ← List.append_assoc] at shape
      obtain ⟨isFront, _⟩ := List.append_inj' shape rfl
      by_cases whole : lowerFront = []
      · rw [whole, List.append_nil] at isFront
        rw [← isFront]
        exact opens front [last] rfl (by simp) reachesFront
      · exact reachesFront.opens upper lowerFront isFront whole

/-- The directories in a listed one are what its listing goes on with. -/
theorem failsBelow_iff
    {start : Location}
    {names : List Text}
    (opened : library.openDirectory host ⟨.absolute, start⟩ = .ok (start, names))
    (depth : Nat) :
    library.FailsBelow host (depth + 1) start ↔
      ∃ name,
        library.tree.get? (start ++ [name]) = some .directory ∧
          library.FailsBelow host depth (start ++ [name]) := by
  constructor
  · rintro ⟨names, reaches, fails⟩
    cases names with
    | nil =>
        rcases fails with impossible | ⟨fault, failed, _⟩
        · cases impossible
        · rw [List.append_nil, opened] at failed
          cases failed
    | cons name rest =>
        obtain ⟨_, next, onward⟩ := (reaches_cons_iff ordinary).mp reaches
        refine ⟨name, next, rest, onward, ?_⟩
        rw [← List.append_cons]
        refine fails.imp_left ?_
        intro deep
        rw [List.length_cons] at deep
        omega
  · rintro ⟨name, next, rest, onward, fails⟩
    refine ⟨name :: rest, (reaches_cons_iff ordinary).mpr ⟨⟨names, opened⟩, next, onward⟩, ?_⟩
    rw [List.append_cons]
    refine fails.imp_left ?_
    intro deep
    rw [List.length_cons]
    omega

omit ordinary in
/-- A listing finds nothing where it does not begin. -/
theorem not_finds
    {start : Location}
    (closed : ¬library.Opens host start)
    (path : Path) :
    ¬library.Finds host start path := by
  rintro ⟨names, name, ⟨_, opens⟩, opensLast, _⟩
  cases names with
  | nil =>
      rw [List.append_nil] at opensLast
      exact closed opensLast
  | cons first rest =>
      have opensFirst := opens [] (first :: rest) rfl (List.cons_ne_nil first rest)
      rw [List.append_nil] at opensFirst
      exact closed opensFirst

omit ordinary in
theorem not_opens_of_error
    {location : Location}
    {fault : AccessFault}
    (failed : library.openDirectory host ⟨.absolute, location⟩ = .error fault) :
    ¬library.Opens host location := by
  rintro ⟨_, opened⟩
  rw [failed] at opened
  cases opened

/-- The templates in a directory. -/
def templatesIn
    (library : Library)
    (location : Location) :
    List Path :=
  ((library.tree.childNames location).filter fun name => ending.isSuffixOf name).map
    fun name => ⟨.absolute, location ++ [name]⟩

/-- The directories in a directory. -/
def foldersIn
    (library : Library)
    (location : Location) :
    List Text :=
  (library.tree.childNames location).filter fun name =>
    library.tree.get? (location ++ [name]) = some .directory

theorem mem_foldersIn_iff
    {location : Location}
    {name : Text} :
    name ∈ library.foldersIn location ↔
      library.tree.get? (location ++ [name]) = some .directory := by
  simp only [foldersIn, List.mem_filter, ordinary.mem_childNames_iff, decide_eq_true_eq,
    and_iff_right_iff_imp]
  intro found
  exact ⟨_, found⟩

theorem mem_templatesIn_iff
    {location : Location}
    {path : Path} :
    path ∈ library.templatesIn location ↔
      ∃ name,
        (∃ entry, library.tree.get? (location ++ [name]) = some entry) ∧
          ending <:+ name ∧ path = ⟨.absolute, location ++ [name]⟩ := by
  simp only [templatesIn, List.mem_map, List.mem_filter, ordinary.mem_childNames_iff,
    List.isSuffixOf_iff_suffix]
  constructor
  · rintro ⟨name, ⟨found, ends⟩, rfl⟩
    exact ⟨name, found, ends, rfl⟩
  · rintro ⟨name, found, ends, rfl⟩
    exact ⟨name, ⟨found, ends⟩, rfl⟩

/-- What is found from a listed directory is in it or is found from a directory in it. -/
theorem finds_iff
    {start : Location}
    (here : library.tree.get? start = some .directory)
    (opens : library.Opens host start)
    {path : Path} :
    library.Finds host start path ↔
      path ∈ library.templatesIn start ∨
        ∃ name ∈ library.foldersIn start, library.Finds host (start ++ [name]) path := by
  rw [mem_templatesIn_iff ordinary]
  constructor
  · rintro ⟨names, name, reaches, opensLast, found, ends, isPath⟩
    cases names with
    | nil =>
        rw [List.append_nil] at found isPath
        exact .inl ⟨name, found, ends, isPath⟩
    | cons first rest =>
        obtain ⟨_, next, onward⟩ := (reaches_cons_iff ordinary).mp reaches
        rw [List.append_cons start first rest] at opensLast found isPath
        exact
          .inr ⟨first, (mem_foldersIn_iff ordinary).mpr next, rest, name, onward, opensLast, found,
            ends, isPath⟩
  · rintro (⟨name, found, ends, isPath⟩ | ⟨first, isFolder, rest, name, onward, opensLast, found,
      ends, isPath⟩)
    · refine ⟨[], name, reaches_nil here, ?_, ?_, ends, ?_⟩
      · rwa [List.append_nil]
      · rwa [List.append_nil]
      · rwa [List.append_nil]
    · have next := (mem_foldersIn_iff ordinary).mp isFolder
      rw [← List.append_cons start first rest] at opensLast found isPath
      exact
        ⟨first :: rest, name, (reaches_cons_iff ordinary).mpr ⟨opens, next, onward⟩, opensLast,
          found, ends, isPath⟩

omit ordinary in
/-- A directory that is listed is listed with what is below the directories in it. -/
theorem pathsBelow_of_opened
    {start : Location}
    (opened :
      library.openDirectory host ⟨.absolute, start⟩ =
        .ok (start, library.tree.childNames start))
    (depth : Nat) :
    library.pathsBelow host depth ⟨.absolute, start⟩ =
      match depth with
      | 0 =>
          if (library.foldersIn start).isEmpty then .ok (library.templatesIn start)
          else .error .stackExhausted
      | depth + 1 =>
          match (library.foldersIn start).mapM fun name =>
              library.pathsBelow host depth ⟨.absolute, start ++ [name]⟩ with
          | .error fault => .error fault
          | .ok further => .ok (library.templatesIn start ++ further.flatten) := by
  cases depth with
  | zero =>
      rw [pathsBelow.eq_def]
      simp only [opened]
      rfl
  | succ depth =>
      rw [pathsBelow.eq_def]
      simp only [opened]
      rfl

omit ordinary in
theorem pathsBelow_of_error
    {start : Location}
    {fault : AccessFault}
    (failed : library.openDirectory host ⟨.absolute, start⟩ = .error fault)
    (depth : Nat) :
    library.pathsBelow host depth ⟨.absolute, start⟩ =
      if isPassedOver fault then .ok [] else .error (.access fault ⟨.absolute, start⟩) := by
  rw [pathsBelow.eq_def]
  simp only [failed]

omit ordinary in
/-- Where a listing cannot begin, it fails unless it may not begin. -/
theorem fails_iff_of_error
    {start : Location}
    (here : library.tree.get? start = some .directory)
    {fault : AccessFault}
    (failed : library.openDirectory host ⟨.absolute, start⟩ = .error fault)
    (depth : Nat) :
    (∃ fault, library.pathsBelow host depth ⟨.absolute, start⟩ = .error fault) ↔
      library.FailsBelow host depth start := by
  rw [pathsBelow_of_error failed]
  constructor
  · intro fails
    have notPassed : isPassedOver fault = false := by
      rw [← Bool.not_eq_true]
      intro passed
      simp [passed] at fails
    refine ⟨[], reaches_nil here, .inr ⟨fault, ?_, notPassed⟩⟩
    rw [List.append_nil, failed]
  · rintro ⟨names, reaches, fails⟩
    cases names with
    | nil =>
        rcases fails with impossible | ⟨_, failedAgain, notPassed⟩
        · cases impossible
        · rw [List.append_nil, failed] at failedAgain
          cases failedAgain
          simp [notPassed]
    | cons name rest =>
        have opens := reaches.opens [] (name :: rest) rfl (List.cons_ne_nil name rest)
        rw [List.append_nil] at opens
        exact (not_opens_of_error failed opens).elim

/-- Where directories may not be nested, a listing fails exactly if there is one. -/
theorem failsBelow_zero_iff
    {start : Location}
    (opens : library.Opens host start) :
    library.FailsBelow host 0 start ↔ library.foldersIn start ≠ [] := by
  constructor
  · rintro ⟨names, reaches, fails⟩ none
    cases names with
    | nil =>
        rcases fails with impossible | ⟨_, failed, _⟩
        · cases impossible
        · rw [List.append_nil] at failed
          exact not_opens_of_error failed opens
    | cons name rest =>
        have next := ((reaches_cons_iff ordinary).mp reaches).2.1
        have isFolder := (mem_foldersIn_iff ordinary).mpr next
        rw [none] at isFolder
        cases isFolder
  · intro notEmpty
    obtain ⟨name, isFolder⟩ := List.exists_mem_of_ne_nil _ notEmpty
    have next := (mem_foldersIn_iff ordinary).mp isFolder
    exact
      ⟨[name], (reaches_cons_iff ordinary).mpr ⟨opens, next, reaches_nil next⟩,
        .inl (Nat.zero_lt_succ 0)⟩

/-- A listing fails exactly if it gets to a directory that is too deep or cannot be listed. -/
theorem pathsBelow_fails_iff
    {start : Location}
    (here : library.tree.get? start = some .directory)
    (depth : Nat) :
    (∃ fault, library.pathsBelow host depth ⟨.absolute, start⟩ = .error fault) ↔
      library.FailsBelow host depth start := by
  induction depth generalizing start with
  | zero =>
      cases opened : library.openDirectory host ⟨.absolute, start⟩ with
      | error fault => exact fails_iff_of_error here opened 0
      | ok found =>
          obtain ⟨reached, names⟩ := found
          obtain ⟨rfl, rfl⟩ := names_of_openDirectory ordinary here opened
          rw [failsBelow_zero_iff ordinary ⟨_, opened⟩, pathsBelow_of_opened opened]
          cases library.foldersIn reached <;> simp
  | succ depth inductionHypothesis =>
      cases opened : library.openDirectory host ⟨.absolute, start⟩ with
      | error fault => exact fails_iff_of_error here opened (depth + 1)
      | ok found =>
          obtain ⟨reached, names⟩ := found
          obtain ⟨rfl, rfl⟩ := names_of_openDirectory ordinary here opened
          have oneFails :
              (∃ fault,
                ((library.foldersIn reached).mapM fun name =>
                  library.pathsBelow host depth ⟨.absolute, reached ++ [name]⟩) =
                    .error fault) ↔
                ∃ name ∈ library.foldersIn reached, ∃ fault,
                  library.pathsBelow host depth ⟨.absolute, reached ++ [name]⟩ = .error fault :=
            mapM_fails_iff
          have stepFails :
              (∃ fault,
                library.pathsBelow host (depth + 1) ⟨.absolute, reached⟩ = .error fault) ↔
                ∃ name ∈ library.foldersIn reached, ∃ fault,
                  library.pathsBelow host depth ⟨.absolute, reached ++ [name]⟩ =
                    .error fault := by
            rw [← oneFails, pathsBelow_of_opened opened]
            cases gone :
                (library.foldersIn reached).mapM fun name =>
                  library.pathsBelow host depth ⟨.absolute, reached ++ [name]⟩ with
            | error fault => simp [gone]
            | ok further => simp [gone]
          rw [stepFails, failsBelow_iff ordinary opened]
          constructor
          · rintro ⟨name, isFolder, fails⟩
            have next := (mem_foldersIn_iff ordinary).mp isFolder
            exact ⟨name, next, (inductionHypothesis next).mp fails⟩
          · rintro ⟨name, next, fails⟩
            exact
              ⟨name, (mem_foldersIn_iff ordinary).mpr next, (inductionHypothesis next).mpr fails⟩

theorem nodup_templatesIn
    (location : Location) :
    (library.templatesIn location).Nodup := by
  refine List.Nodup.map ?_ ((ordinary.nodup_childNames location).filter _)
  intro first second same
  have sameParts : location ++ [first] = location ++ [second] := congrArg Path.parts same
  exact List.cons.inj (List.append_cancel_left sameParts) |>.1

omit ordinary in
/-- What is found below a directory begins with its names and goes on behind them. -/
theorem Finds.further
    {start : Location}
    {path : Path}
    (finds : library.Finds host start path) :
    ∃ further, further ≠ [] ∧ path.parts = start ++ further := by
  obtain ⟨names, name, _, _, _, _, rfl⟩ := finds
  exact ⟨names ++ [name], by simp, List.append_assoc start names [name]⟩

/-- Templates in a directory and those below the directories in it are found once. -/
theorem nodup_append_flatMap
    {start : Location}
    {below : Text → List Path}
    (each :
      ∀ name ∈ library.foldersIn start,
        (below name).Nodup ∧ ∀ path ∈ below name, library.Finds host (start ++ [name]) path) :
    (library.templatesIn start ++ (library.foldersIn start).flatMap below).Nodup := by
  have foldersDistinct : (library.foldersIn start).Nodup :=
    (ordinary.nodup_childNames start).filter _
  have belowDistinct : ((library.foldersIn start).flatMap below).Nodup := by
    refine List.nodup_flatMap.mpr ⟨fun name member => (each name member).1, ?_⟩
    refine List.Pairwise.imp_of_mem ?_ foldersDistinct
    intro first second firstMember secondMember different path inFirst inSecond
    obtain ⟨_, _, firstShape⟩ := ((each first firstMember).2 path inFirst).further
    obtain ⟨_, _, secondShape⟩ := ((each second secondMember).2 path inSecond).further
    rw [firstShape, List.append_assoc, List.append_assoc] at secondShape
    exact different (List.cons.inj (List.append_cancel_left secondShape)).1
  refine (nodup_templatesIn ordinary start).append belowDistinct ?_
  intro path inStart inBelow
  obtain ⟨name, _, _, rfl⟩ := (mem_templatesIn_iff ordinary).mp inStart
  obtain ⟨folder, isFolder, isBelow⟩ := List.mem_flatMap.mp inBelow
  obtain ⟨further, notEmpty, shape⟩ := ((each folder isFolder).2 _ isBelow).further
  rw [List.append_assoc] at shape
  have same := List.append_cancel_left shape
  exact notEmpty (List.cons.inj same).2.symm

omit ordinary in
/-- A listing that may not begin finds nothing. -/
theorem finds_of_error
    {start : Location}
    {fault : AccessFault}
    (failed : library.openDirectory host ⟨.absolute, start⟩ = .error fault)
    {depth : Nat}
    {paths : List Path}
    (listed : library.pathsBelow host depth ⟨.absolute, start⟩ = .ok paths) :
    paths.Nodup ∧ ∀ path, path ∈ paths ↔ library.Finds host start path := by
  rw [pathsBelow_of_error failed] at listed
  split at listed
  case isTrue =>
    cases listed
    have nothing := not_finds (not_opens_of_error failed)
    exact ⟨List.nodup_nil, fun path => ⟨nofun, fun finds => (nothing path finds).elim⟩⟩
  case isFalse => cases listed

/-- A listing that comes to its end has found every template once. -/
theorem pathsBelow_finds
    {start : Location}
    (here : library.tree.get? start = some .directory)
    {depth : Nat}
    {paths : List Path}
    (listed : library.pathsBelow host depth ⟨.absolute, start⟩ = .ok paths) :
    paths.Nodup ∧ ∀ path, path ∈ paths ↔ library.Finds host start path := by
  induction depth generalizing start paths with
  | zero =>
      cases opened : library.openDirectory host ⟨.absolute, start⟩ with
      | error fault => exact finds_of_error opened listed
      | ok found =>
          obtain ⟨reached, names⟩ := found
          obtain ⟨rfl, rfl⟩ := names_of_openDirectory ordinary here opened
          rw [pathsBelow_of_opened opened] at listed
          simp only at listed
          split at listed
          case isTrue noFolder =>
            cases listed
            refine ⟨nodup_templatesIn ordinary reached, fun path => ?_⟩
            rw [finds_iff ordinary here ⟨_, opened⟩, List.isEmpty_iff.mp noFolder]
            simp
          case isFalse => cases listed
  | succ depth inductionHypothesis =>
      cases opened : library.openDirectory host ⟨.absolute, start⟩ with
      | error fault => exact finds_of_error opened listed
      | ok found =>
          obtain ⟨reached, names⟩ := found
          obtain ⟨rfl, rfl⟩ := names_of_openDirectory ordinary here opened
          rw [pathsBelow_of_opened opened] at listed
          simp only at listed
          split at listed
          case h_1 => cases listed
          case h_2 further gone =>
            cases listed
            obtain ⟨below, isBelow, rfl⟩ := exists_values_of_mapM gone
            have each :
                ∀ name ∈ library.foldersIn reached,
                  (below name).Nodup ∧
                    ∀ path, path ∈ below name ↔ library.Finds host (reached ++ [name]) path := by
              intro name member
              exact
                inductionHypothesis ((mem_foldersIn_iff ordinary).mp member) (isBelow name member)
            rw [← List.flatMap_def]
            refine ⟨nodup_append_flatMap ordinary fun name member =>
              ⟨(each name member).1, fun path inside => ((each name member).2 path).mp inside⟩, ?_⟩
            intro path
            rw [List.mem_append, List.mem_flatMap, finds_iff ordinary here ⟨_, opened⟩]
            refine or_congr_right (exists_congr fun name => and_congr_right fun member => ?_)
            exact (each name member).2 path

end

end Library

end Template

end ModSkeleton
