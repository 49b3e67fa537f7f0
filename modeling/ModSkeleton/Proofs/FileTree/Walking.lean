import ModSkeleton.FileTree.Walk
import ModSkeleton.Proofs.FileTree.Growth

namespace ModSkeleton.FileTree

/-!
# Where walks arrive

`Scans` and `Walks` say once, as rules, how a scan and a walk succeed, and
`scan_eq_ok_iff` and `walk_eq_ok_iff` tie them to the functions. What follows is
by induction on the rules: a walk that arrives keeps arriving while the tree
grows, a walk along a longer path passes through where the shorter one arrives,
and without links the location of a path can be read off its names. A walk that
fails does so because something is missing or a name is too long.
-/

/-- A name that can stand at a location: no step up or in place, and not too long. -/
structure IsEntryName (name : Text) : Prop where
  notParent : name ≠ Path.parentName
  notCurrent : name ≠ Path.currentName
  fits : Text.utf8Size name ≤ maxNameSize

/-- How going along names ends at a stop. -/
inductive Scans
    (tree : FileTree)
    (followLast : Bool) :
    Location → List Text → Stop → Prop where
  | arrive
      {location : Location}
      {entry : Entry}
      (here : tree.get? location = some entry) :
      Scans tree followLast location [] (.arrived (.present location entry))
  | up
      {location : Location}
      {rest : List Text}
      {stop : Stop}
      (here : tree.get? location = some .directory)
      (onward : Scans tree followLast location.dropLast rest stop) :
      Scans tree followLast location (Path.parentName :: rest) stop
  | stay
      {location : Location}
      {rest : List Text}
      {stop : Stop}
      (here : tree.get? location = some .directory)
      (onward : Scans tree followLast location rest stop) :
      Scans tree followLast location (Path.currentName :: rest) stop
  | missing
      {location : Location}
      {name : Text}
      (here : tree.get? location = some .directory)
      (proper : IsEntryName name)
      (absent : tree.get? (location ++ [name]) = none) :
      Scans tree followLast location [name] (.arrived (.missing location name))
  | lastLink
      {location : Location}
      {name target : Text}
      (here : tree.get? location = some .directory)
      (proper : IsEntryName name)
      (next : tree.get? (location ++ [name]) = some (.link target))
      (kept : followLast = false) :
      Scans tree followLast location [name]
        (.arrived (.present (location ++ [name]) (.link target)))
  | link
      {location : Location}
      {name target : Text}
      {rest : List Text}
      (here : tree.get? location = some .directory)
      (proper : IsEntryName name)
      (next : tree.get? (location ++ [name]) = some (.link target))
      (followed : rest ≠ [] ∨ followLast = true) :
      Scans tree followLast location (name :: rest) (.link location target rest)
  | enter
      {location : Location}
      {name : Text}
      {rest : List Text}
      {entry : Entry}
      {stop : Stop}
      (here : tree.get? location = some .directory)
      (proper : IsEntryName name)
      (next : tree.get? (location ++ [name]) = some entry)
      (plain : entry.IsPlain)
      (onward : Scans tree followLast (location ++ [name]) rest stop) :
      Scans tree followLast location (name :: rest) stop

/-- A scan succeeds exactly by its rules. -/
theorem scan_eq_ok_iff
    {tree : FileTree}
    {followLast : Bool}
    {location : Location}
    {names : List Text}
    {stop : Stop} :
    scan tree followLast location names = .ok stop ↔
      Scans tree followLast location names stop := by
  constructor
  · intro scanned
    induction names generalizing location with
    | nil =>
        simp only [scan] at scanned
        split at scanned
        · cases scanned
          exact .arrive ‹_›
        · cases scanned
    | cons name rest inductionHypothesis =>
        simp only [scan] at scanned
        split at scanned
        case h_1 here =>
          split at scanned
          case isTrue isParent =>
            subst isParent
            exact .up here (inductionHypothesis scanned)
          case isFalse notParent =>
            split at scanned
            case isTrue isCurrent =>
              subst isCurrent
              exact .stay here (inductionHypothesis scanned)
            case isFalse notCurrent =>
              split at scanned
              case isTrue => cases scanned
              case isFalse fits =>
                have proper : IsEntryName name :=
                  ⟨notParent, notCurrent, Nat.le_of_not_lt fits⟩
                split at scanned
                case h_1 absent =>
                  split at scanned
                  case isTrue last =>
                    cases scanned
                    rw [List.isEmpty_iff.mp last]
                    exact .missing here proper absent
                  case isFalse => cases scanned
                case h_2 target next =>
                  split at scanned
                  case isTrue kept =>
                    simp only [Bool.and_eq_true, Bool.not_eq_true'] at kept
                    cases scanned
                    rw [List.isEmpty_iff.mp kept.1]
                    exact .lastLink here proper next kept.2
                  case isFalse followed =>
                    cases scanned
                    refine .link here proper next ?_
                    by_cases last : rest = []
                    · right
                      simpa [last] using followed
                    · exact .inl last
                case h_3 entry notLink next =>
                  have plain : entry.IsPlain := by
                    cases entry with
                    | link target => exact (notLink target rfl).elim
                    | directory => trivial
                    | file content => trivial
                  exact .enter here proper next plain (inductionHypothesis scanned)
        case h_2 => cases scanned
        case h_3 => cases scanned
  · intro scans
    induction scans with
    | arrive here => simp [scan, here]
    | up here onward inductionHypothesis => simp [scan, here, inductionHypothesis]
    | stay here onward inductionHypothesis =>
        have different : Path.currentName ≠ Path.parentName := by decide
        simp [scan, here, different, inductionHypothesis]
    | missing here proper absent =>
        have fits := Nat.not_lt.mpr proper.fits
        simp [scan, here, proper.notParent, proper.notCurrent, fits, absent]
    | lastLink here proper next kept =>
        have fits := Nat.not_lt.mpr proper.fits
        simp [scan, here, proper.notParent, proper.notCurrent, fits, next, kept]
    | link here proper next followed =>
        have fits := Nat.not_lt.mpr proper.fits
        simp only [scan, here, proper.notParent, proper.notCurrent, fits, next, if_false]
        rcases followed with more | follows
        · simp [more]
        · simp [follows]
    | @enter location name rest entry stop here proper next plain onward inductionHypothesis =>
        have fits := Nat.not_lt.mpr proper.fits
        simp only [scan, here, proper.notParent, proper.notCurrent, fits, next, if_false]
        cases entry with
        | link target => exact plain.elim
        | directory => exact inductionHypothesis
        | file content => exact inductionHypothesis

/-- How a walk that may follow a number of links ends at a place. -/
inductive Walks
    (tree : FileTree)
    (followLast : Bool) :
    Nat → Location → List Text → Place → Prop where
  | arrive
      {budget : Nat}
      {location : Location}
      {names : List Text}
      {place : Place}
      (scans : Scans tree followLast location names (.arrived place)) :
      Walks tree followLast budget location names place
  | follow
      {budget : Nat}
      {location directory : Location}
      {names rest : List Text}
      {target : Text}
      {place : Place}
      (scans : Scans tree followLast location names (.link directory target rest))
      (onward :
        Walks tree followLast budget
          (if target.head? = some '/' then [] else directory)
          (Path.fullSteps target ++ rest) place) :
      Walks tree followLast (budget + 1) location names place

/-- A walk succeeds exactly by its rules. -/
theorem walk_eq_ok_iff
    {tree : FileTree}
    {followLast : Bool}
    {budget : Nat}
    {location : Location}
    {names : List Text}
    {place : Place} :
    walk tree followLast budget location names = .ok place ↔
      Walks tree followLast budget location names place := by
  constructor
  · intro walked
    induction budget generalizing location names with
    | zero =>
        rw [walk] at walked
        split at walked
        case h_1 => cases walked
        case h_2 arrived scanned =>
          cases walked
          exact .arrive (scan_eq_ok_iff.mp scanned)
        case h_3 => cases walked
    | succ budget inductionHypothesis =>
        rw [walk] at walked
        split at walked
        case h_1 => cases walked
        case h_2 arrived scanned =>
          cases walked
          exact .arrive (scan_eq_ok_iff.mp scanned)
        case h_3 directory target rest scanned =>
          exact .follow (scan_eq_ok_iff.mp scanned) (inductionHypothesis walked)
  · intro walks
    induction walks with
    | arrive scans =>
        rw [walk.eq_def]
        simp only [scan_eq_ok_iff.mpr scans]
    | follow scans onward inductionHypothesis =>
        rw [walk.eq_def]
        simp only [scan_eq_ok_iff.mpr scans]
        exact inductionHypothesis

/-- A path leads to an entry that stands at its location. -/
theorem Scans.get?_of_present
    {tree : FileTree}
    {followLast : Bool}
    {start location : Location}
    {names : List Text}
    {entry : Entry}
    (scans : Scans tree followLast start names (.arrived (.present location entry))) :
    tree.get? location = some entry := by
  generalize stopped : Stop.arrived (.present location entry) = stop at scans
  induction scans with
  | arrive here =>
      cases stopped
      exact here
  | up _ _ inductionHypothesis => exact inductionHypothesis stopped
  | stay _ _ inductionHypothesis => exact inductionHypothesis stopped
  | missing => cases stopped
  | lastLink _ _ next _ =>
      cases stopped
      exact next
  | link => cases stopped
  | enter _ _ _ _ _ inductionHypothesis => exact inductionHypothesis stopped

/-- Where nothing is found, there is room for a new entry in a directory. -/
theorem Scans.room_of_missing
    {tree : FileTree}
    {followLast : Bool}
    {start parent : Location}
    {names : List Text}
    {name : Text}
    (scans : Scans tree followLast start names (.arrived (.missing parent name))) :
    tree.get? parent = some .directory ∧ tree.get? (parent ++ [name]) = none := by
  generalize stopped : Stop.arrived (.missing parent name) = stop at scans
  induction scans with
  | arrive => cases stopped
  | up _ _ inductionHypothesis => exact inductionHypothesis stopped
  | stay _ _ inductionHypothesis => exact inductionHypothesis stopped
  | missing here _ absent =>
      cases stopped
      exact ⟨here, absent⟩
  | lastLink => cases stopped
  | link => cases stopped
  | enter _ _ _ _ _ inductionHypothesis => exact inductionHypothesis stopped

/-- A stop that outlives growth, up to the content of a file. -/
inductive Stop.Kept : Stop → Stop → Prop where
  | present
      {location : Location}
      {entry later : Entry}
      (kind : entry.SameKind later) :
      Kept (.arrived (.present location entry)) (.arrived (.present location later))
  | link
      (directory : Location)
      (target : Text)
      (rest : List Text) :
      Kept (.link directory target rest) (.link directory target rest)

/-- A scan that finds something finds it in every tree that has grown. -/
theorem Scans.grow
    {before after : FileTree}
    (grows : GrowsTo before after)
    {followLast : Bool}
    {location : Location}
    {names : List Text}
    {stop : Stop}
    (scans : Scans before followLast location names stop)
    (finds : ∀ parent name, stop ≠ .arrived (.missing parent name)) :
    ∃ later, stop.Kept later ∧ Scans after followLast location names later := by
  induction scans with
  | arrive here =>
      obtain ⟨later, foundLater, kind⟩ := grows _ _ here
      exact ⟨_, .present kind, .arrive foundLater⟩
  | up here _ inductionHypothesis =>
      obtain ⟨later, kept, onward⟩ := inductionHypothesis finds
      exact ⟨later, kept, .up (grows.directory here) onward⟩
  | stay here _ inductionHypothesis =>
      obtain ⟨later, kept, onward⟩ := inductionHypothesis finds
      exact ⟨later, kept, .stay (grows.directory here) onward⟩
  | missing => exact (finds _ _ rfl).elim
  | lastLink here proper next kept =>
      exact ⟨_, .present (.refl _),
        .lastLink (grows.directory here) proper (grows.link next) kept⟩
  | link here proper next followed =>
      exact ⟨_, .link _ _ _, .link (grows.directory here) proper (grows.link next) followed⟩
  | enter here proper next plain _ inductionHypothesis =>
      obtain ⟨later, kept, onward⟩ := inductionHypothesis finds
      obtain ⟨entry, foundLater, kind⟩ := grows _ _ next
      exact ⟨later, kept,
        .enter (grows.directory here) proper foundLater (kind.isPlain plain) onward⟩

/-- A walk that arrives at an entry arrives there in every tree that has grown. -/
theorem Walks.grow
    {before after : FileTree}
    (grows : GrowsTo before after)
    {followLast : Bool}
    {budget : Nat}
    {start location : Location}
    {names : List Text}
    {entry : Entry}
    (walks : Walks before followLast budget start names (.present location entry)) :
    ∃ later, entry.SameKind later ∧
      Walks after followLast budget start names (.present location later) := by
  generalize arrived : Place.present location entry = place at walks
  induction walks with
  | arrive scans =>
      subst arrived
      obtain ⟨later, kept, scansLater⟩ := scans.grow grows (by simp)
      cases kept with
      | present kind => exact ⟨_, kind, .arrive scansLater⟩
  | follow scans _ inductionHypothesis =>
      obtain ⟨later, kind, onward⟩ := inductionHypothesis arrived
      obtain ⟨_, kept, scansLater⟩ := scans.grow grows (by simp)
      cases kept with
      | link => exact ⟨later, kind, .follow scansLater onward⟩

theorem Walks.grow_directory
    {before after : FileTree}
    (grows : GrowsTo before after)
    {followLast : Bool}
    {budget : Nat}
    {start location : Location}
    {names : List Text}
    (walks : Walks before followLast budget start names (.present location .directory)) :
    Walks after followLast budget start names (.present location .directory) := by
  obtain ⟨later, kind, walksLater⟩ := walks.grow grows
  cases kind with
  | directory => exact walksLater

/-- Following links at the end does not change a scan that is stopped by one before. -/
theorem Scans.link_of_imp
    {tree : FileTree}
    {followLast follows : Bool}
    (stronger : followLast = true → follows = true)
    {start directory : Location}
    {names rest : List Text}
    {target : Text}
    (scans : Scans tree followLast start names (.link directory target rest)) :
    Scans tree follows start names (.link directory target rest) := by
  generalize stopped : Stop.link directory target rest = stop at scans
  induction scans with
  | arrive => cases stopped
  | up here _ inductionHypothesis => exact .up here (inductionHypothesis stopped)
  | stay here _ inductionHypothesis => exact .stay here (inductionHypothesis stopped)
  | missing => cases stopped
  | lastLink => cases stopped
  | link here proper next followed =>
      cases stopped
      exact .link here proper next (followed.imp_right stronger)
  | enter here proper next plain _ inductionHypothesis =>
      exact .enter here proper next plain (inductionHypothesis stopped)

/-- Where a scan found nothing, it finds the entry that has been put there. -/
theorem Scans.fill
    {before after : FileTree}
    (grows : GrowsTo before after)
    {followLast : Bool}
    {start parent : Location}
    {names : List Text}
    {name : Text}
    (scans : Scans before followLast start names (.arrived (.missing parent name)))
    {entry : Entry}
    (filled : after.get? (parent ++ [name]) = some entry)
    (plain : entry.IsPlain)
    (follows : Bool) :
    Scans after follows start names (.arrived (.present (parent ++ [name]) entry)) := by
  generalize stopped : Stop.arrived (.missing parent name) = stop at scans
  induction scans with
  | arrive => cases stopped
  | up here _ inductionHypothesis =>
      exact .up (grows.directory here) (inductionHypothesis stopped)
  | stay here _ inductionHypothesis =>
      exact .stay (grows.directory here) (inductionHypothesis stopped)
  | missing here proper _ =>
      cases stopped
      exact .enter (grows.directory here) proper filled plain (.arrive filled)
  | lastLink => cases stopped
  | link => cases stopped
  | enter here proper next nextPlain _ inductionHypothesis =>
      obtain ⟨later, foundLater, kind⟩ := grows _ _ next
      exact .enter (grows.directory here) proper foundLater (kind.isPlain nextPlain)
        (inductionHypothesis stopped)

theorem Walks.fill
    {before after : FileTree}
    (grows : GrowsTo before after)
    {followLast follows : Bool}
    (stronger : followLast = true → follows = true)
    {budget : Nat}
    {start parent : Location}
    {names : List Text}
    {name : Text}
    (walks : Walks before followLast budget start names (.missing parent name))
    {entry : Entry}
    (filled : after.get? (parent ++ [name]) = some entry)
    (plain : entry.IsPlain) :
    Walks after follows budget start names (.present (parent ++ [name]) entry) := by
  generalize arrived : Place.missing parent name = place at walks
  induction walks with
  | arrive scans =>
      subst arrived
      exact .arrive (scans.fill grows filled plain follows)
  | follow scans _ inductionHypothesis =>
      obtain ⟨_, kept, scansLater⟩ := scans.grow grows (by simp)
      cases kept with
      | link =>
          exact .follow (scansLater.link_of_imp stronger) (inductionHypothesis arrived)

theorem Walks.get?_of_present
    {tree : FileTree}
    {followLast : Bool}
    {budget : Nat}
    {start location : Location}
    {names : List Text}
    {entry : Entry}
    (walks : Walks tree followLast budget start names (.present location entry)) :
    tree.get? location = some entry := by
  generalize arrived : Place.present location entry = place at walks
  induction walks with
  | arrive scans =>
      subst arrived
      exact scans.get?_of_present
  | follow _ _ inductionHypothesis => exact inductionHypothesis arrived

theorem Walks.room_of_missing
    {tree : FileTree}
    {followLast : Bool}
    {budget : Nat}
    {start parent : Location}
    {names : List Text}
    {name : Text}
    (walks : Walks tree followLast budget start names (.missing parent name)) :
    tree.get? parent = some .directory ∧ tree.get? (parent ++ [name]) = none := by
  generalize arrived : Place.missing parent name = place at walks
  induction walks with
  | arrive scans =>
      subst arrived
      exact scans.room_of_missing
  | follow _ _ inductionHypothesis => exact inductionHypothesis arrived

/-- A scan fails because something is missing, or no directory, or a name is too long. -/
theorem scan_fault
    {tree : FileTree}
    {followLast : Bool}
    {location : Location}
    {names : List Text}
    {fault : FileFault}
    (failed : scan tree followLast location names = .error fault) :
    fault = .notFound ∨ fault = .notDirectory ∨ fault = .nameTooLong := by
  fun_induction scan tree followLast location names
  case case5 =>
    cases failed
    exact .inr (.inr rfl)
  case case3 inductionHypothesis
      | case4 inductionHypothesis
      | case10 inductionHypothesis =>
    exact inductionHypothesis failed
  all_goals cases failed
  all_goals simp

/-- A walk fails because something is missing or a name is too long. -/
theorem walk_fault
    {tree : FileTree}
    {followLast : Bool}
    {budget : Nat}
    {location : Location}
    {names : List Text}
    {fault : FileFault}
    (failed : walk tree followLast budget location names = .error fault) :
    fault.meansAbsent = true ∨ fault = .nameTooLong := by
  fun_induction walk tree followLast budget location names with
  | case1 budget location names reason scanned =>
      cases failed
      rcases scan_fault scanned with rfl | rfl | isLong
      · exact .inl rfl
      · exact .inl rfl
      · exact .inr isLong
  | case2 => cases failed
  | case3 =>
      cases failed
      exact .inl rfl
  | case4 location names directory target rest scanned budget start inductionHypothesis =>
      exact inductionHypothesis failed

end ModSkeleton.FileTree
