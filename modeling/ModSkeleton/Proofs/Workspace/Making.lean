import ModSkeleton.Proofs.FileTree.Arrival
import ModSkeleton.Workspace

namespace ModSkeleton.Workspace

open FileTree

/-!
# Making directories

Making the directories of a path, successful or not, adds directories and does
nothing else, and each of them stands where some beginning of the path leads
(`MadeAlong`). If it succeeds, the path leads to a directory. Along a path
without steps up, that directory either was there before or is new, and then so
is everything that was added on the way to it.
-/

/-- A path whose text the system takes: no NUL in it, and not too long. -/
structure Takes (path : Path) : Prop where
  noNull : path.toText.contains '\x00' = false
  fits : Text.utf8Size path.toText ≤ maxPathSize

/-- A path leads to a place exactly when the system takes it and a walk arrives. -/
theorem locate_eq_ok_iff
    {workspace : Workspace}
    {followLast : Bool}
    {path : Path}
    {place : Place} :
    workspace.locate followLast path = .ok place ↔
      Takes path ∧
        Walks workspace.tree followLast maxLinks (startOf workspace.directory path)
          path.parts place := by
  unfold locate FileTree.locate
  by_cases null : path.toText.contains '\x00' = true
  · rw [if_pos null]
    constructor
    · intro located
      cases located
    · rintro ⟨takes, _⟩
      rw [takes.noNull] at null
      cases null
  · by_cases long : maxPathSize < Text.utf8Size path.toText
    · rw [if_neg null, if_pos long]
      constructor
      · intro located
        cases located
      · rintro ⟨takes, _⟩
        exact (Nat.not_lt.mpr takes.fits long).elim
    · have takes : Takes path := ⟨by simpa using null, Nat.le_of_not_lt long⟩
      rw [if_neg null, if_neg long, ← walk_eq_ok_iff]
      constructor
      · intro located
        split at located
        case h_1 walked =>
          cases located
          exact ⟨takes, walked⟩
        case h_2 => cases located
      · rintro ⟨_, walked⟩
        simp only [walked]

section

variable
    (host : Host)
    (workspace : Workspace)
    (followLast : Bool)
    (path : Path)

/-- On a host, looking up is refused by a device, or it ends as the tree says. -/
theorem locate_cases :
    (∃ fault,
      host.locate workspace followLast path = .error (.system (.device fault))) ∨
      host.locate workspace followLast path = workspace.locate followLast path := by
  unfold Host.locate
  cases refused :
      (workspace.tree.searchedFor workspace.directory followLast path).findSome?
        (host.device.search workspace.tree) with
  | some fault => exact .inl ⟨fault, by simp only [refused]⟩
  | none => exact .inr (by simp only [refused])

/-- Where nothing fails but what the tree determines, looking up ends as the tree says. -/
@[simp]
theorem locate_faultless :
    Host.faultless.locate workspace followLast path = workspace.locate followLast path := by
  have silent :
      (workspace.tree.searchedFor workspace.directory followLast path).findSome?
        (Host.faultless.device.search workspace.tree) = none :=
    List.findSome?_eq_none_iff.mpr fun _ _ => rfl
  simp only [Host.locate, silent]

variable {host workspace followLast path}

/-- What is found on a host is found where the tree says. -/
theorem locate_of_host
    {place : Place}
    (located : host.locate workspace followLast path = .ok place) :
    workspace.locate followLast path = .ok place := by
  rcases locate_cases host workspace followLast path with ⟨fault, refused⟩ | same
  · rw [refused] at located
    cases located
  · rw [← same, located]

end

/-- The names in a directory are listed as they are. -/
theorem names_of_namesIn
    {host : Host}
    {tree : FileTree}
    {location : Location}
    {names : List Text}
    (listed : host.namesIn tree location = .ok names) :
    names = tree.childNames location := by
  unfold Host.namesIn at listed
  split at listed
  · cases listed
  · cases listed
    rfl

/-- A path leads to a directory at a location. -/
def LeadsTo
    (workspace : Workspace)
    (path : Path)
    (location : Location) :
    Prop :=
  workspace.locate true path = .ok (.present location .directory)

namespace LeadsTo

theorem get?
    {workspace : Workspace}
    {path : Path}
    {location : Location}
    (leads : workspace.LeadsTo path location) :
    workspace.tree.get? location = some .directory :=
  (locate_eq_ok_iff.mp leads).2.get?_of_present

theorem unique
    {workspace : Workspace}
    {path : Path}
    {first second : Location}
    (one : workspace.LeadsTo path first)
    (other : workspace.LeadsTo path second) :
    first = second := by
  have same := one.symm.trans other
  cases same
  rfl

theorem grow
    {before after : Workspace}
    (grows : GrowsTo before.tree after.tree)
    (sameDirectory : after.directory = before.directory)
    {path : Path}
    {location : Location}
    (leads : before.LeadsTo path location) :
    after.LeadsTo path location := by
  obtain ⟨takes, walks⟩ := locate_eq_ok_iff.mp leads
  apply locate_eq_ok_iff.mpr
  rw [sameDirectory]
  exact ⟨takes, walks.grow_directory grows⟩

end LeadsTo

/-- What is found to be a directory on a host is one that the path leads to. -/
theorem leadsTo_of_isDirectory?
    {host : Host}
    {workspace : Workspace}
    {path : Path}
    (found : host.isDirectory? workspace path = .ok true) :
    ∃ location, workspace.LeadsTo path location := by
  unfold Host.isDirectory? Host.find? at found
  cases located : host.locate workspace true path with
  | error fault =>
      rw [located] at found
      cases fault with
      | embeddedNull => cases found
      | system fault =>
          cases absent : fault.meansAbsent <;>
            simp [absent, bind, Except.bind, pure, Except.pure] at found
  | ok place =>
      rw [located] at found
      cases place with
      | missing parent name => cases found
      | present location entry =>
          cases entry with
          | directory => exact ⟨location, locate_of_host located⟩
          | file content => cases found
          | link target => cases found

/-- Making one directory fails, finds it, or puts it where nothing stands. -/
theorem ensureDirectory_cases
    (host : Host)
    (workspace : Workspace)
    (path : Path) :
    (∃ fault, host.ensureDirectory workspace path = (workspace, .error fault)) ∨
      (host.ensureDirectory workspace path = (workspace, .ok ()) ∧
        ∃ location, workspace.LeadsTo path location) ∨
      ∃ parent name,
        workspace.locate false path = .ok (.missing parent name) ∧
          host.ensureDirectory workspace path =
            (workspace.put (parent ++ [name]) .directory, .ok ()) := by
  unfold Host.ensureDirectory
  split
  case h_1 created made =>
    refine .inr (.inr ?_)
    unfold Host.makeDirectory at made
    split at made
    case h_1 => cases made
    case h_2 => cases made
    case h_3 parent name located =>
      split at made
      case h_1 => cases made
      case h_2 =>
        cases made
        exact ⟨parent, name, locate_of_host located, rfl⟩
  case h_2 => exact .inl ⟨_, rfl⟩
  case h_3 =>
    split
    case h_1 found => exact .inr (.inl ⟨rfl, leadsTo_of_isDirectory? found⟩)
    case h_2 => exact .inl ⟨_, rfl⟩
    case h_3 => exact .inl ⟨_, rfl⟩
  case h_4 => exact .inl ⟨_, rfl⟩

/-- Without faults, a directory that a path leads to is found where it is to be made. -/
theorem ensureDirectory_of_leadsTo
    {workspace : Workspace}
    {path : Path}
    {location : Location}
    (leads : workspace.LeadsTo path location) :
    Host.faultless.ensureDirectory workspace path = (workspace, .ok ()) := by
  obtain ⟨takes, walks⟩ := locate_eq_ok_iff.mp leads
  obtain ⟨place, entry, unfollowed⟩ := walks.unfollowed
  have located : workspace.locate false path = .ok (.present place entry) :=
    locate_eq_ok_iff.mpr ⟨takes, unfollowed⟩
  have found : workspace.locate true path = .ok (.present location .directory) := leads
  simp [Host.ensureDirectory, Host.makeDirectory, Host.isDirectory?, Host.find?, located, found,
    bind, Except.bind, pure, Except.pure]

/-- Without faults, a directory is made where nothing stands. -/
theorem ensureDirectory_of_missing
    {workspace : Workspace}
    {path : Path}
    {parent : Location}
    {name : Text}
    (located : workspace.locate false path = .ok (.missing parent name)) :
    Host.faultless.ensureDirectory workspace path =
      (workspace.put (parent ++ [name]) .directory, .ok ()) := by
  simp only [Host.ensureDirectory, Host.makeDirectory, locate_faultless, located]
  rfl

theorem leadsTo_put
    {workspace : Workspace}
    {path : Path}
    {parent : Location}
    {name : Text}
    (located : workspace.locate false path = .ok (.missing parent name)) :
    (workspace.put (parent ++ [name]) .directory).LeadsTo path (parent ++ [name]) := by
  obtain ⟨takes, walks⟩ := locate_eq_ok_iff.mp located
  have room := walks.room_of_missing
  apply locate_eq_ok_iff.mpr
  refine ⟨takes, walks.fill ?_ (by simp) ?_ trivial⟩
  · exact GrowsTo.insert_of_none room.2 .directory
  · exact get?_insert_self workspace.tree (by simp) .directory

/-- A location that some beginning of a path leads to. -/
def IsAlong
    (workspace : Workspace)
    (path : Path)
    (location : Location) :
    Prop :=
  ∃ upper, upper <+: path.parts ∧ workspace.LeadsTo ⟨path.root, upper⟩ location

/-- Between two workspaces, directories were made along a path and nothing else was done. -/
structure MadeAlong
    (path : Path)
    (before after : Workspace) :
    Prop where
  directory : after.directory = before.directory
  adds : AddsDirectories (after.IsAlong path) before.tree after.tree
  wellFormed : before.tree.WellFormed → after.tree.WellFormed

namespace MadeAlong

theorem refl
    (path : Path)
    (workspace : Workspace) :
    MadeAlong path workspace workspace where
  directory := rfl
  adds := .refl _ _
  wellFormed wellFormed := wellFormed

theorem trans
    {root : PathRoot}
    {upper parts : List Text}
    (beginning : upper <+: parts)
    {first second third : Workspace}
    (before : MadeAlong ⟨root, upper⟩ first second)
    (after : MadeAlong ⟨root, parts⟩ second third) :
    MadeAlong ⟨root, parts⟩ first third where
  directory := after.directory.trans before.directory
  adds := by
    refine AddsDirectories.trans (before.adds.mono ?_) after.adds
    rintro location ⟨above, isAbove, leads⟩
    exact ⟨above, isAbove.trans beginning, leads.grow after.adds.growsTo after.directory⟩
  wellFormed wellFormed := after.wellFormed (before.wellFormed wellFormed)

theorem ensureDirectory
    (host : Host)
    (path : Path)
    (workspace : Workspace) :
    MadeAlong path workspace (host.ensureDirectory workspace path).1 := by
  rcases ensureDirectory_cases host workspace path with
    ⟨_, result⟩ | ⟨result, _⟩ | ⟨parent, name, located, result⟩
  · rw [result]
    exact .refl path workspace
  · rw [result]
    exact .refl path workspace
  · rw [result]
    have leads := leadsTo_put located
    obtain ⟨inside, absent⟩ := (locate_eq_ok_iff.mp located).2.room_of_missing
    exact
      { directory := rfl
        adds := AddsDirectories.insert absent ⟨path.parts, List.prefix_rfl, leads⟩
        wellFormed := fun wellFormed => wellFormed.insert inside (fun _ => rfl) }

end MadeAlong

theorem leadsTo_of_ensureDirectory
    {host : Host}
    {workspace : Workspace}
    {path : Path}
    (made : (host.ensureDirectory workspace path).2 = .ok ()) :
    ∃ location, (host.ensureDirectory workspace path).1.LeadsTo path location := by
  rcases ensureDirectory_cases host workspace path with
    ⟨_, result⟩ | ⟨result, location, leads⟩ | ⟨parent, name, located, result⟩
  · rw [result] at made
    cases made
  · rw [result]
    exact ⟨location, leads⟩
  · rw [result]
    exact ⟨parent ++ [name], leadsTo_put located⟩

/--
Making the directories of a path comes down to making the last one, at once or
after those above it; or making those above it fails.
-/
theorem ensureDirectoriesUpward_cons
    (host : Host)
    (root : PathRoot)
    (name : Text)
    (above : List Text)
    (workspace : Workspace) :
    host.ensureDirectoriesUpward root (name :: above) workspace =
        host.ensureDirectory workspace ⟨root, above.reverse ++ [name]⟩ ∨
      (∃ grown fault,
        host.ensureDirectoriesUpward root above workspace = (grown, .error fault) ∧
          host.ensureDirectoriesUpward root (name :: above) workspace = (grown, .error fault)) ∨
      ∃ grown,
        host.ensureDirectoriesUpward root above workspace = (grown, .ok ()) ∧
          host.ensureDirectoriesUpward root (name :: above) workspace =
            host.ensureDirectory grown ⟨root, above.reverse ++ [name]⟩ := by
  rw [← List.reverse_cons, Host.ensureDirectoriesUpward]
  split
  case h_1 =>
    cases upper : host.ensureDirectoriesUpward root above workspace with
    | mk grown outcome =>
        cases outcome with
        | ok value => exact .inr (.inr ⟨grown, rfl, rfl⟩)
        | error fault => exact .inr (.inl ⟨grown, fault, rfl, rfl⟩)
  case h_2 => exact .inl rfl

theorem madeAlong_ensureDirectoriesUpward
    (host : Host)
    (root : PathRoot)
    (names : List Text)
    (workspace : Workspace) :
    MadeAlong ⟨root, names.reverse⟩ workspace
      (host.ensureDirectoriesUpward root names workspace).1 := by
  induction names with
  | nil => exact .ensureDirectory host ⟨root, []⟩ workspace
  | cons name above inductionHypothesis =>
      have beginning : above.reverse <+: above.reverse ++ [name] := List.prefix_append _ _
      rw [List.reverse_cons]
      rcases ensureDirectoriesUpward_cons host root name above workspace with
        result | ⟨grown, fault, upper, result⟩ | ⟨grown, upper, result⟩
      · rw [result]
        exact .ensureDirectory host _ workspace
      · rw [upper] at inductionHypothesis
        rw [result]
        exact inductionHypothesis.trans beginning (.refl _ grown)
      · rw [upper] at inductionHypothesis
        rw [result]
        exact inductionHypothesis.trans beginning (.ensureDirectory host _ grown)

/-- Making the directories of a path makes directories along it and does nothing else. -/
theorem madeAlong_ensureDirectories
    (host : Host)
    (workspace : Workspace)
    (path : Path) :
    MadeAlong path workspace (host.ensureDirectories workspace path).1 := by
  have made := madeAlong_ensureDirectoriesUpward host path.root path.parts.reverse workspace
  rwa [List.reverse_reverse] at made

theorem leadsTo_of_ensureDirectoriesUpward
    {host : Host}
    {root : PathRoot}
    {names : List Text}
    {workspace : Workspace}
    (made : (host.ensureDirectoriesUpward root names workspace).2 = .ok ()) :
    ∃ location,
      (host.ensureDirectoriesUpward root names workspace).1.LeadsTo ⟨root, names.reverse⟩
        location := by
  cases names with
  | nil => exact leadsTo_of_ensureDirectory made
  | cons name above =>
      rw [List.reverse_cons]
      rcases ensureDirectoriesUpward_cons host root name above workspace with
        result | ⟨grown, fault, _, result⟩ | ⟨grown, _, result⟩
      · rw [result] at made ⊢
        exact leadsTo_of_ensureDirectory made
      · rw [result] at made
        cases made
      · rw [result] at made ⊢
        exact leadsTo_of_ensureDirectory made

/-- Once its directories are made, a path leads to a directory. -/
theorem leadsTo_of_ensureDirectories
    {host : Host}
    {workspace : Workspace}
    {path : Path}
    (made : (host.ensureDirectories workspace path).2 = .ok ()) :
    ∃ location, (host.ensureDirectories workspace path).1.LeadsTo path location := by
  have leads := leadsTo_of_ensureDirectoriesUpward made
  rwa [List.reverse_reverse] at leads

/-- Without faults, the directories of a path that leads to one do not have to be made. -/
theorem ensureDirectories_of_leadsTo
    {workspace : Workspace}
    {path : Path}
    {location : Location}
    (leads : workspace.LeadsTo path location) :
    Host.faultless.ensureDirectories workspace path = (workspace, .ok ()) := by
  have found := ensureDirectory_of_leadsTo leads
  unfold Host.ensureDirectories
  cases shape : path.parts.reverse with
  | nil =>
      have parts : path.parts = [] := by simpa using shape
      have same : path = ⟨path.root, []⟩ := by rw [← parts]
      rw [same] at found
      exact found
  | cons name above =>
      have parts : path.parts = (name :: above).reverse := by rw [← shape]; simp
      have same : path = ⟨path.root, (name :: above).reverse⟩ := by rw [← parts]
      rw [same] at found
      rw [Host.ensureDirectoriesUpward]
      simp only [found]

/-- No more directories are missing on the way up than there are names. -/
theorem missingUpward_le
    (host : Host)
    (root : PathRoot)
    (names : List Text)
    (workspace : Workspace) :
    host.missingUpward root names workspace ≤ names.length := by
  induction names with
  | nil => exact Nat.le_refl 0
  | cons name above inductionHypothesis =>
      rw [Host.missingUpward, List.length_cons]
      split <;> omega

/-- Calls are nested too deeply only where a path has more names than there is room for. -/
theorem room_of_exhaustedBy
    {host : Host}
    {workspace : Workspace}
    {path : Path}
    (exhausted : host.exhaustedBy workspace path = true) :
    ∃ room, host.stack.making = some room ∧ room < path.parts.length := by
  unfold Host.exhaustedBy at exhausted
  cases limit : host.stack.making with
  | none =>
      rw [limit] at exhausted
      cases exhausted
  | some room =>
      rw [limit] at exhausted
      have missing := missingUpward_le host path.root path.parts.reverse workspace
      rw [List.length_reverse] at missing
      exact ⟨room, rfl, Nat.lt_of_lt_of_le (of_decide_eq_true exhausted) missing⟩

/-- In a tree without links, a path leads to where it leads lexically. -/
theorem LeadsTo.eq_canonical
    {workspace : Workspace}
    (linkFree : workspace.tree.LinkFree)
    {path : Path}
    (noStay : Path.currentName ∉ path.parts)
    {location : Location}
    (leads : workspace.LeadsTo path location) :
    location = workspace.canonical path := by
  exact (locate_eq_ok_iff.mp leads).2.location_of_linkFree linkFree noStay

/-- The location that a path names from the working directory, whatever stands there. -/
def absolute
    (workspace : Workspace)
    (path : Path) :
    Location :=
  startOf workspace.directory path ++ path.parts

theorem absolute_append
    (workspace : Workspace)
    (path : Path)
    (names : List Text) :
    workspace.absolute (path.append names) = workspace.absolute path ++ names := by
  have sameStart :
      startOf workspace.directory (path.append names) = startOf workspace.directory path :=
    rfl
  rw [absolute, absolute, sameStart, Path.parts_append, List.append_assoc]

/-- The location of a path depends on the working directory only. -/
theorem absolute_congr
    {first second : Workspace}
    (same : first.directory = second.directory)
    (path : Path) :
    first.absolute path = second.absolute path := by
  simp only [absolute, same]

/-- Without links and steps up, a path leads nowhere but to its location. -/
theorem location_eq_absolute
    {workspace : Workspace}
    (linkFree : workspace.tree.LinkFree)
    {path : Path}
    (areNames : AreNames path.parts)
    {followLast : Bool}
    {place : Place}
    (located : workspace.locate followLast path = .ok place) :
    place.location = workspace.absolute path :=
  (locate_eq_ok_iff.mp located).2.location_of_linkFreeFrom
    (.of_linkFree linkFree _) areNames

theorem MadeAlong.linkFree
    {path : Path}
    {before after : Workspace}
    (made : MadeAlong path before after)
    (linkFree : before.tree.LinkFree) :
    after.tree.LinkFree :=
  (LinkFreeFrom.of_linkFree linkFree []).addsDirectories made.adds

/-- Making directories does not change where paths lead lexically. -/
theorem MadeAlong.canonical_eq
    {path : Path}
    {before after : Workspace}
    (made : MadeAlong path before after)
    (other : Path) :
    after.canonical other = before.canonical other := by
  rw [canonical, canonical, made.directory]

/-- Every beginning of a path that leads to a directory arrives at a directory. -/
theorem LeadsTo.walks_beginning
    {workspace : Workspace}
    {path : Path}
    {location : Location}
    (leads : workspace.LeadsTo path location)
    {upper : List Text}
    (beginning : upper <+: path.parts) :
    ∃ middle,
      Walks workspace.tree true maxLinks (startOf workspace.directory path) upper
        (.present middle .directory) := by
  obtain ⟨more, shape⟩ := beginning
  have walks := (locate_eq_ok_iff.mp leads).2
  rw [← shape] at walks
  by_cases further : more = []
  · rw [further, List.append_nil] at walks
    exact ⟨location, walks⟩
  · obtain ⟨middle, _, first, _⟩ := walks.split further
    exact ⟨middle, first⟩

/-- A directory on the way to a longer path is found before its end. -/
theorem LeadsTo.walks_onward
    {workspace : Workspace}
    {root : PathRoot}
    {upper more : List Text}
    (further : more ≠ [])
    {middle : Location}
    (leads : workspace.LeadsTo ⟨root, upper⟩ middle)
    {followLast : Bool}
    {place : Place}
    (located : workspace.locate followLast ⟨root, upper ++ more⟩ = .ok place) :
    ∃ left, Walks workspace.tree followLast left middle more place :=
  (locate_eq_ok_iff.mp leads).2.split_at further (locate_eq_ok_iff.mp located).2

/-- A path leads to a new directory, and all that was added stands on the way to it. -/
structure MadeFresh
    (path : Path)
    (before after : Workspace)
    (location : Location) :
    Prop where
  leads : after.LeadsTo path location
  absent : before.tree.get? location = none
  onWay : AddsDirectories (· <+: location) before.tree after.tree

/-- A path led to a directory before and nothing was done, or it leads to a fresh one. -/
def FoundOrFresh
    (path : Path)
    (before after : Workspace) :
    Prop :=
  after = before ∧ (∃ location, before.LeadsTo path location) ∨
    ∃ location, MadeFresh path before after location

/-- A directory made in an existing one is new, and it is all that was added. -/
theorem madeFresh_put
    {workspace : Workspace}
    {path : Path}
    {parent : Location}
    {name : Text}
    (located : workspace.locate false path = .ok (.missing parent name)) :
    MadeFresh path workspace (workspace.put (parent ++ [name]) .directory)
      (parent ++ [name]) where
  leads := leadsTo_put located
  absent := (locate_eq_ok_iff.mp located).2.room_of_missing.2
  onWay :=
    AddsDirectories.insert (locate_eq_ok_iff.mp located).2.room_of_missing.2 List.prefix_rfl

theorem MadeFresh.ensureDirectory
    {host : Host}
    {before grown : Workspace}
    (wellFormed : before.tree.WellFormed)
    {root : PathRoot}
    {upper : List Text}
    {middle : Location}
    (fresh : MadeFresh ⟨root, upper⟩ before grown middle)
    {name : Text}
    (isName : AreNames [name])
    (made : (host.ensureDirectory grown ⟨root, upper ++ [name]⟩).2 = .ok ()) :
    ∃ location,
      MadeFresh ⟨root, upper ++ [name]⟩ before
        (host.ensureDirectory grown ⟨root, upper ++ [name]⟩).1 location := by
  have absentBelow : ∀ below, before.tree.get? (middle ++ below) = none :=
    wellFormed.none_below fresh.absent
  -- Nothing stood below the fresh directory, so no link can lead away from there.
  have linkFree : grown.tree.LinkFreeFrom middle := by
    intro below target found
    rcases fresh.onWay (middle ++ below) with same | ⟨_, added, _⟩
    · rw [same, absentBelow below] at found
      cases found
    · rw [added] at found
      cases found
  have arrives :
      ∀ {followLast : Bool} {place : Place},
        grown.locate followLast ⟨root, upper ++ [name]⟩ = .ok place →
        place.location = middle ++ [name] := by
    intro followLast place located
    obtain ⟨left, walks⟩ := fresh.leads.walks_onward (by simp) located
    exact walks.location_of_linkFreeFrom linkFree isName
  rcases ensureDirectory_cases host grown ⟨root, upper ++ [name]⟩ with
    ⟨_, result⟩ | ⟨result, location, leads⟩ | ⟨parent, last, located, result⟩
  · rw [result] at made
    cases made
  · have shape : location = middle ++ [name] := arrives leads
    rw [result]
    refine ⟨location, leads, shape ▸ absentBelow [name], fresh.onWay.mono ?_⟩
    intro other isAbove
    exact shape ▸ isAbove.trans (List.prefix_append middle [name])
  · have shape : parent ++ [last] = middle ++ [name] := arrives located
    have step := madeFresh_put located
    rw [result]
    refine ⟨parent ++ [last], step.leads, shape ▸ absentBelow [name], ?_⟩
    refine AddsDirectories.trans (fresh.onWay.mono ?_) step.onWay
    intro other isAbove
    exact shape ▸ isAbove.trans (List.prefix_append middle [name])

theorem foundOrFresh_ensureDirectory
    {host : Host}
    {workspace : Workspace}
    {path : Path}
    (made : (host.ensureDirectory workspace path).2 = .ok ()) :
    FoundOrFresh path workspace (host.ensureDirectory workspace path).1 := by
  rcases ensureDirectory_cases host workspace path with
    ⟨_, result⟩ | ⟨result, found⟩ | ⟨parent, name, located, result⟩
  · rw [result] at made
    cases made
  · rw [result]
    exact .inl ⟨rfl, found⟩
  · rw [result]
    exact .inr ⟨_, madeFresh_put located⟩

theorem foundOrFresh_ensureDirectoriesUpward
    {host : Host}
    {root : PathRoot}
    {names : List Text}
    (areNames : AreNames names.reverse)
    {workspace : Workspace}
    (wellFormed : workspace.tree.WellFormed)
    (made : (host.ensureDirectoriesUpward root names workspace).2 = .ok ()) :
    FoundOrFresh ⟨root, names.reverse⟩ workspace
      (host.ensureDirectoriesUpward root names workspace).1 := by
  induction names with
  | nil => exact foundOrFresh_ensureDirectory made
  | cons name above inductionHypothesis =>
      rw [List.reverse_cons] at areNames ⊢
      have aboveNames : AreNames above.reverse :=
        fun other member => areNames other (List.mem_append_left _ member)
      have isName : AreNames [name] :=
        fun other member => areNames other (List.mem_append_right _ member)
      rcases ensureDirectoriesUpward_cons host root name above workspace with
        result | ⟨grown, fault, _, result⟩ | ⟨grown, upper, result⟩
      · rw [result] at made ⊢
        exact foundOrFresh_ensureDirectory made
      · rw [result] at made
        cases made
      · rw [upper] at inductionHypothesis
        rw [result] at made ⊢
        rcases inductionHypothesis aboveNames rfl with ⟨same, _⟩ | ⟨middle, fresh⟩
        · obtain rfl : grown = workspace := same
          exact foundOrFresh_ensureDirectory made
        · exact .inr (fresh.ensureDirectory wellFormed isName made)

/-- Along a path without steps up, a directory is found or made fresh. -/
theorem foundOrFresh_ensureDirectories
    {host : Host}
    {workspace : Workspace}
    (wellFormed : workspace.tree.WellFormed)
    {path : Path}
    (areNames : AreNames path.parts)
    (made : (host.ensureDirectories workspace path).2 = .ok ()) :
    FoundOrFresh path workspace (host.ensureDirectories workspace path).1 := by
  have result :=
    foundOrFresh_ensureDirectoriesUpward
      (by rwa [List.reverse_reverse]) wellFormed made
  rwa [List.reverse_reverse] at result

end ModSkeleton.Workspace
