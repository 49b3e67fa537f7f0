import ModSkeleton.Proofs.FileTree.Walking

namespace ModSkeleton.FileTree

/-!
# Walks in parts and walks without links

A walk along a path passes through the directory that every beginning of the
path leads to, and goes on from there. Where no links stand, a walk along proper
names arrives right below its start, and a walk with steps up arrives where
cancelling them lexically says.
-/

/-- A scan along a path either passes through a directory or meets a link before. -/
theorem Scans.split
    {tree : FileTree}
    {followLast : Bool}
    {start : Location}
    {front back : List Text}
    (more : back ≠ [])
    {stop : Stop}
    (scans : Scans tree followLast start (front ++ back) stop) :
    (∃ middle,
        Scans tree true start front (.arrived (.present middle .directory)) ∧
          Scans tree followLast middle back stop) ∨
      ∃ directory target rest,
        Scans tree true start front (.link directory target rest) ∧
          stop = .link directory target (rest ++ back) := by
  induction front generalizing start with
  | nil =>
      obtain ⟨name, names, rfl⟩ := List.exists_cons_of_ne_nil more
      have here : tree.get? start = some .directory := by
        cases scans <;> assumption
      exact .inl ⟨start, .arrive here, scans⟩
  | cons name front inductionHypothesis =>
      have notLast : front ++ back ≠ [] := by simp [more]
      rw [List.cons_append] at scans
      generalize namesShape : name :: (front ++ back) = names at scans
      cases scans with
      | arrive => cases namesShape
      | up here onward =>
          cases namesShape
          rcases inductionHypothesis onward with
            ⟨middle, first, second⟩ | ⟨directory, target, rest, first, shape⟩
          · exact .inl ⟨middle, .up here first, second⟩
          · exact .inr ⟨directory, target, rest, .up here first, shape⟩
      | stay here onward =>
          cases namesShape
          rcases inductionHypothesis onward with
            ⟨middle, first, second⟩ | ⟨directory, target, rest, first, shape⟩
          · exact .inl ⟨middle, .stay here first, second⟩
          · exact .inr ⟨directory, target, rest, .stay here first, shape⟩
      | missing =>
          simp only [List.cons.injEq] at namesShape
          exact (notLast namesShape.2).elim
      | lastLink =>
          simp only [List.cons.injEq] at namesShape
          exact (notLast namesShape.2).elim
      | @link _ _ target _ here proper next _ =>
          cases namesShape
          exact .inr ⟨start, target, front, .link here proper next (.inr rfl), rfl⟩
      | enter here proper next plain onward =>
          cases namesShape
          rcases inductionHypothesis onward with
            ⟨middle, first, second⟩ | ⟨directory, target, rest, first, shape⟩
          · exact .inl ⟨middle, .enter here proper next plain first, second⟩
          · exact .inr ⟨directory, target, rest, .enter here proper next plain first, shape⟩

/-- A walk along a path passes through the directory that its beginning leads to. -/
theorem Walks.split
    {tree : FileTree}
    {followLast : Bool}
    {budget : Nat}
    {start : Location}
    {front back : List Text}
    (more : back ≠ [])
    {place : Place}
    (walks : Walks tree followLast budget start (front ++ back) place) :
    ∃ middle left,
      Walks tree true budget start front (.present middle .directory) ∧
        Walks tree followLast left middle back place := by
  generalize namesShape : front ++ back = names at walks
  induction walks generalizing front with
  | arrive scans =>
      subst namesShape
      rcases scans.split more with ⟨middle, first, second⟩ | ⟨_, _, _, _, shape⟩
      · exact ⟨middle, 0, .arrive first, .arrive second⟩
      · cases shape
  | follow scans onward inductionHypothesis =>
      subst namesShape
      rcases scans.split more with ⟨middle, first, second⟩ | ⟨_, _, rest, first, shape⟩
      · exact ⟨middle, _, .arrive first, .follow second onward⟩
      · cases shape
        obtain ⟨middle, left, upper, lower⟩ :=
          inductionHypothesis (List.append_assoc _ rest back)
        exact ⟨middle, left, .follow first upper, lower⟩

theorem Walks.unique
    {tree : FileTree}
    {followLast : Bool}
    {budget : Nat}
    {start : Location}
    {names : List Text}
    {first second : Place}
    (one : Walks tree followLast budget start names first)
    (other : Walks tree followLast budget start names second) :
    first = second := by
  have same := (walk_eq_ok_iff.mpr one).symm.trans (walk_eq_ok_iff.mpr other)
  cases same
  rfl

theorem Walks.split_at
    {tree : FileTree}
    {followLast : Bool}
    {budget : Nat}
    {start middle : Location}
    {front back : List Text}
    (more : back ≠ [])
    {place : Place}
    {entry : Entry}
    (upper : Walks tree true budget start front (.present middle entry))
    (walks : Walks tree followLast budget start (front ++ back) place) :
    ∃ left, Walks tree followLast left middle back place := by
  obtain ⟨passed, left, first, second⟩ := walks.split more
  have same := first.unique upper
  cases same
  exact ⟨left, second⟩

/-- A scan that finds something finds it, perhaps as a link, without following a last one. -/
theorem Scans.unfollowed
    {tree : FileTree}
    {start : Location}
    {names : List Text}
    {stop : Stop}
    (scans : Scans tree true start names stop)
    (finds : ∀ parent name, stop ≠ .arrived (.missing parent name)) :
    Scans tree false start names stop ∨
      ∃ place found, Scans tree false start names (.arrived (.present place found)) := by
  induction scans with
  | arrive here => exact .inl (.arrive here)
  | up here _ inductionHypothesis =>
      rcases inductionHypothesis finds with same | ⟨place, found, onward⟩
      · exact .inl (.up here same)
      · exact .inr ⟨place, found, .up here onward⟩
  | stay here _ inductionHypothesis =>
      rcases inductionHypothesis finds with same | ⟨place, found, onward⟩
      · exact .inl (.stay here same)
      · exact .inr ⟨place, found, .stay here onward⟩
  | missing => exact (finds _ _ rfl).elim
  | lastLink _ _ _ kept => cases kept
  | @link _ name target rest here proper next _ =>
      by_cases last : rest = []
      · subst last
        exact .inr ⟨_, _, .lastLink here proper next rfl⟩
      · exact .inl (.link here proper next (.inl last))
  | enter here proper next plain _ inductionHypothesis =>
      rcases inductionHypothesis finds with same | ⟨place, found, onward⟩
      · exact .inl (.enter here proper next plain same)
      · exact .inr ⟨place, found, .enter here proper next plain onward⟩

/-- A walk that arrives at an entry arrives at one without following a last link. -/
theorem Walks.unfollowed
    {tree : FileTree}
    {budget : Nat}
    {start location : Location}
    {names : List Text}
    {entry : Entry}
    (walks : Walks tree true budget start names (.present location entry)) :
    ∃ place found, Walks tree false budget start names (.present place found) := by
  generalize arrived : Place.present location entry = place at walks
  induction walks with
  | arrive scans =>
      subst arrived
      rcases scans.unfollowed (by simp) with same | ⟨place, found, onward⟩
      · exact ⟨_, _, .arrive same⟩
      · exact ⟨place, found, .arrive onward⟩
  | follow scans _ inductionHypothesis =>
      obtain ⟨place, found, onward⟩ := inductionHypothesis arrived
      rcases scans.unfollowed (by simp) with same | ⟨last, lastFound, scansLast⟩
      · exact ⟨place, found, .follow same onward⟩
      · exact ⟨last, lastFound, .arrive scansLast⟩

/-- Names that neither go up nor stay in place. -/
def AreNames
    (names : List Text) :
    Prop :=
  ∀ name ∈ names, name ≠ Path.parentName ∧ name ≠ Path.currentName

/-- Without links below its start, a scan along names arrives right below it. -/
theorem Scans.location_of_linkFreeFrom
    {tree : FileTree}
    {followLast : Bool}
    {start : Location}
    (linkFree : tree.LinkFreeFrom start)
    {names : List Text}
    (areNames : AreNames names)
    {stop : Stop}
    (scans : Scans tree followLast start names stop) :
    ∃ place, stop = .arrived place ∧ place.location = start ++ names := by
  induction scans with
  | arrive => exact ⟨_, rfl, by simp [Place.location]⟩
  | up => exact ((areNames _ List.mem_cons_self).1 rfl).elim
  | stay => exact ((areNames _ List.mem_cons_self).2 rfl).elim
  | missing => exact ⟨_, rfl, rfl⟩
  | lastLink _ _ next _ => exact (linkFree [_] _ next).elim
  | link _ _ next _ => exact (linkFree [_] _ next).elim
  | @enter _ name rest _ _ _ _ _ _ _ inductionHypothesis =>
      obtain ⟨place, shape, located⟩ :=
        inductionHypothesis (linkFree.append [name])
          (fun other member => areNames other (List.mem_cons_of_mem _ member))
      exact ⟨place, shape, by rw [located]; simp⟩

/-- Without links below its start, a walk along names arrives right below it. -/
theorem Walks.location_of_linkFreeFrom
    {tree : FileTree}
    {followLast : Bool}
    {budget : Nat}
    {start : Location}
    (linkFree : tree.LinkFreeFrom start)
    {names : List Text}
    (areNames : AreNames names)
    {place : Place}
    (walks : Walks tree followLast budget start names place) :
    place.location = start ++ names := by
  cases walks with
  | arrive scans =>
      obtain ⟨arrived, shape, located⟩ := scans.location_of_linkFreeFrom linkFree areNames
      cases shape
      exact located
  | follow scans _ =>
      obtain ⟨_, shape, _⟩ := scans.location_of_linkFreeFrom linkFree areNames
      cases shape

/-- In a tree without links, a scan is never stopped by one. -/
theorem Scans.arrived_of_linkFree
    {tree : FileTree}
    (linkFree : tree.LinkFree)
    {followLast : Bool}
    {start : Location}
    {names : List Text}
    {stop : Stop}
    (scans : Scans tree followLast start names stop) :
    ∃ place, stop = .arrived place := by
  induction scans with
  | arrive => exact ⟨_, rfl⟩
  | up _ _ inductionHypothesis => exact inductionHypothesis
  | stay _ _ inductionHypothesis => exact inductionHypothesis
  | missing => exact ⟨_, rfl⟩
  | lastLink _ _ next _ => exact (linkFree _ _ next).elim
  | link _ _ next _ => exact (linkFree _ _ next).elim
  | enter _ _ _ _ _ inductionHypothesis => exact inductionHypothesis

/-- In a tree without links, a scan arrives where its names lead, whatever stands there. -/
theorem Scans.lexically_of_linkFree
    {tree : FileTree}
    (linkFree : tree.LinkFree)
    {followLast : Bool}
    {start : Location}
    {names : List Text}
    (noStay : Path.currentName ∉ names)
    {stop : Stop}
    (scans : Scans tree followLast start names stop) :
    ∃ place, stop = .arrived place ∧ names.foldl stepAlong start = place.location := by
  induction scans with
  | arrive => exact ⟨_, rfl, rfl⟩
  | up _ _ inductionHypothesis =>
      obtain ⟨place, shape, lexical⟩ :=
        inductionHypothesis (fun member => noStay (List.mem_cons_of_mem _ member))
      exact ⟨place, shape, by rw [List.foldl_cons, stepAlong, if_pos rfl, lexical]⟩
  | stay => exact (noStay List.mem_cons_self).elim
  | missing _ proper _ =>
      exact ⟨_, rfl, by simp [stepAlong, proper.notParent, Place.location]⟩
  | lastLink _ _ next _ => exact (linkFree _ _ next).elim
  | link _ _ next _ => exact (linkFree _ _ next).elim
  | enter _ proper _ _ _ inductionHypothesis =>
      obtain ⟨place, shape, lexical⟩ :=
        inductionHypothesis (fun member => noStay (List.mem_cons_of_mem _ member))
      exact
        ⟨place, shape, by rw [List.foldl_cons, stepAlong, if_neg proper.notParent, lexical]⟩

/-- In a tree without links, a walk arrives where its names lead, whatever stands there. -/
theorem Walks.location_of_linkFree
    {tree : FileTree}
    (linkFree : tree.LinkFree)
    {followLast : Bool}
    {budget : Nat}
    {start : Location}
    {names : List Text}
    (noStay : Path.currentName ∉ names)
    {place : Place}
    (walks : Walks tree followLast budget start names place) :
    place.location = names.foldl stepAlong start := by
  cases walks with
  | arrive scans =>
      obtain ⟨arrived, shape, lexical⟩ := scans.lexically_of_linkFree linkFree noStay
      cases shape
      exact lexical.symm
  | follow scans _ =>
      obtain ⟨_, shape, _⟩ := scans.lexically_of_linkFree linkFree noStay
      cases shape

end ModSkeleton.FileTree
