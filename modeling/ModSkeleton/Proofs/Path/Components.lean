import ModSkeleton.Proofs.Text.Splitting
import ModSkeleton.Path

namespace ModSkeleton.Path

/-!
# Components of paths

A component names an entry of a directory, whatever the directory. A path text
made by joining components has exactly these components. Two sequences of
components are unrelated when neither leads to the other or is the other.
-/

/-- A text that names an entry of a directory, whatever the directory. -/
structure IsComponent
    (part : Text) :
    Prop where
  notEmpty : part ≠ []
  notCurrent : part ≠ currentName
  notParent : part ≠ parentName
  noSlash : '/' ∉ part
  noNull : '\x00' ∉ part

instance
    (part : Text) :
    Decidable (IsComponent part) :=
  decidable_of_iff
    (part ≠ [] ∧ part ≠ currentName ∧ part ≠ parentName ∧ '/' ∉ part ∧
      '\x00' ∉ part)
    ⟨fun ⟨a, b, c, d, e⟩ => ⟨a, b, c, d, e⟩, fun ⟨a, b, c, d, e⟩ => ⟨a, b, c, d, e⟩⟩

/-- A text that is a component of some path text; it may lead up. -/
structure IsPart
    (part : Text) :
    Prop where
  notEmpty : part ≠ []
  notCurrent : part ≠ currentName
  noSlash : '/' ∉ part

theorem IsComponent.isPart
    {part : Text}
    (component : IsComponent part) :
    IsPart part :=
  ⟨component.notEmpty, component.notCurrent, component.noSlash⟩

/-- Joined parts are the components of the path text that they are joined to. -/
theorem components_joinWith
    {parts : List Text}
    (areParts : ∀ part ∈ parts, IsPart part) :
    components (Text.joinWith ['/'] parts) = parts := by
  by_cases none : parts = []
  · rw [none]
    rfl
  · have split :=
      Text.splitOn_joinWith none (fun part member => (areParts part member).noSlash)
    rw [components, split]
    apply List.filter_eq_self.mpr
    intro part member
    have isPart := areParts part member
    have notDot : part ≠ ['.'] := isPart.notCurrent
    simp [isPart.notEmpty, notDot]

/-- A path text that does not begin with a slash is relative. -/
theorem rootOf_of_head
    {c : Char}
    (notSlash : c ≠ '/')
    (rest : Text) :
    rootOf (c :: rest) = .relative := by
  have refused : (c == '/') = false := by
    simpa using notSlash
  simp only [rootOf, List.takeWhile_cons, refused]
  rfl

/-- Neither of two sequences of names leads to the other or is the other. -/
def Unrelated
    (first second : List Text) :
    Prop :=
  ¬first <+: second ∧ ¬second <+: first

instance
    (first second : List Text) :
    Decidable (Unrelated first second) :=
  inferInstanceAs (Decidable (_ ∧ _))

theorem unrelated_of_ne
    {first second : Text}
    (different : first ≠ second)
    (firstLater secondLater : List Text) :
    Unrelated (first :: firstLater) (second :: secondLater) := by
  constructor
  · intro related
    exact different (List.cons_prefix_cons.mp related).1
  · intro related
    exact different (List.cons_prefix_cons.mp related).1.symm

theorem Unrelated.symm
    {first second : List Text}
    (unrelated : Unrelated first second) :
    Unrelated second first :=
  ⟨unrelated.2, unrelated.1⟩

/-- What stands below the second of two unrelated paths is not below the first. -/
theorem Unrelated.not_prefix_append
    {first second : List Text}
    (unrelated : Unrelated first second)
    (later : List Text) :
    ¬first <+: second ++ later := by
  intro above
  rcases List.prefix_or_prefix_of_prefix above (List.prefix_append second later) with
    related | related
  · exact unrelated.1 related
  · exact unrelated.2 related

/-- What stands below unrelated paths is unrelated. -/
theorem Unrelated.append
    {first second : List Text}
    (unrelated : Unrelated first second)
    (firstLater secondLater : List Text) :
    Unrelated (first ++ firstLater) (second ++ secondLater) := by
  constructor
  · intro related
    exact unrelated.not_prefix_append secondLater ((List.prefix_append _ _).trans related)
  · intro related
    exact unrelated.symm.not_prefix_append firstLater ((List.prefix_append _ _).trans related)

theorem Unrelated.append_left
    {first second : List Text}
    (unrelated : Unrelated first second)
    (above : List Text) :
    Unrelated (above ++ first) (above ++ second) := by
  constructor
  · intro related
    exact unrelated.1 ((List.prefix_append_right_inj above).mp related)
  · intro related
    exact unrelated.2 ((List.prefix_append_right_inj above).mp related)

end ModSkeleton.Path
