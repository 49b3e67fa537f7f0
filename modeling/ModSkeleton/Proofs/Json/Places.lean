import ModSkeleton.Proofs.Json.Layout

namespace ModSkeleton.Json

/-!
# Places in documents

A place is where one key after the other leads from the top of a document. If a
document is known up to a place, then reading it meets what stands there, whatever
that is and whatever follows it. So a text that was put between quotes without being
escaped is found at its place only if it is plain (`isPlain_of_at?`).
-/

namespace Value

/-- The members of an object; other values have none. -/
def members : Value → List (Text × Value)
  | .object members => members
  | _ => []

/-- The value at a place. -/
def at? : List String → Value → Option Value
  | [], value => some value
  | key :: keys, value => (value.member? key).bind (at? keys)

/-- A value without the text at a place; what is no text stays. -/
def withoutText : List String → Value → Value
  | [], .text _ => .text []
  | key :: keys, .object members =>
      .object (members.map fun member =>
        if member.1 = key.toList then (member.1, withoutText keys member.2) else member)
  | _, value => value

/--
Two values have the same members at every level, and differ at most in the texts at
some places.
-/
def AgreeExceptAt
    (places : List (List String))
    (first second : Value) :
    Prop :=
  places.foldr withoutText first = places.foldr withoutText second

/-- The members in front of others, each with the comma behind it. -/
def layoutFront
    (spacing : Spacing)
    (depth : Nat) :
    List (Text × Value) → Text
  | [] => []
  | (key, value) :: members =>
      writeText key ++
        ':' :: ([' '] ++ (layout spacing (depth + 1) value ++
          ',' :: (spacing.between depth ++ layoutFront spacing depth members)))

end Value

/-- A step into an object: the key of a member and the members in front of it. -/
structure Step where
  front : List (Text × Value)
  key : String

namespace Step

/-- A step leads to the first member with its key, behind members that can be read. -/
structure IsFirst
    (step : Step) :
    Prop where
  isNew : step.key.toList ∉ step.front.map Prod.fst
  isIntegral : Value.membersIntegral step.front = true

/-- A document up to the place that steps lead to. -/
def layout
    (spacing : Spacing) :
    Nat → List Step → Text
  | _, [] => []
  | depth, step :: steps =>
      '\x7b' :: (spacing.opening depth ++ (Value.layoutFront spacing depth step.front ++
        (writeText step.key.toList ++ ':' :: ([' '] ++ layout spacing (depth + 1) steps))))

/-- Behind the first step, a document goes on one level deeper. -/
theorem layout_cons
    (spacing : Spacing)
    (depth : Nat)
    (step : Step)
    (steps : List Step) :
    layout spacing depth (step :: steps) =
      layout spacing depth [step] ++ layout spacing (depth + 1) steps := by
  simp [layout]

/-- The member that a step leads to. -/
theorem IsFirst.member?_object
    {step : Step}
    (isFirst : step.IsFirst)
    (value : Value)
    (later : List (Text × Value)) :
    (Value.object (step.front ++ (step.key.toList, value) :: later)).member? step.key =
      some value := by
  refine List.lookup_eq_some_iff.mpr ⟨step.front, later, rfl, ?_⟩
  intro member early
  have different : step.key.toList ≠ member.1 := by
    intro same
    exact isFirst.isNew (same ▸ List.mem_map_of_mem early)
  simpa using different

end Step

/-- The members that were read in front of others stay in front of them. -/
theorem readMembers_layoutFront
    {spacing : Spacing}
    {depth fuel : Nat}
    {front : List (Text × Value)}
    {rest : Text}
    (integral : Value.membersIntegral front = true)
    (enough : 2 * (Value.layoutFront spacing depth front ++ rest).length ≤ fuel) :
    ∃ less,
      2 * rest.length ≤ less ∧
        readMembers fuel (Value.layoutFront spacing depth front ++ rest) =
          (readMembers less rest).map fun (members, after) => (front ++ members, after) := by
  induction front generalizing fuel with
  | nil => exact ⟨fuel, enough, by simp [Value.layoutFront]⟩
  | cons member front inductionHypothesis =>
      obtain ⟨key, value⟩ := member
      obtain ⟨valueIntegral, frontIntegral⟩ := Bool.and_eq_true_iff.mp integral
      simp only [Value.layoutFront, List.append_assoc, List.cons_append, List.nil_append,
        List.length_append, List.length_cons] at enough
      obtain ⟨less, rfl⟩ : ∃ less, fuel = less + 1 + 1 := ⟨fuel - 2, by omega⟩
      have reads : ReadsAs (value.layout spacing (depth + 1)) value :=
        readsAs_layout (depth + 1) value valueIntegral
      have enoughForValue : 2 * (value.layout spacing (depth + 1)).length ≤ less + 1 := by
        omega
      have enoughForRest :
          2 * (Value.layoutFront spacing depth front ++ rest).length ≤ less + 1 := by
        rw [List.length_append]
        omega
      obtain ⟨last, enoughLast, later⟩ := inductionHypothesis frontIntegral enoughForRest
      refine ⟨last, enoughLast, ?_⟩
      have space : IsGap [' '] := by
        decide
      have step :=
        readMembers_more enoughForValue key space reads (spacing.isGap_between depth)
          (Value.layoutFront spacing depth front ++ rest)
      rw [later, Option.map_map] at step
      simpa only [Value.layoutFront, List.append_assoc, List.cons_append, Function.comp_def]
        using step

theorem exists_value_of_readMembers
    {fuel : Nat}
    {key rest after : Text}
    {members : List (Text × Value)}
    (read :
      readMembers fuel (writeText key ++ ':' :: ([' '] ++ rest)) = some (members, after)) :
    ∃ less value behind later,
      fuel = less + 1 ∧ readValue less rest = some (value, behind) ∧
        members = (key, value) :: later := by
  cases fuel with
  | zero => cases read
  | succ less =>
      have readKey := readText_escaped key (':' :: ([' '] ++ rest))
      have space : readValue less ([' '] ++ rest) = readValue less rest :=
        readValue_gap (by decide) less rest
      have atKey :
          skipSeparators (writeText key ++ ':' :: ([' '] ++ rest)) =
            '"' :: (key.flatMap escapeChar ++ '"' :: ':' :: ([' '] ++ rest)) := by
        simp [writeText, skipSeparators_cons (show isSeparator '"' = false by decide)]
      have atColon :
          skipSeparators (':' :: ([' '] ++ rest)) = ':' :: ([' '] ++ rest) :=
        skipSeparators_cons (by decide) _
      rw [readMembers, atKey] at read
      simp only [readKey, atColon, space, Option.bind_eq_bind, Option.bind_some,
        Option.bind_eq_some_iff] at read
      obtain ⟨⟨value, behind⟩, readValue, found⟩ := read
      split at found
      case h_1 =>
        simp only [Option.bind_eq_some_iff] at found
        obtain ⟨⟨later, _⟩, _, found⟩ := found
        cases found
        exact ⟨less, value, behind, later, rfl, readValue, rfl⟩
      case h_2 =>
        cases found
        exact ⟨less, value, behind, [], rfl, readValue, rfl⟩
      case h_3 => cases found

theorem exists_members_of_readValue
    {fuel : Nat}
    {gap inner after : Text}
    {value : Value}
    (isGap : IsGap gap)
    (starts : StartsValue inner)
    (read : readValue fuel ('\x7b' :: (gap ++ inner)) = some (value, after)) :
    ∃ less members,
      fuel = less + 1 ∧ readMembers less inner = some (members, after) ∧
        value = .object members := by
  cases fuel with
  | zero => cases read
  | succ less =>
      obtain ⟨c, later, rfl, notGap, _, notClosing⟩ := starts
      have skipped : skipSeparators (gap ++ c :: later) = c :: later := by
        rw [skipSeparators_gap isGap, skipSeparators_cons notGap]
      have found : ∃ members, readMembers less (c :: later) = some (members, after) ∧
          Value.object members = value := by
        simpa [readValue, skipSeparators_cons (show isSeparator '\x7b' = false by decide),
          skipped, notClosing] using read
      obtain ⟨members, readMembers, rfl⟩ := found
      exact ⟨less, members, rfl, readMembers, rfl⟩

theorem startsValue_layoutFront
    (spacing : Spacing)
    (depth : Nat)
    (front : List (Text × Value))
    {rest : Text}
    (starts : StartsValue rest) :
    StartsValue (Value.layoutFront spacing depth front ++ rest) := by
  cases front with
  | nil => exact starts
  | cons member front => exact ((startsValue_writeText member.1).append _).append _

/-- Reading a document that is known up to a place meets what stands there. -/
theorem exists_readValue_of_layout
    {spacing : Spacing}
    {depth fuel : Nat}
    {steps : List Step}
    {rest after : Text}
    {value : Value}
    (areFirst : ∀ step ∈ steps, step.IsFirst)
    (enough : 2 * (Step.layout spacing depth steps ++ rest).length ≤ fuel)
    (read : readValue fuel (Step.layout spacing depth steps ++ rest) = some (value, after)) :
    ∃ less inner behind,
      readValue less rest = some (inner, behind) ∧
        value.at? (steps.map Step.key) = some inner := by
  induction steps generalizing depth fuel value after with
  | nil => exact ⟨fuel, value, after, read, rfl⟩
  | cons step steps inductionHypothesis =>
      have isFirst := areFirst step List.mem_cons_self
      rw [Step.layout, List.cons_append, List.append_assoc, List.append_assoc,
        List.append_assoc, List.cons_append, List.append_assoc] at enough read
      obtain ⟨less, members, rfl, readMembers, rfl⟩ :=
        exists_members_of_readValue (spacing.isGap_opening depth)
          (startsValue_layoutFront spacing depth step.front
            ((startsValue_writeText _).append _)) read
      have enoughInside :
          2 * (Value.layoutFront spacing depth step.front ++
            (writeText step.key.toList ++
              ':' :: ([' '] ++ (Step.layout spacing (depth + 1) steps ++ rest)))).length ≤
            less := by
        rw [List.length_cons, List.length_append] at enough
        omega
      obtain ⟨fewer, enoughFewer, inFront⟩ :=
        readMembers_layoutFront isFirst.isIntegral enoughInside
      rw [inFront, Option.map_eq_some_iff] at readMembers
      obtain ⟨⟨own, _⟩, readOwn, found⟩ := readMembers
      cases found
      obtain ⟨last, inner, behind, later, rfl, readInner, rfl⟩ :=
        exists_value_of_readMembers readOwn
      have enoughLast : 2 * (Step.layout spacing (depth + 1) steps ++ rest).length ≤ last := by
        rw [List.length_append, List.length_cons, List.length_append] at enoughFewer
        omega
      obtain ⟨final, atPlace, behindPlace, readPlace, found⟩ :=
        inductionHypothesis (fun other member => areFirst other (List.mem_cons_of_mem _ member))
          enoughLast readInner
      refine ⟨final, atPlace, behindPlace, readPlace, ?_⟩
      rw [List.map_cons, Value.at?, isFirst.member?_object, Option.bind_some, found]

/--
A text that stands at a place of a document, between quotes as it is and at the end of a
line, is what the document has there only if it is plain.
-/
theorem isPlain_of_at?
    {spacing : Spacing}
    {steps : List Step}
    {text rest : Text}
    {document : Value}
    (areFirst : ∀ step ∈ steps, step.IsFirst)
    (read :
      read? (Step.layout spacing 0 steps ++ '"' :: (text ++ '"' :: ',' :: '\n' :: rest)) =
        some document)
    (found : document.at? (steps.map Step.key) = some (.text text)) :
    IsPlain text := by
  simp only [read?, Option.bind_eq_bind, Option.bind_eq_some_iff] at read
  obtain ⟨⟨value, after⟩, readDocument, isWhole⟩ := read
  split at isWhole
  case isFalse => cases isWhole
  cases isWhole
  obtain ⟨less, inner, behind, readInner, atPlace⟩ :=
    exists_readValue_of_layout areFirst (by omega) readDocument
  rw [atPlace] at found
  cases found
  cases less with
  | zero => cases readInner
  | succ less =>
      have readOwn :
          readText (text ++ '"' :: ',' :: '\n' :: rest) = some (text, behind) := by
        simpa [readValue, skipSeparators_cons (show isSeparator '"' = false by decide)] using
          readInner
      exact isPlain_of_readText readOwn

end ModSkeleton.Json
