import ModSkeleton.CommandLine.Arguments

namespace ModSkeleton.CommandLine

/-!
# Words on a command line

Classifying keeps every word as it was given, and consuming items moves whole
words around, so the path of accepted arguments is one of the given words.
-/

namespace Item

/-- A word is classified as itself. -/
theorem eq_of_classify
    {given argument : Text}
    (classified : classify given = .ok (.word argument)) :
    argument = given := by
  have ofOther_word : ∀ text, ofOther text = .word argument → argument = text := by
    intro text other
    unfold ofOther at other
    split at other
    case isTrue =>
      cases other
      rfl
    case isFalse => cases other
  unfold classify at classified
  split at classified
  case h_1 rest =>
    split at classified
    case isTrue => cases classified
    case isFalse =>
      unfold ofLong at classified
      split at classified
      case h_1 => cases classified
      case h_2 =>
        dsimp only at classified
        split at classified
        case h_1 => cases classified
        case h_2 => cases classified
        case h_3 => exact ofOther_word _ (Except.ok.inj classified)
        case h_4 => cases classified
  case h_2 letter rest =>
    have item := Except.ok.inj classified
    unfold ofShort at item
    split at item
    case h_1 => cases item
    case h_2 => cases item
    case h_3 => cases item
    case h_4 => exact ofOther_word _ item
  case h_3 =>
    cases classified
    rfl

/-- The words among classified arguments were given. -/
theorem mem_of_classifyAll
    {given : List Text}
    {items : List Item}
    (classified : classifyAll given = .ok items)
    {argument : Text}
    (member : .word argument ∈ items) :
    argument ∈ given := by
  fun_induction classifyAll given generalizing items with
  | case1 =>
      cases classified
      cases member
  | case2 => cases classified
  | case3 first rest separates =>
      cases classified
      have inRest : argument ∈ rest := by simpa using member
      exact List.mem_cons_of_mem _ inRest
  | case4 => cases classified
  | case5 first rest item _ isItem later classifiedLater inductionHypothesis =>
      cases classified
      rcases List.mem_cons.mp member with rfl | inLater
      · rw [eq_of_classify isItem]
        exact List.mem_cons_self
      · exact List.mem_cons_of_mem _ (inductionHypothesis classifiedLater inLater)

end Item

namespace Progress

/-- The path, as far as it is known, is one of some words. -/
def PathIn
    (words : List Text)
    (progress : Progress) :
    Prop :=
  ∀ path, progress.path = some path → path ∈ words

theorem PathIn.takeWord
    {words : List Text}
    {progress : Progress}
    (known : progress.PathIn words)
    {argument : Text}
    (member : argument ∈ words) :
    (progress.takeWord argument).PathIn words := by
  unfold Progress.takeWord
  split
  case h_1 =>
    intro path same
    cases same
    exact member
  case h_2 => exact known

theorem PathIn.takeCluster
    {words : List Text}
    {progress later : Progress}
    (known : progress.PathIn words)
    {flags : List Switch}
    {valued : Option (Switch × Text)}
    (taken : progress.takeCluster flags valued = .ok later) :
    later.PathIn words := by
  unfold Progress.takeCluster at taken
  split at taken
  case h_1 => cases taken
  case h_2 =>
    cases taken
    exact known
  case h_3 =>
    cases taken
    exact known

/-- Consuming items takes the path from their words. -/
theorem PathIn.consume
    {words : List Text}
    {items : List Item}
    (fromWords : ∀ argument, .word argument ∈ items → argument ∈ words)
    {progress later : Progress}
    (known : progress.PathIn words)
    (consumed : Progress.consume items progress = .ok later) :
    later.PathIn words := by
  fun_induction Progress.consume items progress
  case case1 =>
    cases consumed
    exact known
  -- A word that may become the path.
  case case2 argument rest progress _ inductionHypothesis
      | case4 argument rest progress _ inductionHypothesis
      | case5 argument rest progress _ inductionHypothesis =>
    exact
      inductionHypothesis (fun other member => fromWords other (by simp [member]))
        (known.takeWord (fromWords argument (by simp))) consumed
  -- Something that is left over.
  case case3 argument rest progress _ inductionHypothesis
      | case6 argument rest progress _ inductionHypothesis =>
    exact
      inductionHypothesis (fun other member => fromWords other (by simp [member])) known consumed
  case case7 rest progress _ inductionHypothesis
      | case8 _ rest progress inductionHypothesis =>
    exact
      inductionHypothesis (fun other member => fromWords other (by simp [member])) known consumed
  -- Switches that are accepted.
  case case11 taken inductionHypothesis =>
    exact
      inductionHypothesis (fun other member => fromWords other (by simp [member]))
        (known.takeCluster taken) consumed
  case case13 taken inductionHypothesis
      | case15 taken inductionHypothesis
      | case19 taken inductionHypothesis
      | case21 taken inductionHypothesis =>
    exact
      inductionHypothesis (fun other member => fromWords other (List.mem_cons_of_mem _ member))
        (known.takeCluster taken) consumed
  -- Switches that end the program.
  all_goals cases consumed

end Progress

/-- The path of accepted arguments is one of the given words. -/
theorem Arguments.path_mem_of_parse
    {words : List Text}
    {arguments : Arguments}
    (parsed : Arguments.parse words = .ok arguments) :
    arguments.path ∈ words := by
  unfold Arguments.parse at parsed
  split at parsed
  case h_1 => cases parsed
  case h_2 items classified =>
    split at parsed
    case h_1 => cases parsed
    case h_2 progress consumed =>
      have known : Progress.start.PathIn words := by
        intro path none
        cases none
      have knownLater : progress.PathIn words :=
        known.consume (fun _ member => Item.mem_of_classifyAll classified member) consumed
      unfold Arguments.ofProgress at parsed
      split at parsed
      case h_1 => cases parsed
      case h_2 path isPath _ =>
        cases parsed
        exact knownLater path isPath
      case h_3 => cases parsed

end ModSkeleton.CommandLine
