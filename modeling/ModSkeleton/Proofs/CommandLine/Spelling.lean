import Mathlib.Data.List.Infix
import Mathlib.Data.List.Nodup
import Mathlib.Data.List.Perm.Basic
import Mathlib.Data.List.TakeDrop
import Mathlib.Data.List.TakeWhile
import ModSkeleton.Cli

namespace ModSkeleton.CommandLine

/-!
# Spellings of a command line

What a command line asks for is a path, values for options and flags. Each of them can
be spelt in several ways, short flags can be clustered, and the groups of arguments that
result can stand in any order. `Spells` lists the groups and `SpellsLine` puts them one
after another. All command lines that ask for the same wishes, in whatever order and
spelling, are read as the same arguments (`Arguments.parse_spelled`).

A group is read by itself (`Reads`): the shapes of its arguments do not depend on what
stands around it, and consuming it grants its wishes and nothing else. Wishes that differ
in what they are about can be granted in either order.
-/

/-- An option that takes a value. -/
inductive ValueOption where
  | modId
  | modName
  | mainClass
  deriving Repr, DecidableEq

/-- An option that is given or not. -/
inductive Flag where
  | kotlin
  | force
  | git
  deriving Repr, DecidableEq

/-- One thing that a command line asks for. -/
inductive Wish where
  | path (text : Text)
  | value (option : ValueOption) (text : Text)
  | flag (flag : Flag)
  deriving Repr, DecidableEq

/-- The switch of an option that takes a value. -/
def ValueOption.switch : ValueOption → Switch
  | .modId => .modId
  | .modName => .modName
  | .mainClass => .mainClass

/-- The switch of a flag. -/
def Flag.switch : Flag → Switch
  | .kotlin => .kotlin
  | .force => .force
  | .git => .git

/-- A text that is no switch, whatever its place. -/
def IsPlainArgument
    (text : Text) :
    Prop :=
  text.head? ≠ some '-'

instance
    (text : Text) :
    Decidable (IsPlainArgument text) :=
  inferInstanceAs (Decidable (text.head? ≠ some '-'))

/-- A name is the long name of a switch, perhaps without its last letters. -/
structure Shortens
    (name : Text)
    (switch : Switch) :
    Prop where
  notEmpty : name ≠ []
  isBeginning : name <+: switch.word

instance
    (name : Text)
    (switch : Switch) :
    Decidable (Shortens name switch) :=
  decidable_of_iff (name ≠ [] ∧ name <+: switch.word) ⟨fun ⟨a, b⟩ => ⟨a, b⟩, fun ⟨a, b⟩ => ⟨a, b⟩⟩

/-- The letters of some flags. -/
def letters
    (flags : List Flag) :
    Text :=
  flags.map fun flag => flag.switch.letter

/-- The arguments by which some wishes can be given together. -/
inductive Spells : List Wish → List Text → Prop where
  /-- A path stands for itself. -/
  | path
      {text : Text}
      (plain : IsPlainArgument text) :
      Spells [.path text] [text]
  /-- Short flags, one or several in a cluster: `-k`, `-kfg`. -/
  | flags
      {flags : List Flag}
      (notEmpty : flags ≠ []) :
      Spells (flags.map .flag) ['-' :: letters flags]
  /-- A short option with its value behind it, perhaps at the end of a cluster: `-n v`. -/
  | shortApart
      (flags : List Flag)
      (option : ValueOption)
      {text : Text}
      (plain : IsPlainArgument text) :
      Spells (flags.map .flag ++ [.value option text])
        ['-' :: (letters flags ++ [option.switch.letter]), text]
  /-- A short option that its value is joined to, perhaps at the end of a cluster: `-nv`. -/
  | shortJoined
      (flags : List Flag)
      (option : ValueOption)
      {text : Text}
      (plain : IsPlainArgument text)
      (notEmpty : text ≠ [])
      (noEquals : text.head? ≠ some '=') :
      Spells (flags.map .flag ++ [.value option text])
        ['-' :: (letters flags ++ option.switch.letter :: text)]
  /-- A flag by its long name: `--kotlin`, `--kot`. -/
  | longFlag
      (flag : Flag)
      {name : Text}
      (shortened : Shortens name flag.switch) :
      Spells [.flag flag] ['-' :: '-' :: name]
  /-- A long option with its value behind it: `--name v`, `--na v`. -/
  | longApart
      (option : ValueOption)
      {name text : Text}
      (shortened : Shortens name option.switch)
      (plain : IsPlainArgument text) :
      Spells [.value option text] ['-' :: '-' :: name, text]
  /-- A long option that its value is joined to: `--name=v`, `--na=v`. -/
  | longJoined
      (option : ValueOption)
      {name text : Text}
      (shortened : Shortens name option.switch)
      (plain : IsPlainArgument text) :
      Spells [.value option text] ['-' :: '-' :: (name ++ '=' :: text)]

/-- The arguments of a command line that asks for some wishes, group by group. -/
inductive SpellsLine : List Wish → List Text → Prop where
  | nil :
      SpellsLine [] []
  | cons
      {wishes later : List Wish}
      {words rest : List Text}
      (first : Spells wishes words)
      (onward : SpellsLine later rest) :
      SpellsLine (wishes ++ later) (words ++ rest)

/-! ### Shapes of arguments -/

/-- A long name, shortened or not, is found by its beginning alone. -/
theorem beginningWith_of_shortens
    {name : Text}
    {switch : Switch}
    (shortened : Shortens name switch) :
    Switch.beginningWith ('-' :: '-' :: name) = [switch] := by
  have all :
      ∀ switch ∈ Switch.all, ∀ name ∈ switch.word.inits, name ≠ [] →
        Switch.beginningWith ('-' :: '-' :: name) = [switch] := by
    decide
  exact all switch switch.mem_all name ((List.mem_inits _ _).mpr shortened.isBeginning)
    shortened.notEmpty

/-- No long name holds an equals sign. -/
theorem not_mem_of_shortens
    {name : Text}
    {switch : Switch}
    (shortened : Shortens name switch) :
    '=' ∉ name := by
  have noEquals : '=' ∉ switch.word := by
    cases switch <;> decide
  exact fun member => noEquals (shortened.isBeginning.subset member)

/-- A spelling that only one switch begins with is not that of another switch. -/
theorem eq_of_ofLong?
    {text : Text}
    {switch found : Switch}
    (only : Switch.beginningWith text = [switch])
    (spelt : Switch.ofLong? text = some found) :
    found = switch := by
  have isSpelling : found.long = text := by
    simpa using List.find?_some spelt
  have begins : found ∈ Switch.beginningWith text :=
    List.mem_filter.mpr ⟨found.mem_all, by rw [isSpelling]; simp⟩
  rw [only] at begins
  exact List.mem_singleton.mp begins

namespace Item

theorem splitEquals_of_not_mem
    {text : Text}
    (noEquals : '=' ∉ text) :
    splitEquals text = (text, none) := by
  have all : ∀ c ∈ text, (c != '=') = true := by
    intro c member
    simpa using fun same : c = '=' => noEquals (same ▸ member)
  rw [splitEquals, List.span_eq_takeWhile_dropWhile, List.takeWhile_eq_self_iff.mpr all,
    List.dropWhile_eq_nil_iff.mpr all]

theorem splitEquals_append
    {before : Text}
    (noEquals : '=' ∉ before)
    (after : Text) :
    splitEquals (before ++ '=' :: after) = (before, some after) := by
  have all : ∀ c ∈ before, (c != '=') = true := by
    intro c member
    simpa using fun same : c = '=' => noEquals (same ▸ member)
  rw [splitEquals, List.span_eq_takeWhile_dropWhile, List.takeWhile_append_of_pos all,
    List.dropWhile_append_of_pos all]
  simp

/-- A spelling is classified by the one switch that begins with it. -/
theorem ofLong_of_beginningWith
    {argument spelled : Text}
    {joined : Option Text}
    {switch : Switch}
    (split : splitEquals argument = (spelled, joined))
    (only : Switch.beginningWith spelled = [switch])
    (whole : ∀ found, Switch.ofLong? argument = some found → found = switch ∧ joined = none) :
    ofLong argument = .ok (.option switch .long joined) := by
  unfold ofLong
  split
  case h_1 found isSpelling =>
    obtain ⟨rfl, rfl⟩ := whole found isSpelling
    rfl
  case h_2 =>
    simp only [split, only]
    cases spelt : Switch.ofLong? spelled with
    | none => rfl
    | some found =>
        rw [eq_of_ofLong? only spelt]

/-- A plain argument is a word. -/
theorem classify_of_isPlainArgument
    {text : Text}
    (plain : IsPlainArgument text) :
    classify text = .ok (.word text) := by
  unfold classify
  split
  case h_1 => exact (plain rfl).elim
  case h_2 => exact (plain rfl).elim
  case h_3 => rfl

/-- A long name is classified as its switch. -/
theorem classify_long
    {name : Text}
    {switch : Switch}
    (shortened : Shortens name switch) :
    classify ('-' :: '-' :: name) = .ok (.option switch .long none) := by
  have only := beginningWith_of_shortens shortened
  have noEquals : '=' ∉ '-' :: '-' :: name := by
    simpa using not_mem_of_shortens shortened
  have isLong := ofLong_of_beginningWith (splitEquals_of_not_mem noEquals) only
    (fun found spelt => ⟨eq_of_ofLong? only spelt, rfl⟩)
  simpa [classify, shortened.notEmpty] using isLong

/-- A long name that a value is joined to is classified as its switch with the value. -/
theorem classify_longJoined
    {name : Text}
    {switch : Switch}
    (shortened : Shortens name switch)
    (value : Text) :
    classify ('-' :: '-' :: (name ++ '=' :: value)) =
      .ok (.option switch .long (some value)) := by
  have only := beginningWith_of_shortens shortened
  have noEquals : '=' ∉ '-' :: '-' :: name := by
    simpa using not_mem_of_shortens shortened
  have isLong := ofLong_of_beginningWith (splitEquals_append noEquals value) only (by
    intro found spelt
    have isSpelling : found.long = '-' :: '-' :: name ++ '=' :: value := by
      simpa using List.find?_some spelt
    have hasEquals : '=' ∈ found.long := by
      rw [isSpelling]
      simp
    have noEquals : '=' ∉ found.long := by
      cases found <;> decide
    exact (noEquals hasEquals).elim)
  simpa [classify] using isLong

/-- What a short switch is followed by in its argument: nothing, or something joined. -/
def joinedTo : Text → Option Text
  | [] => none
  | c :: rest => some (c :: rest)

/-- A short switch is classified with what follows it, unless that is an equals sign. -/
theorem classify_short
    (switch : Switch)
    {rest : Text}
    (noEquals : rest.head? ≠ some '=') :
    classify ('-' :: switch.letter :: rest) =
      .ok (.option switch .short (joinedTo rest)) := by
  have notHyphen : switch.letter ≠ '-' := by
    cases switch <;> decide
  unfold classify
  split
  case h_1 same => exact (notHyphen (by simp_all)).elim
  case h_2 letter behind same =>
    cases same
    unfold ofShort
    rw [Switch.ofLetter?_letter]
    cases rest with
    | nil => rfl
    | cons c rest =>
        have different : c ≠ '=' := fun same => noEquals (by rw [same]; rfl)
        split
        case h_1 => simp_all
        case h_2 => simp_all
        case h_3 => simp_all [joinedTo]
        case h_4 => simp_all
  case h_3 notLong notShort => exact (notShort _ _ rfl).elim

/-- An argument before any separator is classified by itself. -/
theorem classifyAll_cons
    {argument : Text}
    {item : Item}
    (classified : classify argument = .ok item)
    (noSeparator : item ≠ .separator)
    (rest : List Text) :
    classifyAll (argument :: rest) = (classifyAll rest).map (item :: ·) := by
  cases item with
  | separator => exact (noSeparator rfl).elim
  | _ =>
      rw [classifyAll, classified]
      cases classifyAll rest <;> rfl

end Item

/-! ### What wishes do -/

namespace Flag

/-- The choices with a flag set. -/
def raise
    (flag : Flag)
    (choices : Choices) :
    Choices :=
  match flag with
  | .kotlin => { choices with kotlin := true }
  | .force => { choices with force := true }
  | .git => { choices with git := true }

theorem turnOn_switch
    (flag : Flag)
    (choices : Choices) :
    choices.turnOn flag.switch = .ok (flag.raise choices) := by
  cases flag <;> rfl

theorem takesValue_switch
    (flag : Flag) :
    flag.switch.takesValue = false := by
  cases flag <;> rfl

end Flag

namespace ValueOption

/-- The choices with an option given. -/
def give
    (option : ValueOption)
    (text : Text)
    (choices : Choices) :
    Choices :=
  match option with
  | .modId => { choices with modId := .given text }
  | .modName => { choices with modName := .given text }
  | .mainClass => { choices with mainClass := .given text }

theorem set_switch
    (option : ValueOption)
    {text : Text}
    (plain : IsPlainArgument text)
    (choices : Choices) :
    choices.set option.switch text = option.give text choices := by
  have given : Setting.ofValue text = .given text := by
    refine if_neg ?_
    rintro rfl
    exact plain rfl
  cases option <;> simp only [ValueOption.switch, Choices.set, give, given]

theorem takesValue_switch
    (option : ValueOption) :
    option.switch.takesValue = true := by
  cases option <;> rfl

end ValueOption

namespace Progress

/-- The progress after a wish is granted. -/
def grant
    (progress : Progress) :
    Wish → Progress
  | .path text => progress.takeWord text
  | .value option text => { progress with choices := option.give text progress.choices }
  | .flag flag => { progress with choices := flag.raise progress.choices }

/-- The progress after some wishes are granted, in order. -/
def grantAll
    (progress : Progress)
    (wishes : List Wish) :
    Progress :=
  wishes.foldl grant progress

theorem grantAll_append
    (progress : Progress)
    (first second : List Wish) :
    progress.grantAll (first ++ second) = (progress.grantAll first).grantAll second :=
  List.foldl_append

/-- Flags in a row are granted one after another. -/
theorem takeCluster_flags
    (progress : Progress)
    (flags : List Flag) :
    progress.takeCluster (flags.map Flag.switch) none =
      .ok (progress.grantAll (flags.map .flag)) := by
  induction flags generalizing progress with
  | nil => rfl
  | cons flag flags inductionHypothesis =>
      have later := inductionHypothesis (progress.grant (.flag flag))
      simp only [takeCluster, List.map_cons, Choices.turnOnAll, Flag.turnOn_switch] at later ⊢
      exact later

/-- Flags in a row are granted before the value behind them. -/
theorem takeCluster_value
    (progress : Progress)
    (flags : List Flag)
    (option : ValueOption)
    {text : Text}
    (plain : IsPlainArgument text) :
    progress.takeCluster (flags.map Flag.switch) (some (option.switch, text)) =
      .ok (progress.grantAll (flags.map .flag ++ [.value option text])) := by
  induction flags generalizing progress with
  | nil =>
      simp only [takeCluster, List.map_nil, Choices.turnOnAll, option.set_switch plain]
      rfl
  | cons flag flags inductionHypothesis =>
      have later := inductionHypothesis (progress.grant (.flag flag))
      simp only [takeCluster, List.map_cons, Choices.turnOnAll, Flag.turnOn_switch] at later ⊢
      exact later

end Progress

theorem letter_ne_equals
    (switch : Switch) :
    switch.letter ≠ '=' := by
  cases switch <;> decide

namespace Cluster

/-- What is joined to a short switch is read as further letters. -/
theorem ofSwitch_short
    (switch : Switch)
    (rest : Text) :
    ofSwitch switch .short (Item.joinedTo rest) = ofLetters switch rest := by
  cases rest with
  | nil => rfl
  | cons c rest =>
      unfold Item.joinedTo ofSwitch ofLetters
      by_cases takes : switch.takesValue = true
      · simp [takes]
      · simp [takes]

theorem ofLetters_option
    (option : ValueOption)
    (rest : Text) :
    ofLetters option.switch rest =
      .ok ⟨[], some (option.switch, Item.joinedTo rest)⟩ := by
  cases rest <;> simp [ofLetters, Item.joinedTo, option.takesValue_switch]

/-- A letter behind a flag is a further switch. -/
theorem ofLetters_flag
    (flag : Flag)
    (next : Switch)
    (rest : Text) :
    ofLetters flag.switch (next.letter :: rest) =
      (ofLetters next rest).map (push flag.switch) := by
  rw [ofLetters]
  simp [flag.takesValue_switch]

/-- A cluster of flags only. -/
theorem ofLetters_flags
    (flag : Flag)
    (flags : List Flag) :
    ofLetters flag.switch (letters flags) = .ok ⟨(flag :: flags).map Flag.switch, none⟩ := by
  induction flags generalizing flag with
  | nil => simp [letters, ofLetters, flag.takesValue_switch]
  | cons next flags inductionHypothesis =>
      have later := inductionHypothesis next
      rw [letters, List.map_cons, ofLetters_flag]
      rw [letters] at later
      rw [later]
      rfl

/-- A cluster of flags with an option at its end, which takes all that is left. -/
theorem ofLetters_flags_option
    (flag : Flag)
    (flags : List Flag)
    (option : ValueOption)
    (rest : Text) :
    ofLetters flag.switch (letters flags ++ option.switch.letter :: rest) =
      .ok ⟨(flag :: flags).map Flag.switch, some (option.switch, Item.joinedTo rest)⟩ := by
  induction flags generalizing flag with
  | nil =>
      rw [letters, List.map_nil, List.nil_append, ofLetters_flag, ofLetters_option]
      rfl
  | cons next flags inductionHypothesis =>
      have later := inductionHypothesis next
      rw [letters, List.map_cons, List.cons_append, ofLetters_flag]
      rw [letters] at later
      rw [later]
      rfl

/-- Flags and an option in one argument, behind its hyphen, begin with some switch. -/
theorem exists_cluster
    (flags : List Flag)
    (option : ValueOption)
    {rest : Text}
    (noEquals : rest.head? ≠ some '=') :
    ∃ switch behind,
      letters flags ++ option.switch.letter :: rest = switch.letter :: behind ∧
        behind.head? ≠ some '=' ∧
          ofSwitch switch .short (Item.joinedTo behind) =
            .ok ⟨flags.map Flag.switch, some (option.switch, Item.joinedTo rest)⟩ := by
  cases flags with
  | nil =>
      refine ⟨option.switch, rest, rfl, noEquals, ?_⟩
      rw [ofSwitch_short, ofLetters_option]
      rfl
  | cons flag flags =>
      refine ⟨flag.switch, letters flags ++ option.switch.letter :: rest, rfl, ?_, ?_⟩
      · cases flags with
        | nil => simpa [letters] using (letter_ne_equals option.switch)
        | cons next flags => simpa [letters] using (letter_ne_equals next.switch)
      · rw [ofSwitch_short, ofLetters_flags_option]

end Cluster

/-! ### Reading group by group -/

namespace Progress

section

variable
    {switch last : Switch}
    {spelling : Spelling}
    {joined : Option Text}
    {flags : List Switch}
    {progress later : Progress}

/-- Flags are taken, whatever stands behind them. -/
theorem consume_flags
    (read : Cluster.ofSwitch switch spelling joined = .ok ⟨flags, none⟩)
    (taken : progress.takeCluster flags none = .ok later)
    (rest : List Item) :
    consume (.option switch spelling joined :: rest) progress = consume rest later := by
  cases rest with
  | nil => simp only [consume, read, taken]
  | cons item rest => cases item <;> simp only [consume, read, taken]

/-- A value that is joined to its switch is taken, whatever stands behind it. -/
theorem consume_joined
    {text : Text}
    (read : Cluster.ofSwitch switch spelling joined = .ok ⟨flags, some (last, some text)⟩)
    (taken : progress.takeCluster flags (some (last, text)) = .ok later)
    (rest : List Item) :
    consume (.option switch spelling joined :: rest) progress = consume rest later := by
  cases rest with
  | nil => simp only [consume, read, taken]
  | cons item rest => cases item <;> simp only [consume, read, taken]

/-- A switch that lacks its value takes the word behind it. -/
theorem consume_apart
    {text : Text}
    (read : Cluster.ofSwitch switch spelling joined = .ok ⟨flags, some (last, none)⟩)
    (taken : progress.takeCluster flags (some (last, text)) = .ok later)
    (rest : List Item) :
    consume (.option switch spelling joined :: .word text :: rest) progress =
      consume rest later := by
  simp only [consume, read, taken]

/-- A word with no separator behind it is taken by itself. -/
theorem consume_word
    (text : Text)
    {rest : List Item}
    (noSeparator : rest.head? ≠ some .separator) :
    consume (.word text :: rest) progress = consume rest (progress.takeWord text) := by
  cases rest with
  | nil => simp only [consume]
  | cons item rest =>
      cases item with
      | separator => exact (noSeparator rfl).elim
      | _ => rw [consume]; simp

end

end Progress

/-- Arguments are classified as items, which grant wishes, whatever stands around them. -/
structure Reads
    (wishes : List Wish)
    (words : List Text)
    (items : List Item) :
    Prop where
  classified :
    ∀ rest, Item.classifyAll (words ++ rest) = (Item.classifyAll rest).map (items ++ ·)
  noSeparator : items.head? ≠ some .separator
  consumed :
    ∀ rest progress, rest.head? ≠ some .separator →
      Progress.consume (items ++ rest) progress =
        Progress.consume rest (progress.grantAll wishes)

namespace Reads

theorem nil :
    Reads [] [] [] where
  classified := by
    intro rest
    rw [List.nil_append]
    cases Item.classifyAll rest <;> rfl
  noSeparator := by
    simp
  consumed := fun _ _ _ => rfl

/-- Groups that are read are read one after another. -/
theorem append
    {wishes later : List Wish}
    {words rest : List Text}
    {items others : List Item}
    (first : Reads wishes words items)
    (second : Reads later rest others) :
    Reads (wishes ++ later) (words ++ rest) (items ++ others) where
  classified := by
    intro behind
    rw [List.append_assoc, first.classified, second.classified]
    cases Item.classifyAll behind with
    | error fault => rfl
    | ok found => simp [Except.map]
  noSeparator := by
    have firstHead := first.noSeparator
    have secondHead := second.noSeparator
    cases items with
    | nil => exact secondHead
    | cons item items => exact firstHead
  consumed := by
    intro behind progress noSeparator
    have othersHead : (others ++ behind).head? ≠ some .separator := by
      have secondHead := second.noSeparator
      cases others with
      | nil => exact noSeparator
      | cons item others => exact secondHead
    rw [List.append_assoc, first.consumed _ _ othersHead, second.consumed _ _ noSeparator,
      Progress.grantAll_append]

/-- An argument that is read by itself. -/
theorem of_single
    {wishes : List Wish}
    {argument : Text}
    {item : Item}
    (classified : Item.classify argument = .ok item)
    (noSeparator : item ≠ .separator)
    (consumed :
      ∀ rest progress, rest.head? ≠ some .separator →
        Progress.consume (item :: rest) progress =
          Progress.consume rest (progress.grantAll wishes)) :
    Reads wishes [argument] [item] where
  classified := Item.classifyAll_cons classified noSeparator
  noSeparator := by
    simpa using noSeparator
  consumed := consumed

/-- A switch and the plain argument behind it, which it takes. -/
theorem of_apart
    {wishes : List Wish}
    {argument text : Text}
    {switch : Switch}
    {spelling : Spelling}
    {joined : Option Text}
    (classified : Item.classify argument = .ok (.option switch spelling joined))
    (plain : IsPlainArgument text)
    (consumed :
      ∀ rest progress,
        Progress.consume (.option switch spelling joined :: .word text :: rest) progress =
          Progress.consume rest (progress.grantAll wishes)) :
    Reads wishes [argument, text] [.option switch spelling joined, .word text] where
  classified := by
    intro rest
    have word := Item.classify_of_isPlainArgument plain
    rw [List.cons_append, Item.classifyAll_cons classified (by simp), List.cons_append,
      Item.classifyAll_cons word (by simp), List.nil_append]
    cases Item.classifyAll rest <;> rfl
  noSeparator := by
    simp
  consumed := fun rest progress _ => consumed rest progress

/-- Every group of arguments is read. -/
theorem of_spells
    {wishes : List Wish}
    {words : List Text}
    (spelt : Spells wishes words) :
    ∃ items, Reads wishes words items := by
  cases spelt with
  | path plain =>
      refine ⟨_, of_single (Item.classify_of_isPlainArgument plain) (by simp) ?_⟩
      intro rest progress noSeparator
      exact Progress.consume_word _ noSeparator
  | @flags flags notEmpty =>
      obtain ⟨flag, flags, rfl⟩ := List.exists_cons_of_ne_nil notEmpty
      have noEquals : (letters flags).head? ≠ some '=' := by
        cases flags with
        | nil => simp [letters]
        | cons next flags => simpa [letters] using letter_ne_equals next.switch
      refine ⟨_, of_single (Item.classify_short flag.switch noEquals) (by simp) ?_⟩
      intro rest progress _
      refine Progress.consume_flags ?_ (progress.takeCluster_flags (flag :: flags)) rest
      exact (Cluster.ofSwitch_short _ _).trans (Cluster.ofLetters_flags flag flags)
  | shortApart flags option plain =>
      have nothing : ([] : Text).head? ≠ some '=' := by
        simp
      obtain ⟨switch, behind, shape, noEquals, read⟩ :=
        Cluster.exists_cluster flags option nothing
      rw [shape]
      refine ⟨_, of_apart (Item.classify_short switch noEquals) plain ?_⟩
      intro rest progress
      exact Progress.consume_apart read (progress.takeCluster_value flags option plain) rest
  | @shortJoined flags option text plain notEmpty noEquals =>
      obtain ⟨switch, behind, shape, noEqualsBehind, read⟩ :=
        Cluster.exists_cluster flags option noEquals
      have isJoined : Item.joinedTo text = some text := by
        cases text with
        | nil => exact (notEmpty rfl).elim
        | cons c text => rfl
      rw [isJoined] at read
      rw [shape]
      refine ⟨_, of_single (Item.classify_short switch noEqualsBehind) (by simp) ?_⟩
      intro rest progress _
      exact Progress.consume_joined read (progress.takeCluster_value flags option plain) rest
  | longFlag flag shortened =>
      refine ⟨_, of_single (Item.classify_long shortened) (by simp) ?_⟩
      intro rest progress _
      refine Progress.consume_flags ?_ (progress.takeCluster_flags [flag]) rest
      simp [Cluster.ofSwitch, Cluster.ofLetters, flag.takesValue_switch]
  | longApart option shortened plain =>
      refine ⟨_, of_apart (Item.classify_long shortened) plain ?_⟩
      intro rest progress
      refine Progress.consume_apart ?_ (progress.takeCluster_value [] option plain) rest
      simp [Cluster.ofSwitch, Cluster.ofLetters, option.takesValue_switch]
  | @longJoined option _ text shortened plain =>
      refine ⟨_, of_single (Item.classify_longJoined shortened text) (by simp) ?_⟩
      intro rest progress _
      refine Progress.consume_joined ?_ (progress.takeCluster_value [] option plain) rest
      simp [Cluster.ofSwitch, option.takesValue_switch]

/-- Every line of groups is read. -/
theorem of_spellsLine
    {wishes : List Wish}
    {words : List Text}
    (spelt : SpellsLine wishes words) :
    ∃ items, Reads wishes words items := by
  induction spelt with
  | nil => exact ⟨[], nil⟩
  | cons first _ inductionHypothesis =>
      obtain ⟨items, reads⟩ := of_spells first
      obtain ⟨others, readsLater⟩ := inductionHypothesis
      exact ⟨items ++ others, reads.append readsLater⟩

end Reads

/-! ### The order of wishes -/

/-- What a wish is about: the switch it is given by, or the path. -/
def Wish.subject : Wish → Option Switch
  | .path _ => none
  | .value option _ => some option.switch
  | .flag given => some given.switch

/-- Wishes about different things can be granted in either order. -/
theorem Progress.grant_comm
    (progress : Progress)
    {first second : Wish}
    (apart : first.subject ≠ second.subject) :
    (progress.grant first).grant second = (progress.grant second).grant first := by
  have takes_choices :
      ∀ text (change : Choices → Choices),
        ({ progress.takeWord text with choices := change (progress.takeWord text).choices } :
            Progress) =
          Progress.takeWord { progress with choices := change progress.choices } text := by
    intro text change
    unfold Progress.takeWord Progress.leaveOver
    cases progress.path <;> rfl
  cases first with
  | path text =>
      cases second with
      | path other => exact (apart rfl).elim
      | value option value => exact takes_choices text (option.give value)
      | flag flag => exact takes_choices text flag.raise
  | value option value =>
      cases second with
      | path text => exact (takes_choices text (option.give value)).symm
      | value other value =>
          cases option <;> cases other <;> first | rfl | exact (apart rfl).elim
      | flag flag => cases option <;> cases flag <;> rfl
  | flag flag =>
      cases second with
      | path text => exact (takes_choices text flag.raise).symm
      | value option value => cases option <;> cases flag <;> rfl
      | flag other => cases flag <;> cases other <;> rfl

/-- Wishes about different things can be granted in any order. -/
theorem Progress.grantAll_of_perm
    (progress : Progress)
    {wishes others : List Wish}
    (same : wishes.Perm others)
    (apart : (others.map Wish.subject).Nodup) :
    progress.grantAll wishes = progress.grantAll others := by
  refine same.foldl_eq' ?_ progress
  intro first inFirst second inSecond earlier
  by_cases equal : first = second
  · rw [equal]
  · refine Progress.grant_comm earlier ?_
    intro sameSubject
    exact equal
      (List.inj_on_of_nodup_map apart (same.subset inFirst) (same.subset inSecond) sameSubject)

/-- All that a command line asks for: a path, and every option at most once. -/
structure Wishes where
  path : Text
  modId? : Option Text
  modName? : Option Text
  mainClass? : Option Text
  kotlin : Bool
  force : Bool
  git : Bool
  deriving Repr, DecidableEq

namespace Wishes

/-- The wishes one by one. -/
def toList
    (wishes : Wishes) :
    List Wish :=
  .path wishes.path ::
    ((wishes.modId?.map (.value .modId)).toList ++
      (wishes.modName?.map (.value .modName)).toList ++
      (wishes.mainClass?.map (.value .mainClass)).toList ++
      (if wishes.kotlin then [.flag .kotlin] else []) ++
      (if wishes.force then [.flag .force] else []) ++
      (if wishes.git then [.flag .git] else []))

/-- The arguments that stand for the wishes: what is not asked for is unset. -/
def arguments
    (wishes : Wishes) :
    Arguments where
  path := wishes.path
  choices :=
    { modId := wishes.modId?.elim .unset .given
      modName := wishes.modName?.elim .unset .given
      mainClass := wishes.mainClass?.elim .unset .given
      kotlin := wishes.kotlin
      force := wishes.force
      git := wishes.git }

/-- The options of a request that the wishes stand for, with a default for every absent one. -/
def options
    (wishes : Wishes) :
    Request.Options where
  targetPath := .text wishes.path
  modName := wishes.modName?.elim .null .text
  modId := .text (wishes.modId?.getD [])
  useKotlin := .bool wishes.kotlin
  mainClass := wishes.mainClass?.elim .null .text

/-- What wishes are about, by which of them there are. -/
def subjects
    (modId modName mainClass kotlin force git : Bool) :
    List (Option Switch) :=
  none ::
    ((if modId then [some .modId] else []) ++
      (if modName then [some .modName] else []) ++
      (if mainClass then [some .mainClass] else []) ++
      (if kotlin then [some .kotlin] else []) ++
      (if force then [some .force] else []) ++
      (if git then [some .git] else []))

theorem map_subject_toList
    (wishes : Wishes) :
    wishes.toList.map Wish.subject =
      subjects wishes.modId?.isSome wishes.modName?.isSome wishes.mainClass?.isSome
        wishes.kotlin wishes.force wishes.git := by
  obtain ⟨path, modId?, modName?, mainClass?, kotlin, force, git⟩ := wishes
  cases modId? <;> cases modName? <;> cases mainClass? <;> cases kotlin <;> cases force <;>
    cases git <;> rfl

/-- No two of the wishes are about the same. -/
theorem nodup_subjects
    (wishes : Wishes) :
    (wishes.toList.map Wish.subject).Nodup := by
  have each :
      ∀ modId modName mainClass kotlin force git,
        (subjects modId modName mainClass kotlin force git).Nodup := by
    decide
  rw [map_subject_toList]
  exact each _ _ _ _ _ _

/-- Granting the wishes one by one comes to what they stand for. -/
theorem grantAll_toList
    (wishes : Wishes) :
    Progress.start.grantAll wishes.toList =
      ⟨some wishes.path, wishes.arguments.choices, []⟩ := by
  obtain ⟨path, modId?, modName?, mainClass?, kotlin, force, git⟩ := wishes
  cases modId? <;> cases modName? <;> cases mainClass? <;> cases kotlin <;> cases force <;>
    cases git <;> rfl

theorem optionsOf_arguments
    (wishes : Wishes) :
    Cli.optionsOf wishes.arguments = wishes.options := by
  obtain ⟨path, modId?, modName?, mainClass?, kotlin, force, git⟩ := wishes
  cases modId? <;> cases modName? <;> cases mainClass? <;> rfl

end Wishes

/--
A command line is read as the arguments that stand for what it asks for, in whatever order
and spelling it does so; what it does not ask for takes its default.
-/
theorem Arguments.parse_spelled
    {wishes : Wishes}
    {asked : List Wish}
    {words : List Text}
    (spelt : SpellsLine asked words)
    (same : asked.Perm wishes.toList) :
    parse words = .ok wishes.arguments ∧
      Cli.optionsOf wishes.arguments = wishes.options := by
  refine ⟨?_, wishes.optionsOf_arguments⟩
  obtain ⟨items, reads⟩ := Reads.of_spellsLine spelt
  have classified : Item.classifyAll words = .ok items := by
    have whole := reads.classified []
    rw [List.append_nil] at whole
    rw [whole]
    simp [Item.classifyAll, Except.map]
  have consumed : Progress.start.consume items = .ok (Progress.start.grantAll asked) := by
    have whole := reads.consumed [] Progress.start (by simp)
    rw [List.append_nil] at whole
    rw [whole, Progress.consume]
  have granted := Progress.start.grantAll_of_perm same wishes.nodup_subjects
  rw [parse, classified]
  simp only [consumed, granted, Wishes.grantAll_toList]
  rfl

/-- Wishes for a project in Kotlin whose identifier is given as an empty text. -/
def sampleWishes : Wishes where
  path := "a dir".toList
  modId? := some []
  modName? := some "My=Mod".toList
  mainClass? := none
  kotlin := true
  force := false
  git := true

/-- The sample wishes in the order in which the sample line asks for them. -/
def sampleOrder : List Wish :=
  [.value .modId [], .path "a dir".toList, .flag .git, .flag .kotlin,
    .value .modName "My=Mod".toList]

/-- The path may stand between the groups, and a cluster may end in an option. -/
theorem Arguments.parse_spelled_clustered :
    SpellsLine sampleOrder (["--i=", "a dir", "-gknMy=Mod"].map String.toList) ∧
      sampleOrder.Perm sampleWishes.toList ∧
        parse (["--i=", "a dir", "-gknMy=Mod"].map String.toList) =
            .ok sampleWishes.arguments ∧
          Cli.optionsOf sampleWishes.arguments = sampleWishes.options := by
  have shortened : Shortens "i".toList ValueOption.modId.switch := by
    decide
  have emptyPlain : IsPlainArgument [] := by
    decide
  have namePlain : IsPlainArgument "My=Mod".toList := by
    decide
  have modId := Spells.longJoined .modId shortened emptyPlain
  have path := Spells.path (by decide : IsPlainArgument "a dir".toList)
  have cluster := Spells.shortJoined [.git, .kotlin] .modName namePlain (by decide) (by decide)
  have spelt : SpellsLine sampleOrder (["--i=", "a dir", "-gknMy=Mod"].map String.toList) :=
    .cons modId (.cons path (.cons cluster .nil))
  have same : sampleOrder.Perm sampleWishes.toList := by
    decide
  exact ⟨spelt, same, parse_spelled spelt same⟩

end ModSkeleton.CommandLine
