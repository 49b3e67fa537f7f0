import ModSkeleton.Shell.Pattern
import ModSkeleton.Shell.State

namespace ModSkeleton.Shell

/-!
# Expansion of words

A word is expanded to items: characters that know whether they are quoted and
whether they may be split at, and marks for where a field is present although it is
empty, or ends although nothing is split. The items are then cut into fields, and a
field that is a pattern is replaced by the paths that fit it.
-/

/-- An item of an expanded word. -/
inductive Item where
  | glyph (glyph : Glyph) (splits : Bool)
  | present
  | separate
  deriving Repr, DecidableEq

/-- The glyphs of items, where ends of fields become blanks. -/
def glyphsOf
    (items : List Item) :
    List Glyph :=
  items.filterMap fun item =>
    match item with
    | .glyph glyph _ => some glyph
    | .present => none
    | .separate => some ⟨' ', true⟩

/-- The text of items. -/
def itemsText
    (items : List Item) :
    Text :=
  glyphText (glyphsOf items)

/-- The items of a result, which is split unless it is quoted. -/
def resultItems
    (quoted : Bool)
    (value : Text) :
    List Item :=
  let glyphs := value.map fun c => Item.glyph ⟨c, quoted⟩ (!quoted)
  if quoted then .present :: glyphs else glyphs

/-- The items of arguments that stay apart. -/
def argumentItems
    (quoted : Bool) :
    List Text → List Item
  | [] => []
  | [argument] => resultItems quoted argument
  | argument :: next :: rest =>
      resultItems quoted argument ++ .separate :: argumentItems quoted (next :: rest)

/-- The items of a parameter's value. -/
def parameterItems
    (shell : Interpreter)
    (quoted : Bool)
    (name value : Text) :
    List Item :=
  if name = ['@'] || (name = ['*'] && !quoted) then argumentItems quoted shell.arguments
  else resultItems quoted value

/-- The output of a command, without newlines at its end. -/
def outputOf
    (execute : Command → Run Unit)
    (script : Option Command) :
    Run Text := do
  match script with
  | none =>
      Run.setStatus 0
      return []
  | some command =>
      let (shell, index) := (← get).openChannel []
      set shell
      Run.inCopy do
        modify fun copy => copy.setStream 1 (.channel index)
        execute command
      let bytes := (← get).channels.getD index []
      return Text.trimEnd (· == '\n') (Text.ofBytes (bytes.filter (· != 0)))

/-- The value of an arithmetic expression, whose assignments take effect. -/
def calculate
    (expression : Text) :
    Run Text := do
  let shell ← get
  let lookUp (name : Text) : Text := (shell.binding? name).getD []
  match Arithmetic.evaluate lookUp expression with
  | .error fault => Run.fail (fault.message expression)
  | .ok (value, assigned) =>
      for (name, number) in assigned.reverse do
        Run.assign name (Text.decimal number)
      return Text.decimal value

/-- The value of a parameter, or a complaint if the shell insists on one. -/
def valueOrEmpty
    (name : Text) :
    Run Text := do
  let shell ← get
  match shell.parameter? name with
  | some value => return value
  | none =>
      if shell.hasOption 'u' then
        Run.fail (name ++ ": parameter not set".toList)
      else
        return []

/-- Expand a part of a word; what is nested in it is expanded by a given function. -/
def expandPart
    (execute : Command → Run Unit)
    (expandInner : Word → Run (List Item)) :
    Part → Run (List Item)
  | .literal quoted text => do
      let glyphs := text.map fun c => Item.glyph ⟨c, quoted⟩ false
      return if quoted then .present :: glyphs else glyphs
  | .parameter quoted name => do
      let value ← valueOrEmpty name
      return parameterItems (← get) quoted name value
  | .length quoted name => do
      let size ←
        if name = ['@'] || name = ['*'] then
          pure (← get).arguments.length
        else
          Text.utf8Size <$> valueOrEmpty name
      return resultItems quoted (Text.decimal size)
  | .operation quoted name operator unlessEmpty operand => do
      let found := ((← get).parameter? name).filter fun value =>
        !(unlessEmpty && value.isEmpty)
      let isSet := found.isSome && !((name = ['@'] || name = ['*']) && (← get).arguments.isEmpty)
      let operandItems : Run (List Item) := do
        let items ← expandInner operand
        return items.map fun item =>
          match item with
          | .glyph glyph _ => .glyph glyph (!quoted && !glyph.quoted)
          | item => item
      let asFound : Run (List Item) := do
        return parameterItems (← get) quoted name (found.getD [])
      let cut (change : Pattern → Text → Text) : Run (List Item) := do
        let value ← valueOrEmpty name
        let pattern := Pattern.ofGlyphs (glyphsOf (← expandInner operand))
        return resultItems quoted (change pattern value)
      match operator with
      | .orDefault => if isSet then asFound else operandItems
      | .orNothing => if isSet then operandItems else return []
      | .orAssign =>
          if isSet then asFound
          else
            let value := itemsText (← operandItems)
            Run.assign name value
            return resultItems quoted value
      | .orComplain =>
          if isSet then asFound
          else
            let complaint := itemsText (← operandItems)
            let wording :=
              if !complaint.isEmpty then complaint
              else if unlessEmpty then "parameter not set or null".toList
              else "parameter not set".toList
            Run.fail (name ++ ": ".toList ++ wording)
      | .cutStart longest => cut fun pattern => pattern.cutStart longest
      | .cutEnd longest => cut fun pattern => pattern.cutEnd longest
  | .malformed => Run.fail "Bad substitution".toList
  | .output quoted script => do
      return resultItems quoted (← outputOf execute script)
  | .arithmetic quoted expression => do
      let text := itemsText (← expandInner expression)
      return resultItems quoted (← calculate text)

/-- Expand parts one after another. -/
def expandParts
    (execute : Command → Run Unit)
    (expandInner : Word → Run (List Item)) :
    Word → Run (List Item)
  | [] => return []
  | part :: rest => do
      let items ← expandPart execute expandInner part
      return items ++ (← expandParts execute expandInner rest)

/-- Expand a word in which expansions nest to some depth. -/
def expandNested
    (execute : Command → Run Unit) :
    Nat → Word → Run (List Item)
  | 0, _ => return []
  | depth + 1, word => expandParts execute (expandNested execute depth) word

/-- How deep expansions may nest. -/
def maxNesting : Nat :=
  100

/-- Expand a word to items. -/
def expandItems
    (execute : Command → Run Unit)
    (word : Word) :
    Run (List Item) :=
  expandNested execute maxNesting word

/-- Expand a word to a text that is not split. -/
def expandText
    (execute : Command → Run Unit)
    (word : Word) :
    Run Text :=
  return itemsText (← expandItems execute word)

/-- Whether a character is one of the blanks that separators may be. -/
def isBlankSeparator
    (c : Char) :
    Bool :=
  c = ' ' || c = '\t' || c = '\n'

/-- Where the splitting of items stands. -/
structure Splitting where
  fields : List (List Glyph)
  current : Option (List Glyph)
  afterBlank : Bool
  deriving Repr, DecidableEq

namespace Splitting

/-- Splitting after the current field has ended, if there is one. -/
def finish
    (splitting : Splitting) :
    Splitting :=
  match splitting.current with
  | none => splitting
  | some field => { splitting with fields := splitting.fields ++ [field], current := none }

/-- Splitting after one more item. -/
def step
    (separators : Text)
    (splitting : Splitting) :
    Item → Splitting
  | .present => { splitting with current := some (splitting.current.getD []), afterBlank := false }
  | .separate => { splitting.finish with afterBlank := false }
  | .glyph glyph splits =>
      if splits && separators.contains glyph.char then
        if isBlankSeparator glyph.char then
          if splitting.current.isSome then { splitting.finish with afterBlank := true }
          else splitting
        else if splitting.current.isSome then { splitting.finish with afterBlank := false }
        else if splitting.afterBlank then { splitting with afterBlank := false }
        else { splitting with fields := splitting.fields ++ [[]] }
      else
        { splitting with
          current := some (splitting.current.getD [] ++ [glyph])
          afterBlank := false }

end Splitting

/-- The fields of items. -/
def fieldsOf
    (separators : Text)
    (items : List Item) :
    List (List Glyph) :=
  (items.foldl (Splitting.step separators) ⟨[], none, false⟩).finish.fields

/-- Glyphs between slashes. -/
def glyphSegments : List Glyph → List (List Glyph)
  | [] => [[]]
  | glyph :: rest =>
      if glyph.char = '/' then [] :: glyphSegments rest
      else
        match glyphSegments rest with
        | [] => [[glyph]]
        | segment :: segments => (glyph :: segment) :: segments

/-- The paths that fit the segments of a pattern behind a path. -/
def fittingPaths
    (workspace : Workspace) :
    Text → List (List Glyph) → List Text
  | path, [] => if (workspace.entryAt? false path).isSome then [path] else []
  | path, segment :: rest =>
      let pattern := Pattern.ofGlyphs segment
      let goOn (name : Text) : List Text :=
        fittingPaths workspace (path ++ name ++ if rest.isEmpty then [] else ['/']) rest
      if !pattern.isOpen then goOn (glyphText segment)
      else
        match workspace.entryAt true (if path.isEmpty then Path.currentName else path) with
        | .ok (location, .directory) =>
            let present := workspace.tree.childNames location
            let names := (Path.currentName :: Path.parentName :: present).filter fun name =>
              pattern.fits name &&
                (name.head? ≠ some '.' || pattern.head? = some (.char '.'))
            (names.mergeSort Text.precedes).flatMap goOn
        | _ => []

/-- The paths that a field stands for, or the field itself if there are none. -/
def pathsOf
    (shell : Interpreter)
    (field : List Glyph) :
    List Text :=
  if shell.hasOption 'f' || !(Pattern.ofGlyphs field).isOpen then [glyphText field]
  else
    match fittingPaths shell.workspace [] (glyphSegments field) with
    | [] => [glyphText field]
    | paths => paths

/-- Expand words to fields. -/
def expandFields
    (execute : Command → Run Unit) :
    List Word → Run (List Text)
  | [] => return []
  | word :: words => do
      let items ← expandItems execute word
      let shell ← get
      let fields := (fieldsOf shell.separators items).flatMap (pathsOf shell)
      return fields ++ (← expandFields execute words)

end ModSkeleton.Shell
