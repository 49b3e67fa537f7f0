import ModSkeleton.Text.Quoted

namespace ModSkeleton.Json

/-!
# JSON values

The dynamic values of the project: what option files and template contexts may
hold. Integers are unbounded and kept apart from numbers with a fraction or an
exponent, which are kept as they are written. Objects keep the order of their
members.
-/

/-- A JSON value. -/
inductive Value where
  | null
  | bool (value : Bool)
  | int (value : Int)
  | number (written : Text)
  | text (value : Text)
  | list (items : List Value)
  | object (members : List (Text × Value))
  deriving Repr

namespace Value

/-- The value of the first member with a key. -/
def member?
    (key : String) :
    Value → Option Value
  | .object members => members.lookup key.toList
  | _ => none

/-- Whether a value counts as present: anything but null, false, zero and empty. -/
def truthy : Value → Bool
  | .null => false
  | .bool value => value
  | .int value => value != 0
  | .number written =>
      (written.takeWhile fun c => c != 'e' && c != 'E').any fun c => c.isDigit && c != '0'
  | .text value => !value.isEmpty
  | .list items => !items.isEmpty
  | .object members => !members.isEmpty

/-- The name by which messages call the kind of a value. -/
def kindName : Value → Text
  | .null => "NoneType".toList
  | .bool _ => "bool".toList
  | .int _ => "int".toList
  | .number _ => "float".toList
  | .text _ => "str".toList
  | .list _ => "list".toList
  | .object _ => "dict".toList

mutual

/-- A value inside a list or an object as it is shown: texts are quoted. -/
def shown : Value → Text
  | .null => "None".toList
  | .bool true => "True".toList
  | .bool false => "False".toList
  | .int value => Text.decimal value
  | .number written => written
  | .text value => Text.quoted value
  | .list items => '[' :: (shownItems items ++ [']'])
  | .object members => '\x7b' :: (shownMembers members ++ ['\x7d'])

/-- The items of a list, separated by a comma and a space. -/
def shownItems : List Value → Text
  | [] => []
  | [item] => shown item
  | item :: next :: items => shown item ++ ", ".toList ++ shownItems (next :: items)

/-- The members of an object, separated by a comma and a space. -/
def shownMembers : List (Text × Value) → Text
  | [] => []
  | [(key, value)] => Text.quoted key ++ ": ".toList ++ shown value
  | (key, value) :: next :: members =>
      Text.quoted key ++ ": ".toList ++ shown value ++ ", ".toList ++
        shownMembers (next :: members)

end

/-- A value as it is printed: a text is printed as it is. -/
def display : Value → Text
  | .text value => value
  | value => shown value

@[simp]
theorem display_text
    (value : Text) :
    display (.text value) = value :=
  rfl

@[simp]
theorem display_int
    (value : Int) :
    display (.int value) = Text.decimal value := by
  simp [display, shown]

end Value

/-- A value of some kind was asked for something that this kind does not have. -/
structure WrongKind where
  kind : Text
  wanted : Text
  deriving Repr, DecidableEq

namespace WrongKind

/-- The fault of asking a value for something that its kind does not have. -/
def of
    (value : Value)
    (wanted : String) :
    WrongKind :=
  ⟨value.kindName, wanted.toList⟩

/-- The wording of the fault. -/
def message
    (fault : WrongKind) :
    Text :=
  Text.quoted fault.kind ++ " object has no attribute ".toList ++ Text.quoted fault.wanted

end WrongKind

end ModSkeleton.Json
