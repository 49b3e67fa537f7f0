import ModSkeleton.Issue
import ModSkeleton.Json.Reader
import ModSkeleton.Text.Blank

namespace ModSkeleton.JavaVersion

/-!
# Java versions

A Java version is an integer of at least seventeen. It may be given as an
integer, as a number without a fractional part, as a truth value standing for
zero or one, or as a numeral.

A numeral is a text with an optional sign, digits that may be grouped by single
underscores, and an optional point followed by zeros only. It is read in steps:
blanks around it and a plus sign go away, then leading zeros together with the
underscores among them, then the point and its zeros, and last the underscores
that divide digits. What remains has to be a plain integer; a minus sign may
stand in front of it, even behind the zeros that went away.
-/

/-- The least version that projects can target. -/
def minimum : Int :=
  17

/-- Whether a plain integer may start with a character. -/
def startsInteger
    (c : Char) :
    Bool :=
  c.isDigit || c = '-'

/--
What remains behind leading zeros and the underscores among them, of which the
last character that went away is given. Before a point and at the end, that
character stays.
-/
def dropZeros? : Char → Text → Option Text
  | last, [] => some [last]
  | last, c :: rest =>
      if c = '0' || c = '_' then dropZeros? c rest
      else if startsInteger c then some (c :: rest)
      else if c = '.' then some (last :: c :: rest)
      else none

/-- A numeral without its leading zeros. -/
def withoutZeros? : Text → Option Text
  | '0' :: rest => dropZeros? '0' rest
  | c :: rest => if startsInteger c then some (c :: rest) else none
  | [] => none

/-- A numeral without a point and the zeros behind it. -/
def withoutFraction
    (text : Text) :
    Text :=
  match text.span (· != '.') with
  | (whole, _ :: fraction) =>
      if !fraction.isEmpty && fraction.all (· == '0') then whole else text
  | (_, []) => text

/-- Whether two underscores stand side by side. -/
def hasDoubleUnderscore : Text → Bool
  | '_' :: '_' :: _ => true
  | _ :: rest => hasDoubleUnderscore rest
  | [] => false

/-- A numeral without its underscores, unless one stands at an end or beside another. -/
def withoutUnderscores
    (text : Text) :
    Text :=
  if text.head? = some '_' || text.getLast? = some '_' || hasDoubleUnderscore text then text
  else text.filter (· != '_')

/-- A numeral without its plus sign. -/
def withoutPlus : Text → Text
  | '+' :: rest => rest
  | text => text

/-- The plain form of a numeral. -/
def plain?
    (text : Text) :
    Option Text :=
  (withoutZeros? (withoutPlus (Text.trim Text.isSpace text))).map fun kept =>
    withoutUnderscores (withoutFraction kept)

/-- Whether digits stand for a number without a leading zero. -/
def isWhole : Text → Bool
  | [] => false
  | ['0'] => true
  | c :: rest => c.isDigit && c != '0' && rest.all Char.isDigit

/-- How long the plain form of a numeral may be. -/
def maxNumeralLength : Nat :=
  4300

/-- The integer that a numeral denotes. -/
def ofNumeral
    (text : Text) :
    Except Issue Int :=
  match plain? text with
  | none => .error .notNumeral
  | some written =>
      let (negative, digits) := match written with
        | '-' :: rest => (true, rest)
        | _ => (false, written)
      if !isWhole digits then .error .notNumeral
      else if maxNumeralLength < written.length then .error .tooLarge
      else
        let magnitude : Int := Json.digitsValue digits
        .ok (if negative then -magnitude else magnitude)

/-- Split a sign from the front of a written number. -/
def splitSign : Text → Bool × Text
  | '-' :: rest => (true, rest)
  | '+' :: rest => (false, rest)
  | text => (false, text)

/-- The sign, digits, count of fractional digits and exponent of a written number. -/
def parts
    (written : Text) :
    Bool × Nat × Nat × Int :=
  let (negative, unsigned) := splitSign written
  let (mantissa, exponentPart) := unsigned.span fun c => c != 'e' && c != 'E'
  let (whole, fractionPart) := mantissa.span (· != '.')
  let fraction := fractionPart.drop 1
  let (exponentNegative, exponentDigits) := splitSign (exponentPart.drop 1)
  let exponent : Int := Json.digitsValue exponentDigits
  (negative, Json.digitsValue (whole ++ fraction), fraction.length,
    if exponentNegative then -exponent else exponent)

/-- Bits of precision of a number with a fractional part or an exponent. -/
def precision : Nat :=
  53

/-- Round a whole number to a number of bits, a half to the even neighbour. -/
def roundWhole
    (value : Nat) :
    Nat :=
  let unit := Nat.pow 2 (value.log2 + 1 - precision)
  let quotient := value / unit
  let doubled := 2 * (value % unit)
  if unit < doubled || (unit = doubled && quotient % 2 = 1) then (quotient + 1) * unit
  else quotient * unit

/-- The bound on the integers that a number with an exponent may stand for. -/
def wholeBound : Nat :=
  Nat.pow 2 63

/-- The integer that a written number denotes, unless it has a fractional part. -/
def ofWritten
    (written : Text) :
    Except Issue Int :=
  let (negative, digits, places, exponent) := parts written
  let shift := exponent - places
  let unit := Nat.pow 10 (-shift).toNat
  if digits % unit ≠ 0 then .error .fractional
  else
    let magnitude := roundWhole (digits * Nat.pow 10 shift.toNat / unit)
    if wholeBound ≤ magnitude then .error .tooLarge
    else .ok (if negative then -(magnitude : Int) else magnitude)

/-- A version that is not below the least one. -/
def atLeastMinimum
    (version : Int) :
    Except Issue Int :=
  if version < minimum then .error (.belowMinimum minimum) else .ok version

/-- A given value as a Java version. -/
def check : Json.Value → Except Issue Int
  | .int value => atLeastMinimum value
  | .bool value => atLeastMinimum (if value then 1 else 0)
  | .number written =>
      match ofWritten written with
      | .ok value => atLeastMinimum value
      | .error issue => .error issue
  | .text value =>
      match ofNumeral value with
      | .ok value => atLeastMinimum value
      | .error issue => .error issue
  | _ => .error .notInteger

/-- Signs, zeros, groups and a point do not matter. -/
example :
    (ofNumeral " +0_2_1.00 ".toList).toOption = some 21 := by
  decide +kernel

end ModSkeleton.JavaVersion
