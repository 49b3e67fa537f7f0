import ModSkeleton.Json.Reader

namespace ModSkeleton.Command

/-!
# Durations

A span of seconds as a decimal fraction, so that spans are added and compared
exactly.
-/

/-- A number of seconds: some units of a power of ten below one. -/
structure Duration where
  units : Int
  places : Nat
  deriving Repr, DecidableEq

namespace Duration

/-- No time at all. -/
def zero : Duration :=
  ⟨0, 0⟩

/-- A duration in units of a finer power of ten. -/
def unitsAt
    (duration : Duration)
    (places : Nat) :
    Int :=
  duration.units * (Nat.pow 10 (places - duration.places) : Nat)

/-- The sum of two durations. -/
def add
    (first second : Duration) :
    Duration :=
  let places := max first.places second.places
  ⟨first.unitsAt places + second.unitsAt places, places⟩

/-- Whether one duration is at least as long as another. -/
def atLeast
    (first second : Duration) :
    Bool :=
  let places := max first.places second.places
  second.unitsAt places ≤ first.unitsAt places

/-- The duration that a decimal numeral of seconds denotes. -/
def ofNumeral?
    (text : Text) :
    Option Duration :=
  let (negative, unsigned) := match text with
    | '-' :: rest => (true, rest)
    | _ => (false, text)
  let (whole, fractionPart) := unsigned.span (· != '.')
  let digits := whole ++ fractionPart.drop 1
  if digits.isEmpty || !digits.all Char.isDigit then none
  else
    let magnitude : Int := Json.digitsValue digits
    some ⟨if negative then -magnitude else magnitude, fractionPart.length - 1⟩

/-- The longer of two durations. -/
def longer
    (first second : Duration) :
    Duration :=
  if first.atLeast second then first else second

end Duration

end ModSkeleton.Command
