import ModSkeleton.Command.FileName
import ModSkeleton.Shell.Arithmetic
import ModSkeleton.Text.Utf8

namespace ModSkeleton.Command

/-!
# Formats

Printing of arguments by a format, as a program and as a builtin of the shell. The
two read numbers and directives alike; they differ in a few escapes, in the wording
of their complaints and in what they do after one.
-/

/-- Who prints. -/
inductive Dialect where
  | program
  | builtin
  deriving Repr, DecidableEq

/-- Text between the quotes that programs put around what they complain about. -/
def curlyQuoted
    (text : Text) :
    Text :=
  Char.ofNat 0x2018 :: (text ++ [Char.ofNat 0x2019])

/-- What an escape behind a backslash stands for. -/
inductive Escape where
  | bytes (bytes : Text.Bytes) (size : Nat)
  | stop
  | incomplete
  deriving Repr, DecidableEq

/-- The byte that a letter behind a backslash names. -/
def escapeLetter? : Char → Option UInt8
  | 'a' => some 7
  | 'b' => some 8
  | 't' => some 9
  | 'n' => some 10
  | 'v' => some 11
  | 'f' => some 12
  | 'r' => some 13
  | '\\' => some 92
  | _ => none

/-- The number that hexadecimal digits at the start of a text denote, with their count. -/
def hexDigits
    (limit : Nat)
    (text : Text) :
    Nat × Nat :=
  let digits := (text.takeWhile fun c => (Shell.Arithmetic.digitOf? 16 c).isSome).take limit
  ((Shell.Arithmetic.digitsIn 16 digits).toNat, digits.length)

/-- The escape of octal digits at the start of a text, behind some that are left out. -/
def octalEscape
    (leftOut : Nat)
    (text : Text) :
    Escape :=
  let digits := ((text.drop leftOut).takeWhile Text.isOctal).take 3
  .bytes [UInt8.ofNat (Text.octalValue digits)] (leftOut + digits.length)

/-- The escape that a text behind a backslash starts with. -/
def escapeOf
    (dialect : Dialect)
    (inArgument : Bool)
    (text : Text) :
    Escape :=
  match text with
  | [] => .bytes [92] 0
  | c :: rest =>
      match escapeLetter? c with
      | some byte => .bytes [byte] 1
      | none =>
          if Text.isOctal c then octalEscape (if inArgument && c = '0' then 1 else 0) text
          else if c = 'c' && (inArgument || dialect = .program) then .stop
          else if dialect = .builtin then .bytes [92] 0
          else if c = '"' then .bytes [34] 1
          else if c = 'e' then .bytes [27] 1
          else if c = 'x' || c = 'u' || c = 'U' then
            let limit := if c = 'x' then 2 else if c = 'u' then 4 else 8
            let (value, count) := hexDigits limit rest
            if count = 0 || (c != 'x' && count < limit) then .incomplete
            else if c = 'x' then .bytes [UInt8.ofNat value] (count + 1)
            else .bytes (String.utf8EncodeChar (Char.ofNat value)) (count + 1)
          else
            .bytes (92 :: String.utf8EncodeChar c) 1

/-- An argument with its escapes read, up to one that stops the output. -/
def unescapeFrom
    (dialect : Dialect) :
    Nat → Text → Text.Bytes × Bool
  | _, [] => ([], false)
  | done + 1, _ :: rest => unescapeFrom dialect done rest
  | 0, c :: rest =>
      if c = '\\' then
        match escapeOf dialect true rest with
        | .bytes bytes size =>
            let (later, stopped) := unescapeFrom dialect size rest
            (bytes ++ later, stopped)
        | _ => ([], true)
      else
        let (later, stopped) := unescapeFrom dialect 0 rest
        (String.utf8EncodeChar c ++ later, stopped)

/-- A directive of a format. -/
structure Directive where
  left : Bool
  plus : Bool
  blank : Bool
  alternate : Bool
  zeros : Bool
  width : Nat
  precision : Option Nat
  conversion : Char
  deriving Repr, DecidableEq

namespace Directive

/-- Bytes filled up to the width of a directive. -/
def fill
    (directive : Directive)
    (bytes : Text.Bytes) :
    Text.Bytes :=
  let missing := List.replicate (directive.width - bytes.length) 32
  if directive.left then bytes ++ missing else missing ++ bytes

/-- A numeral with its sign, filled up with blanks or zeros. -/
def fillNumber
    (directive : Directive)
    (mayFillWithZeros : Bool)
    (sign digits : Text) :
    Text.Bytes :=
  let missing := directive.width - (sign.length + digits.length)
  if directive.zeros && !directive.left && mayFillWithZeros then
    Text.encode (sign ++ List.replicate missing '0' ++ digits)
  else
    directive.fill (Text.encode (sign ++ digits))

/-- The sign of a number. -/
def sign
    (directive : Directive)
    (negative : Bool) :
    Text :=
  if negative then ['-'] else if directive.plus then ['+'] else if directive.blank then [' ']
  else []

/-- Digits with zeros in front up to the precision; zero has none at precision zero. -/
def preciseDigits
    (directive : Directive)
    (isZero : Bool)
    (digits : Text) :
    Text :=
  match directive.precision with
  | none => digits
  | some least =>
      if isZero && least = 0 then []
      else List.replicate (least - digits.length) '0' ++ digits

/-- An integer as a directive writes it. -/
def integer
    (directive : Directive)
    (value : Int) :
    Text.Bytes :=
  let unsigned := Shell.Arithmetic.bits value
  let based (base : Nat) (mark : Text) : Text.Bytes :=
    let digits := Nat.toDigits base unsigned
    let digits := if directive.conversion = 'X' then digits.map Char.toUpper else digits
    let digits := directive.preciseDigits (unsigned = 0) digits
    directive.fillNumber directive.precision.isNone
      (if directive.alternate && unsigned != 0 then mark else []) digits
  match directive.conversion with
  | 'o' => based 8 ['0']
  | 'x' => based 16 ['0', 'x']
  | 'X' => based 16 ['0', 'X']
  | 'u' => directive.fillNumber directive.precision.isNone []
      (directive.preciseDigits (unsigned = 0) (Nat.toDigits 10 unsigned))
  | _ => directive.fillNumber directive.precision.isNone (directive.sign (value < 0))
      (directive.preciseDigits (value = 0) (Nat.toDigits 10 value.natAbs))

end Directive

/-- A decimal number: some units of a power of ten. -/
structure Decimal where
  negative : Bool
  units : Nat
  exponent : Int
  deriving Repr, DecidableEq

namespace Decimal

/-- A quotient rounded to the nearest integer, a half to the even one. -/
def roundedQuotient
    (dividend divisor : Nat) :
    Nat :=
  let whole := dividend / divisor
  let rest := dividend % divisor
  if divisor < 2 * rest || (2 * rest = divisor && whole % 2 = 1) then whole + 1 else whole

/-- How many units of a power of ten a decimal has, rounded. -/
def unitsOf
    (decimal : Decimal)
    (exponent : Int) :
    Nat :=
  if exponent ≤ decimal.exponent then
    decimal.units * Nat.pow 10 (decimal.exponent - exponent).toNat
  else
    roundedQuotient decimal.units (Nat.pow 10 (exponent - decimal.exponent).toNat)

/-- Digits with a point before the last few of them. -/
def withPoint
    (places : Nat)
    (keepsPoint : Bool)
    (value : Nat) :
    Text :=
  let digits := Nat.toDigits 10 value
  let padded := List.replicate (places + 1 - digits.length) '0' ++ digits
  let whole := padded.take (padded.length - places)
  if places = 0 then (if keepsPoint then whole ++ ['.'] else whole)
  else whole ++ '.' :: padded.drop (padded.length - places)

/-- A decimal with a number of places. -/
def fixed
    (decimal : Decimal)
    (places : Nat)
    (keepsPoint : Bool) :
    Text :=
  withPoint places keepsPoint (decimal.unitsOf (-(places : Int)))

/-- The digits of a decimal after rounding to a count, and the power of the first one. -/
def significant
    (decimal : Decimal)
    (count : Nat) :
    Nat × Int :=
  if decimal.units = 0 then (0, 0)
  else
    let power := decimal.exponent + ((Nat.toDigits 10 decimal.units).length : Int) - 1
    let units := decimal.unitsOf (power - (count : Int) + 1)
    if Nat.pow 10 count ≤ units then (units / 10, power + 1) else (units, power)

/-- A power of ten as it is written behind a number. -/
def powerText
    (mark : Char)
    (power : Int) :
    Text :=
  let digits := Nat.toDigits 10 power.natAbs
  mark :: (if power < 0 then '-' else '+') ::
    (List.replicate (2 - digits.length) '0' ++ digits)

/-- A decimal with one digit before the point. -/
def scientific
    (decimal : Decimal)
    (places : Nat)
    (keepsPoint : Bool)
    (mark : Char) :
    Text :=
  let (units, power) := decimal.significant (places + 1)
  withPoint places keepsPoint units ++ powerText mark power

/-- A fraction without zeros at its end. -/
def dropZeros
    (text : Text) :
    Text :=
  if text.contains '.' then Text.trimEnd (· == '.') (Text.trimEnd (· == '0') text) else text

/-- A decimal in the shorter of the two notations. -/
def general
    (decimal : Decimal)
    (precision : Nat)
    (keepsZeros : Bool)
    (mark : Char) :
    Text :=
  let count := max 1 precision
  let (units, power) := decimal.significant count
  let clean (text : Text) : Text := if keepsZeros then text else dropZeros text
  if power < -4 || (count : Int) ≤ power then
    clean (withPoint (count - 1) keepsZeros units) ++ powerText mark power
  else
    clean (decimal.fixed ((count : Int) - 1 - power).toNat keepsZeros)

/-- The decimal that a text starts with, and what follows it. -/
def read
    (text : Text) :
    Decimal × Text :=
  let trimmed := text.dropWhile Shell.Arithmetic.isSpace
  let (negative, unsigned) := match trimmed with
    | '-' :: rest => (true, rest)
    | '+' :: rest => (false, rest)
    | _ => (false, trimmed)
  let whole := unsigned.takeWhile Char.isDigit
  let afterWhole := unsigned.drop whole.length
  let fraction := match afterWhole with
    | '.' :: rest => rest.takeWhile Char.isDigit
    | _ => []
  let afterFraction := match afterWhole with
    | '.' :: rest => rest.drop fraction.length
    | _ => afterWhole
  let digits := whole ++ fraction
  if digits.isEmpty then (⟨false, 0, 0⟩, text)
  else
    let (power, rest) : Int × Text :=
      match afterFraction with
      | mark :: behind =>
          let (minus, powerDigits) := match behind with
            | '-' :: rest => (true, rest)
            | '+' :: rest => (false, rest)
            | _ => (false, behind)
          let taken := powerDigits.takeWhile Char.isDigit
          if (mark = 'e' || mark = 'E') && !taken.isEmpty then
            let value := Shell.Arithmetic.digitsIn 10 taken
            (if minus then -value else value, powerDigits.drop taken.length)
          else
            (0, afterFraction)
      | [] => (0, [])
    (⟨negative, (Shell.Arithmetic.digitsIn 10 digits).toNat, power - fraction.length⟩, rest)

end Decimal

/-- A decimal as a directive writes it. -/
def Directive.decimal
    (directive : Directive)
    (value : Decimal) :
    Text.Bytes :=
  let precision := directive.precision.getD 6
  let mark := if directive.conversion.isUpper then 'E' else 'e'
  let digits := match directive.conversion.toLower with
    | 'e' => value.scientific precision directive.alternate mark
    | 'g' => value.general precision directive.alternate mark
    | _ => value.fixed precision directive.alternate
  directive.fillNumber true (directive.sign value.negative) digits

/-- Where printing stands. -/
structure Printing where
  arguments : List Text
  output : Text.Bytes
  complaints : List Text
  stopped : Bool
  status : Nat
  deriving Repr, DecidableEq

namespace Printing

/-- Printing with more output. -/
def put
    (printing : Printing)
    (bytes : Text.Bytes) :
    Printing :=
  { printing with output := printing.output ++ bytes }

/-- Printing with a complaint that does not stop it. -/
def complain
    (printing : Printing)
    (complaint : Text) :
    Printing :=
  { printing with complaints := printing.complaints ++ [complaint], status := 1 }

/-- Printing that ends with a complaint. -/
def abort
    (printing : Printing)
    (complaint : Text)
    (status : Nat) :
    Printing :=
  { printing with
    complaints := printing.complaints ++ [complaint], stopped := true, status }

/-- The next argument, if there is one, and printing without it. -/
def argument
    (printing : Printing) :
    Option Text × Printing :=
  (printing.arguments.head?, { printing with arguments := printing.arguments.drop 1 })

/-- Printing after a check that a whole argument was read as a number. -/
def checked
    (dialect : Dialect)
    (argument rest : Text)
    (printing : Printing) :
    Printing :=
  if rest.isEmpty then printing
  else
    match dialect with
    | .program =>
        printing.complain <|
          curlyQuoted argument ++
            if rest.length = argument.length then ": expected a numeric value".toList
            else ": value not completely converted".toList
    | .builtin =>
        printing.complain <|
          argument ++
            if rest.length = argument.length then ": expected numeric value".toList
            else ": not completely converted".toList

/-- The code of the character behind a quote, which counts as a number. -/
def characterCode?
    (dialect : Dialect) :
    Text → Option (Int × Text)
  | quote :: c :: rest =>
      if quote = '\'' || quote = '"' then
        match dialect with
        | .program => some ((c.toNat : Int), rest)
        | .builtin => some ((((String.utf8EncodeChar c).headD 0).toNat : Int), [])
      else
        none
  | _ => none

/-- The complaint about a number that is too large. -/
def outOfRange
    (dialect : Dialect)
    (argument : Text) :
    Text :=
  (if dialect = .program then curlyQuoted argument else argument) ++
    ": Numerical result out of range".toList

/-- The integer that an argument denotes. -/
def integerArgument
    (dialect : Dialect)
    (signed : Bool)
    (printing : Printing) :
    Int × Printing :=
  match printing.argument with
  | (none, printing) => (0, printing)
  | (some argument, printing) =>
      match characterCode? dialect argument with
      | some (code, []) => (code, printing)
      | some (code, ignored) =>
          (code,
            { printing with
              complaints := printing.complaints ++
                ["warning: ".toList ++ ignored ++
                  ": character(s) following character constant have been ignored".toList] })
      | none =>
          let trimmed := argument.dropWhile Shell.Arithmetic.isSpace
          let (negative, digits) := match trimmed with
            | '-' :: rest => (true, rest)
            | '+' :: rest => (false, rest)
            | _ => (false, trimmed)
          if !(digits.head?.any Char.isDigit) then
            (0, checked dialect argument argument printing)
          else
            let (magnitude, rest) := Shell.Arithmetic.largeNumberOf digits
            let value := if negative then -magnitude else magnitude
            let limited :=
              if signed then Shell.Arithmetic.clamp value
              else min 0xFFFFFFFFFFFFFFFF (max (-0xFFFFFFFFFFFFFFFF) value)
            if limited ≠ value then
              (limited, printing.complain (outOfRange dialect argument))
            else
              (value, checked dialect argument rest printing)

/-- The decimal that an argument denotes. -/
def decimalArgument
    (dialect : Dialect)
    (printing : Printing) :
    Decimal × Printing :=
  match printing.argument with
  | (none, printing) => (⟨false, 0, 0⟩, printing)
  | (some argument, printing) =>
      match characterCode? dialect argument with
      | some (code, _) => (⟨false, code.toNat, 0⟩, printing)
      | none =>
          let (value, rest) := Decimal.read argument
          (value, checked dialect argument rest printing)

/-- Print one directive. -/
def direct
    (dialect : Dialect)
    (written : Text)
    (directive : Directive)
    (printing : Printing) :
    Printing :=
  let cut (bytes : Text.Bytes) : Text.Bytes :=
    match directive.precision with
    | none => bytes
    | some most => bytes.take most
  match directive.conversion with
  | 's' =>
      let (argument, printing) := printing.argument
      printing.put (directive.fill (cut (Text.encode (argument.getD []))))
  | 'b' =>
      let (argument, printing) := printing.argument
      let (bytes, stopped) := unescapeFrom dialect 0 (argument.getD [])
      { printing.put (directive.fill (cut bytes)) with stopped }
  | 'q' =>
      match dialect with
      | .program =>
          let (argument, printing) := printing.argument
          printing.put (Text.encode (shownName (argument.getD [])))
      | .builtin => printing.abort (written ++ ": invalid directive".toList) 2
  | 'c' =>
      let (argument, printing) := printing.argument
      printing.put (directive.fill ((Text.encode (argument.getD [])).take 1))
  | conversion =>
      if conversion = 'd' || conversion = 'i' then
        let (value, printing) := printing.integerArgument dialect true
        printing.put (directive.integer value)
      else if conversion = 'o' || conversion = 'u' || conversion = 'x' || conversion = 'X' then
        let (value, printing) := printing.integerArgument dialect false
        printing.put (directive.integer value)
      else if ['e', 'E', 'f', 'F', 'g', 'G'].contains conversion then
        let (value, printing) := printing.decimalArgument dialect
        printing.put (directive.decimal value)
      else
        match dialect with
        | .program =>
            printing.abort (written ++ ": invalid conversion specification".toList) 1
        | .builtin => printing.abort (written ++ ": invalid directive".toList) 2

/-- A size in a directive: digits, or a star for an argument. -/
def size
    (dialect : Dialect)
    (format : Text)
    (printing : Printing) :
    Int × Text × Printing :=
  match format with
  | '*' :: rest =>
      let (value, printing) := printing.integerArgument dialect true
      (value, rest, printing)
  | _ =>
      let digits := format.takeWhile Char.isDigit
      (Shell.Arithmetic.digitsIn 10 digits, format.drop digits.length, printing)

/-- Whether a character is a flag of directives. -/
def isFlag
    (c : Char) :
    Bool :=
  c = '-' || c = '+' || c = ' ' || c = '#' || c = '0'

/-- Whether a character only tells how large a number is. -/
def isSizeLetter
    (dialect : Dialect)
    (c : Char) :
    Bool :=
  dialect = .program && (c = 'l' || c = 'h' || c = 'L' || c = 'j' || c = 't' || c = 'z')

/-- Print the directive that a format behind a percent sign starts with. -/
def directiveOf
    (dialect : Dialect)
    (format : Text)
    (printing : Printing) :
    Text × Printing :=
  let flags := format.takeWhile isFlag
  let (width, afterWidth, printing) := printing.size dialect (format.drop flags.length)
  let (precision, afterPrecision, printing) : Option Int × Text × Printing :=
    match afterWidth with
    | '.' :: rest =>
        let (precision, rest, printing) := printing.size dialect rest
        (some precision, rest, printing)
    | _ => (none, afterWidth, printing)
  let rest := afterPrecision.dropWhile (isSizeLetter dialect)
  let written := '%' :: format.take (format.length - rest.length + 1)
  match rest with
  | [] =>
      match dialect with
      | .program =>
          ([], printing.abort (written ++ ": invalid conversion specification".toList) 1)
      | .builtin => ([], printing.abort "missing format character".toList 2)
  | conversion :: rest =>
      let directive : Directive :=
        { left := flags.contains '-' || width < 0
          plus := flags.contains '+'
          blank := flags.contains ' '
          alternate := flags.contains '#'
          zeros := flags.contains '0'
          width := width.natAbs
          precision := precision.bind fun value => if value < 0 then none else some value.toNat
          conversion }
      (rest, printing.direct dialect written directive)

/-- Print a format once, with an upper bound on how many characters it has. -/
def once
    (dialect : Dialect) :
    Nat → Text → Printing → Printing
  | 0, _, printing => printing
  | _, [], printing => printing
  | fuel + 1, c :: rest, printing =>
      if printing.stopped then printing
      else if c = '%' then
        match rest with
        | '%' :: later => once dialect fuel later (printing.put [37])
        | _ =>
            let (later, printing) := printing.directiveOf dialect rest
            once dialect fuel later printing
      else if c = '\\' then
        match escapeOf dialect false rest with
        | .bytes bytes size => once dialect fuel (rest.drop size) (printing.put bytes)
        | .stop => { printing with stopped := true }
        | .incomplete => printing.abort "missing hexadecimal number in escape".toList 1
      else
        once dialect fuel rest (printing.put (String.utf8EncodeChar c))

/-- Print a format as often as there are arguments for it. -/
def repeated
    (dialect : Dialect)
    (format : Text) :
    Nat → Printing → Printing
  | 0, printing => printing
  | rounds + 1, printing =>
      let printed := printing.once dialect format.length format
      if printed.stopped || printed.arguments.isEmpty ||
          printed.arguments.length = printing.arguments.length then
        printed
      else
        repeated dialect format rounds printed

end Printing

/-- Print arguments by a format. -/
def printFormatted
    (dialect : Dialect)
    (format : Text)
    (arguments : List Text) :
    Printing :=
  let printed :=
    Printing.repeated dialect format (arguments.length + 1) ⟨arguments, [], [], false, 0⟩
  match dialect, printed.stopped, printed.arguments with
  | .program, false, argument :: _ =>
      { printed with
        complaints := printed.complaints ++
          ["warning: ignoring excess arguments, starting with ".toList ++
            curlyQuoted argument] }
  | _, _, _ => printed

end ModSkeleton.Command
