import Automation.Number.Binary64
import Automation.Text.Blank
import Automation.Text.Digit
import Automation.Text.LetterCase

/-!
# Numbers written as text

Three readers of numbers. `integer` reads a setting: decimal digits of any script. `wholeNumber`
reads a form field that must be an integer: ASCII digits, and zeros before them and a fraction of
zeros after them are allowed. `real?` reads a form field that may be any number. Each drops white
space at the ends, takes an optional sign and allows single underscores between digits. An integer
has at most `integerDigits` digits.
-/

set_option autoImplicit false

namespace Automation.Literal

open Automation.Text

/-- The greatest number of digits of a written integer. -/
def integerDigits : Nat := 4300

/-- Whether an integer has few enough digits to be written. -/
def isWritable (n : Int) : Bool := n.natAbs < Nat.pow 10 integerDigits

/-- Why a text is no integer. -/
inductive IntegerDefect where
  /-- It is not written as one. -/
  | form
  /-- It is written as one of this many digits, too many to be read. -/
  | size (digits : Nat)
  deriving DecidableEq, Repr

/-- The sign of a written number and what follows it. -/
def sign : List Char → Bool × List Char
  | '-' :: rest => (true, rest)
  | '+' :: rest => (false, rest)
  | cs => (false, cs)

/-- The value of the digits that follow a digit, underscores standing singly between two digits. -/
def groupedFrom? (digit? : Char → Option Nat) : (value : Nat) → List Char → Option Nat
  | value, [] => some value
  | value, '_' :: c :: rest =>
    match digit? c with
    | some d => groupedFrom? digit? (10 * value + d) rest
    | none => none
  | value, c :: rest =>
    match digit? c with
    | some d => groupedFrom? digit? (10 * value + d) rest
    | none => none

/-- The value of one or more digits, underscores standing singly between two digits. -/
def grouped? (digit? : Char → Option Nat) : List Char → Option Nat
  | [] => none
  | c :: rest => (digit? c).bind fun d => groupedFrom? digit? d rest

/-- An integer in decimal digits of any script. Zeros in front count as digits. -/
def integer (s : String) : Except IntegerDefect Int :=
  let (negative, body) := sign (trimChars isWhiteSpace s.toList)
  match grouped? decimalDigit? body with
  | none => .error .form
  | some n =>
    let count := (body.filter (· != '_')).length
    if integerDigits < count then .error (.size count) else .ok (Binary64.signed negative n)

/-- The value of a run of ASCII digits, the number of them, and what follows. -/
def digitRun : List Char → Nat × Nat × List Char :=
  go 0 0
where
  /-- The run continued after `count` digits of the given value. -/
  go (value count : Nat) : List Char → Nat × Nat × List Char
    | [] => (value, count, [])
    | c :: rest =>
      match asciiDigit? c with
      | some d => go (10 * value + d) (count + 1) rest
      | none => (value, count, c :: rest)

/-- The text without its underscores, if they stand singly and inside it. -/
def withoutUnderscores? (cs : List Char) : Option (List Char) :=
  let doubled := (cs.zip cs.tail).any fun (a, b) => a == '_' && b == '_'
  if cs.head? == some '_' || cs.getLast? == some '_' || doubled then none
  else some (cs.filter (· != '_'))

/-! ## Integers of a form field -/

/-- An integer without anything that could be left out: an optional minus sign, and digits that do
not begin with a zero unless there are no others. The sign counts as a digit. -/
def plainInteger (cs : List Char) : Except IntegerDefect Int :=
  let (negative, body) := match cs with
    | '-' :: rest => (true, rest)
    | _ => (false, cs)
  match body with
  | ['0'] => .ok 0
  | '0' :: _ => .error .form
  | _ =>
    let (n, count, rest) := digitRun body
    let count := if negative && count != 0 then count + 1 else count
    if integerDigits < count then .error (.size count)
    else if count = 0 ∨ !rest.isEmpty then .error .form
    else .ok (Binary64.signed negative n)

/-- The text after the plus sign at its beginning, if it has one. -/
def withoutPlus? : List Char → Option (List Char)
  | '+' :: '-' :: _ => none
  | '+' :: rest => some rest
  | cs => some cs

/-- The text from the first digit on that is not zero, or from a minus sign before it. Of zeros
alone the last is kept, and one before a point too. Underscores among the zeros are dropped, and
`last` is the character before the text. -/
def afterZeros? (last : Char) : List Char → Option (List Char)
  | [] => some [last]
  | c :: rest =>
    if c = '0' ∨ c = '_' then afterZeros? c rest
    else if c = '.' then some (last :: c :: rest)
    else if c = '-' ∨ (asciiDigit? c).isSome then some (c :: rest)
    else none

/-- The text without the zeros at its beginning. -/
def withoutZeros? : List Char → Option (List Char)
  | [] => none
  | c :: rest =>
    if c = '0' then afterZeros? c rest
    else if c = '-' ∨ (asciiDigit? c).isSome then some (c :: rest)
    else none

/-- The text before a fraction of one or more zeros, if there is one. -/
def withoutZeroFraction (cs : List Char) : List Char :=
  match cs.reverse.dropWhile (· == '0') with
  | '.' :: rest => if cs.getLast? == some '0' then rest.reverse else cs
  | _ => cs

/-- An integer of a form field. It is read as it stands if it can be, and else without all that may
be left out of it. -/
def wholeNumber (s : String) : Except IntegerDefect Int :=
  match plainInteger s.toList with
  | .ok n => .ok n
  | .error (.size digits) => .error (.size digits)
  | .error .form =>
    match (withoutPlus? (trimChars isWhiteSpace s.toList)).bind withoutZeros? with
    | none => .error .form
    | some cs =>
      let cs := withoutZeroFraction cs
      plainInteger ((withoutUnderscores? cs).getD cs)

/-! ## Any numbers of a form field -/

/-- An unsigned decimal: digits on at least one side of an optional point. The result is the digits
as one number, the number of them after the point, and what follows. -/
def decimal? (cs : List Char) : Option (Nat × Nat × List Char) :=
  let (whole, wholeCount, rest) := digitRun cs
  match rest with
  | '.' :: more =>
    let (part, partCount, tail) := digitRun more
    if wholeCount + partCount = 0 then none
    else some (whole * Nat.pow 10 partCount + part, partCount, tail)
  | _ => if wholeCount = 0 then none else some (whole, 0, rest)

/-- The exponent at the end of a number: none at all is zero. -/
def exponent? : List Char → Option Int
  | [] => some 0
  | c :: rest =>
    if c = 'e' ∨ c = 'E' then
      let (negative, digits) := sign rest
      let (value, count, tail) := digitRun digits
      if count = 0 ∨ !tail.isEmpty then none else some (Binary64.signed negative value)
    else none

/-- A decimal number, an infinity or a nan, without white space or underscores. -/
def plainReal? (cs : List Char) : Option Binary64 :=
  let (negative, body) := sign cs
  let word := String.ofList (body.map Char.toLower)
  if word == "inf" || word == "infinity" then some (.infinite negative)
  else if word == "nan" then some .nan
  else
    (decimal? body).bind fun (digits, places, tail) =>
      (exponent? tail).map fun power => Binary64.ofDecimal negative digits (power - (places : Int))

/-- A number of a form field: without white space around it, or else without underscores in it. -/
def real? (s : String) : Option Binary64 :=
  (plainReal? (trimChars isWhiteSpace s.toList)).or
    ((withoutUnderscores? s.toList).bind plainReal?)

end Automation.Literal
