import Automation.Number.Literal
import Automation.Number.Word
import Automation.Text.Digit
import Automation.Time.Moment

/-!
# Reading moments

A moment is written as a date and a time of day, or as a date alone, or as a number of seconds or
milliseconds since the beginning of 1970. `ofText`, `ofInt` and `ofReal` read the three forms. A
text that is no moment is judged as a date, and the first thing wrong with it as a date is the
reason that is reported.
-/

set_option autoImplicit false

namespace Automation.Moment

open Automation.Text

/-- What is wrong with a text as a date, or with a number as a count since 1970. -/
inductive DateDefect where
  | tooShort
  | yearCharacter
  | monthCharacter
  | dayCharacter
  | separator
  | monthRange
  | dayRange
  | extraCharacters
  | afterLastYear
  | beforeFirstYear
  deriving DecidableEq, Repr

/-- The wording of a defect. -/
def DateDefect.message : DateDefect → String
  | .tooShort => "input is too short"
  | .yearCharacter => "invalid character in year"
  | .monthCharacter => "invalid character in month"
  | .dayCharacter => "invalid character in day"
  | .separator => "invalid date separator, expected `-`"
  | .monthRange => "month value is outside expected range of 1-12"
  | .dayRange => "day value is outside expected range"
  | .extraCharacters => "unexpected extra characters at the end of the input"
  | .afterLastYear => "dates after 9999 are not supported as unix timestamps"
  | .beforeFirstYear => "dates before 0000 are not supported as unix timestamps"

/-- Why something is no moment. -/
inductive Defect where
  /-- It is neither a text nor a number. -/
  | kind
  /-- It is a number that is not a number. -/
  | nan
  /-- The number counts too far from 1970. -/
  | count (d : DateDefect)
  /-- The text is not a date either. -/
  | date (d : DateDefect)
  /-- It is well written and its year is zero. -/
  | yearZero
  deriving DecidableEq, Repr

/-- The wording of a defect. -/
def Defect.message : Defect → String
  | .kind => "Input should be a valid datetime"
  | .nan => "Input should be a valid datetime, NaN values not permitted"
  | .count d => "Input should be a valid datetime, " ++ d.message
  | .date d => "Input should be a valid datetime or date, " ++ d.message
  | .yearZero => "Input should be a valid datetime, year 0 is out of range"

/-! ## Dates -/

/-- Digits at the beginning of a text, exactly `count` of them. -/
def fixedDigits? : (count : Nat) → List Char → Option (Nat × List Char)
  | count, cs =>
    let (front, rest) := cs.splitAt count
    if front.length = count then
      (front.mapM asciiDigit?).map fun ds => (ds.foldl (fun n d => 10 * n + d) 0, rest)
    else none

/-- The date at the beginning of a text and what follows it. -/
def datePart (s : String) : Except DateDefect (Date × List Char) := do
  if s.utf8ByteSize < 10 then throw .tooShort
  let some (year, rest) := fixedDigits? 4 s.toList | throw .yearCharacter
  let '-' :: rest := rest | throw .separator
  let some (month, rest) := fixedDigits? 2 rest | throw .monthCharacter
  let '-' :: rest := rest | throw .separator
  let some (day, rest) := fixedDigits? 2 rest | throw .dayCharacter
  if month < 1 ∨ 12 < month then throw .monthRange
  if day < 1 ∨ Date.daysInMonth year month < day then throw .dayRange
  return (⟨year, month, day⟩, rest)

/-! ## Times of day and offsets -/

/-- The fraction of a second after its mark, in microseconds, and what follows: one digit or more,
of which the first six count. -/
def fraction? (cs : List Char) : Option (Nat × List Char) :=
  let digits := cs.takeWhile fun c => (asciiDigit? c).isSome
  if digits.isEmpty then none
  else
    let six := (digits ++ List.replicate 6 '0').take 6
    (fixedDigits? 6 six).map fun (micros, _) => (micros, cs.drop digits.length)

/-- The seconds of a time of day, in microseconds, and what follows. A time may leave them out. -/
def seconds? : List Char → Option (Nat × List Char)
  | ':' :: rest => do
    let (second, rest) ← fixedDigits? 2 rest
    guard (second < 60)
    match rest with
    | '.' :: more | ',' :: more =>
      let (micros, rest) ← fraction? more
      return (second * 1000000 + micros, rest)
    | _ => return (second * 1000000, rest)
  | rest => some (0, rest)

/-- A time of day in microseconds, and what follows. -/
def timePart? (cs : List Char) : Option (Nat × List Char) := do
  let (hour, rest) ← fixedDigits? 2 cs
  let ':' :: rest := rest | none
  let (minute, rest) ← fixedDigits? 2 rest
  guard (hour < 24 ∧ minute < 60)
  let (micros, rest) ← seconds? rest
  return ((hour * 60 + minute) * 60000000 + micros, rest)

/-- Hours and minutes of an offset, with or without a colon between them. -/
def offsetDigits? (negative : Bool) (cs : List Char) : Option Int := do
  let (hour, rest) ← fixedDigits? 2 cs
  let rest := match rest with
    | ':' :: more => more
    | rest => rest
  let (minute, rest) ← fixedDigits? 2 rest
  guard (rest.isEmpty ∧ minute < 60 ∧ hour * 60 + minute < 24 * 60)
  return Binary64.signed negative (hour * 60 + minute)

/-- The offset that ends a text, or its absence. -/
def offsetPart? : List Char → Option (Option Int)
  | [] => some none
  | ['Z'] | ['z'] => some (some 0)
  | '+' :: rest => (offsetDigits? false rest).map some
  | '-' :: rest | '−' :: rest => (offsetDigits? true rest).map some
  | _ => none

/-- A moment whose year is in the calendar, which has no year zero. -/
def inCalendar (m : Moment) : Except Defect Moment :=
  if m.wall < earliest then .error .yearZero else .ok m

/-- A date with a time of day and an offset. -/
def ofParts (d : Date) (micros : Nat) (offset : Option Int) : Except Defect Moment :=
  inCalendar ⟨d.toDays * day + (micros : Int), offset⟩

/-- The parts of a moment written with a time of day. -/
def fullParts? (s : String) : Option (Date × Nat × Option Int) := do
  let (d, rest) ← (datePart s).toOption
  match rest with
  | 'T' :: rest | 't' :: rest | ' ' :: rest | '_' :: rest =>
    let (micros, rest) ← timePart? rest
    let offset ← offsetPart? rest
    return (d, micros, offset)
  | _ => none

/-! ## Counts since 1970 -/

/-- Counts of a greater magnitude are milliseconds, all others seconds. -/
def watershed : Nat := 20000000000

/-- The microseconds of the unit of a count, which depends on whether it exceeds the watershed. -/
def microsPerUnit (exceeds : Bool) : Nat := if exceeds then 1000 else 1000000

/-- The last second that a count may name. -/
def lastSecond : Int := 253402300799

/-- The first second that a count may name. -/
def firstSecond : Int := -62167219200

/-- The moment of some microseconds since 1970. -/
def ofMicros (total : Int) : Except DateDefect Moment :=
  let second := total / 1000000
  if second < firstSecond then .error .beforeFirstYear
  else if lastSecond < second then .error .afterLastYear
  else .ok (ofInstant total)

/-- The moment of a whole count. -/
def ofWhole (n : Int) : Except DateDefect Moment :=
  ofMicros (n * microsPerUnit (watershed < n.natAbs))

/-- The moment of a count with a fraction, to the nearest microsecond. -/
def ofFractional (x : Binary64) : Except DateDefect Moment :=
  let unit := microsPerUnit (x.exceeds watershed)
  ofMicros (x.floor * unit + ((x.minusInt x.floor).scale unit).nearestIntAway)

/-- The moment that a count names, whose year has to be in the calendar. -/
def counted (m : Except DateDefect Moment) : Except Defect Moment :=
  match m with
  | .ok m => inCalendar m
  | .error d => .error (.count d)

/-- The moment of a real number. -/
def ofReal (x : Binary64) : Except Defect Moment :=
  match x with
  | .nan => .error .nan
  | .infinite true => .error (.count .beforeFirstYear)
  | .infinite false => .error (.count .afterLastYear)
  | .finite .. => counted (ofFractional x)

/-- The moment of an integer. One that does not fit a word is read as the nearest real number. -/
def ofInt (n : Int) : Except Defect Moment :=
  if fitsWord n then counted (ofWhole n)
  else
    match Binary64.ofInt n with
    | .infinite _ => .error .kind
    | x => ofReal x

/-- A count written in a text. -/
inductive WrittenCount where
  | whole (n : Int)
  | real (x : Binary64)

/-- A count: an optional sign and digits that fit a word, or a decimal number with a point. -/
def writtenCount? (s : String) : Option WrittenCount :=
  let (negative, body) := Literal.sign s.toList
  let (n, count, rest) := Literal.digitRun body
  match rest with
  | [] => if count = 0 ∨ !fitsWord n then none else some (.whole (Binary64.signed negative n))
  | '.' :: _ =>
    match Literal.plainReal? s.toList with
    | some (.finite sign m e) => some (.real (.finite sign m e))
    | _ => none
  | _ => none

/-- The moment of a written count. -/
def ofWritten : WrittenCount → Except DateDefect Moment
  | .whole n => ofWhole n
  | .real x => ofFractional x

/-! ## Texts -/

/-- A text that is neither a full moment nor a count: a date alone, at midnight, or the reason that
it is not even a date. -/
def ofDateText (s : String) : Except Defect Moment := do
  let judged : Except DateDefect (Date × List Char) := do
    let (d, rest) ← datePart s
    if rest.isEmpty then return (d, rest) else throw .extraCharacters
  match judged with
  | .ok (d, _) => ofParts d 0 none
  | .error defect =>
    match writtenCount? s with
    | some (.whole n) =>
      match ofWhole n with
      | .ok m => inCalendar m
      | .error e => .error (.date e)
    | _ => .error (.date defect)

/-- The moment written in a text. -/
def ofText (s : String) : Except Defect Moment :=
  match fullParts? s with
  | some (d, micros, offset) => ofParts d micros offset
  | none =>
    match (writtenCount? s).map ofWritten with
    | some (.ok m) => inCalendar m
    | _ => ofDateText s

end Automation.Moment
