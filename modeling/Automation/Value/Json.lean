import Automation.Number.Literal
import Automation.Number.Shortest
import Automation.Text.Surrogate
import Automation.Value.Basic

/-!
# JSON text

`Json.readChars` reads one JSON value, with white space around it, and refuses anything else. It is
generous in three ways: the words `NaN`, `Infinity` and `-Infinity` are numbers, a name that is
repeated in a record keeps its last value, and a number without point and exponent is an integer of
any size up to `4300` digits. A text that nests lists and records deeper than the reader has room
for is refused where the room ends. An escape may name half a surrogate pair. `Json.write` writes a
value; dates and object ids are written as texts.
-/

set_option autoImplicit false

namespace Automation.Json

open Automation.Text

/-! ## Reading -/

/-- Why a text holds no value that can be read. -/
inductive Defect where
  /-- It is not well formed. -/
  | form
  /-- There is no room for a list or a record inside the others. -/
  | depth (isList : Bool)
  deriving DecidableEq, Repr

/-- White space between the parts of a text. -/
def isSpace (c : Char) : Bool := c == ' ' || c == '\t' || c == '\n' || c == '\r'

/-- The text after its leading white space. -/
def skipSpace (cs : List Char) : List Char := cs.dropWhile isSpace

/-- The value of four hexadecimal digits and what follows them. -/
def fourHex? : List Char → Option (Nat × List Char)
  | a :: b :: c :: d :: rest => do
    let a ← hexDigit? a
    let b ← hexDigit? b
    let c ← hexDigit? c
    let d ← hexDigit? d
    return (((a * 16 + b) * 16 + c) * 16 + d, rest)
  | _ => none

/-- The character of an escaped code unit, with its second half if the unit needs one. -/
def escapedUnit (n : Nat) (rest : List Char) : Char × List Char :=
  if isHighHalf n then
    match rest with
    | '\\' :: 'u' :: more =>
      match fourHex? more with
      | some (low, tail) =>
        if isLowHalf low then (pairChar n low, tail) else (unitChar n, rest)
      | none => (unitChar n, rest)
    | _ => (unitChar n, rest)
  else (unitChar n, rest)

/-- The character that a backslash and a letter stand for. -/
def escapedLetter? : Char → Option Char
  | '"' => some '"'
  | '\\' => some '\\'
  | '/' => some '/'
  | 'b' => some (Char.ofNat 8)
  | 'f' => some (Char.ofNat 12)
  | 'n' => some '\n'
  | 'r' => some '\r'
  | 't' => some '\t'
  | _ => none

/-- One escape after its backslash. -/
def escape? : List Char → Option (Char × List Char)
  | 'u' :: rest => (fourHex? rest).map fun (n, rest) => escapedUnit n rest
  | c :: rest => (escapedLetter? c).map fun c => (c, rest)
  | [] => none

/-- A text after its opening mark, and what follows its closing mark. -/
def textBody? : (fuel : Nat) → (done : List Char) → List Char → Option (String × List Char)
  | 0, _, _ => none
  | _ + 1, _, [] => none
  | fuel + 1, done, c :: rest =>
    if c = '"' then some (String.ofList done.reverse, rest)
    else if c = '\\' then
      match escape? rest with
      | some (c, rest) => textBody? fuel (c :: done) rest
      | none => none
    else if c.toNat < 0x20 then none
    else textBody? fuel (c :: done) rest

/-- The digits of an integer part: a single zero, or digits that do not begin with zero. -/
def wholePart? (cs : List Char) : Option (Nat × Nat × List Char) :=
  match cs with
  | '0' :: rest => some (0, 1, rest)
  | _ =>
    let (value, count, rest) := Literal.digitRun cs
    if count = 0 then none else some (value, count, rest)

/-- A fraction: its digits, their number, and what follows. -/
def fractionPart? : List Char → Option (Nat × Nat × List Char)
  | '.' :: rest =>
    let (value, count, rest) := Literal.digitRun rest
    if count = 0 then none else some (value, count, rest)
  | _ => none

/-- An exponent and what follows. -/
def exponentPart? : List Char → Option (Int × List Char)
  | c :: rest =>
    if c = 'e' ∨ c = 'E' then
      let (negative, digits) := Literal.sign rest
      let (value, count, rest) := Literal.digitRun digits
      if count = 0 then none else some (Binary64.signed negative value, rest)
    else none
  | [] => none

/-- An unsigned number and what follows. -/
def unsigned? (negative : Bool) (cs : List Char) : Option (Value × List Char) := do
  let (whole, count, rest) ← wholePart? cs
  match fractionPart? rest, exponentPart? rest with
  | some (part, places, rest), _ =>
    let digits := whole * Nat.pow 10 places + part
    match exponentPart? rest with
    | some (power, rest) =>
      return (.real (Binary64.ofDecimal negative digits (power - (places : Int))), rest)
    | none => return (.real (Binary64.ofDecimal negative digits (-(places : Int))), rest)
  | none, some (power, rest) => return (.real (Binary64.ofDecimal negative whole power), rest)
  | none, none =>
    guard (count ≤ Literal.integerDigits)
    return (.int (Binary64.signed negative whole), rest)

/-- What follows a word, if the text begins with it. -/
def afterWord? : (word : List Char) → List Char → Option (List Char)
  | [], cs => some cs
  | _ :: _, [] => none
  | w :: word, c :: cs => if w = c then afterWord? word cs else none

/-- The words that are values. -/
def words : List (String × Value) :=
  [("null", .null), ("true", .bool true), ("false", .bool false), ("NaN", .real .nan),
    ("Infinity", .real (.infinite false)), ("-Infinity", .real (.infinite true))]

/-- A word or a number at the beginning of a text. -/
def plain? (cs : List Char) : Option (Value × List Char) :=
  (words.findSome? fun (word, v) => (afterWord? word.toList cs).map (v, ·)).or
    (match cs with
    | '-' :: rest => unsigned? true rest
    | _ => unsigned? false cs)

/-- What was read, or the report that the text is not well formed. -/
def formed {α : Type} : Option α → Except Defect α
  | some a => .ok a
  | none => .error .form

mutual

/-- A value at the beginning of a text, and what follows it. Of lists and records, `room` more may
be nested. -/
def value : (fuel room : Nat) → List Char → Except Defect (Value × List Char)
  | 0, _, _ => .error .form
  | fuel + 1, room, cs =>
    match skipSpace cs with
    | '"' :: rest => formed ((textBody? fuel [] rest).map fun (s, rest) => (.text s, rest))
    | '[' :: rest =>
      match room with
      | 0 => .error (.depth true)
      | room + 1 =>
        match skipSpace rest with
        | ']' :: rest => .ok (.list [], rest)
        | rest => (items fuel room rest).map fun (vs, rest) => (.list vs, rest)
    | '\x7b' :: rest =>
      match room with
      | 0 => .error (.depth false)
      | room + 1 =>
        match skipSpace rest with
        | '\x7d' :: rest => .ok (.record [], rest)
        | rest => (fields fuel room [] rest).map fun (fs, rest) => (.record fs, rest)
    | rest => formed (plain? rest)

/-- The items of a list, up to its end. -/
def items : (fuel room : Nat) → List Char → Except Defect (List Value × List Char)
  | 0, _, _ => .error .form
  | fuel + 1, room, cs =>
    match value fuel room cs with
    | .error d => .error d
    | .ok (v, rest) =>
      match skipSpace rest with
      | ',' :: rest => (items fuel room rest).map fun (vs, rest) => (v :: vs, rest)
      | ']' :: rest => .ok ([v], rest)
      | _ => .error .form

/-- The fields of a record, added to those already read, up to its end. -/
def fields : (fuel room : Nat) → Fields → List Char → Except Defect (Fields × List Char)
  | 0, _, _, _ => .error .form
  | fuel + 1, room, done, cs =>
    match skipSpace cs with
    | '"' :: rest =>
      match textBody? fuel [] rest with
      | none => .error .form
      | some (name, rest) =>
        match skipSpace rest with
        | ':' :: rest =>
          match value fuel room rest with
          | .error d => .error d
          | .ok (v, rest) =>
            match skipSpace rest with
            | ',' :: rest => fields fuel room (Fields.insert name v done) rest
            | '\x7d' :: rest => .ok (Fields.insert name v done, rest)
            | _ => .error .form
        | _ => .error .form
    | _ => .error .form

end

/-- The value that a text holds, when `room` lists and records may be nested in it. -/
def readChars (room : Nat) (cs : List Char) : Except Defect Value :=
  match value (2 * cs.length + 2) room cs with
  | .error d => .error d
  | .ok (v, rest) => if (skipSpace rest).isEmpty then .ok v else .error .form

/-- The value that a text holds, nested as deeply as the text is long. -/
def read? (s : String) : Option Value := (readChars s.length s.toList).toOption

/-! ## Writing -/

/-- One character of a written text. -/
def writtenChar (c : Char) : List Char :=
  if c = '"' then ['\\', '"']
  else if c = '\\' then ['\\', '\\']
  else if c = '\n' then ['\\', 'n']
  else if c = '\r' then ['\\', 'r']
  else if c = '\t' then ['\\', 't']
  else
    match half? c with
    | some n => '\\' :: 'u' :: (hexText 4 n).toList
    | none => if c.toNat < 0x20 then '\\' :: 'u' :: (hexText 4 c.toNat).toList else [c]

/-- A text between its marks. -/
def writtenText (s : String) : String :=
  String.ofList ('"' :: (s.toList.flatMap writtenChar ++ ['"']))

/-- A number; those that JSON has no form for are written as words. -/
def writtenReal : Binary64 → String
  | .nan => "NaN"
  | .infinite negative => if negative then "-Infinity" else "Infinity"
  | x => x.text

mutual

/-- The JSON text of a value. -/
def write : Value → String
  | .null => "null"
  | .bool b => if b then "true" else "false"
  | .int n => toString n
  | .real x => writtenReal x
  | .text s => writtenText s
  | .list items => "[" ++ String.intercalate "," (writeItems items) ++ "]"
  | .record fields => "\x7b" ++ String.intercalate "," (writeFields fields) ++ "\x7d"
  | .date m => writtenText m.isoText
  | .oid id => writtenText (hexText 24 id.number)

/-- The items of a list, written. -/
def writeItems : List Value → List String
  | [] => []
  | v :: rest => write v :: writeItems rest

/-- The fields of a record, written. -/
def writeFields : List (String × Value) → List String
  | [] => []
  | (name, v) :: rest => (writtenText name ++ ":" ++ write v) :: writeFields rest

end

mutual

/-- Whether every integer in a value has few enough digits to be written. -/
def isWritable : Value → Bool
  | .int n => Literal.isWritable n
  | .list items => allWritable items
  | .record fields => fieldsWritable fields
  | _ => true

/-- Whether every integer in the items can be written. -/
def allWritable : List Value → Bool
  | [] => true
  | v :: rest => isWritable v && allWritable rest

/-- Whether every integer in the fields can be written. -/
def fieldsWritable : List (String × Value) → Bool
  | [] => true
  | (_, v) :: rest => isWritable v && fieldsWritable rest

end

mutual

/-- Whether every number in a value is finite, so that a reply can carry it. -/
def isFinite : Value → Bool
  | .real x => x.isFinite
  | .list items => allFinite items
  | .record fields => fieldsFinite fields
  | _ => true

/-- Whether every number in the items is finite. -/
def allFinite : List Value → Bool
  | [] => true
  | v :: rest => isFinite v && allFinite rest

/-- Whether every number in the fields is finite. -/
def fieldsFinite : List (String × Value) → Bool
  | [] => true
  | (_, v) :: rest => isFinite v && fieldsFinite rest

end

end Automation.Json
