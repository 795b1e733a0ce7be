import Automation.Text.Blank
import Automation.Text.Charset.Basic
import Automation.Text.Digit
import Automation.Text.LetterCase

/-!
# Content types

A content type is a list of parameters with semicolons between them, of which the first is the type
itself. A semicolon inside quotation marks separates nothing. A long value may come in numbered
parts, and a part whose name ends in a star has percent escapes; the whole value then begins with
its own charset and language, with apostrophes between. `ContentType.charset?` is the text that
names the charset of what the content type announces.
-/

set_option autoImplicit false

namespace Automation.Mail

open Automation.Text

/-- A parameter: a name and a value as they are written. -/
structure Parameter where
  name : String
  value : String
  deriving DecidableEq, Repr

/-- A part of a value. One that is not numbered has no others beside it. -/
structure ValuePart where
  number : Option Nat
  value : String
  escaped : Bool
  deriving DecidableEq, Repr

/-- A value under its name. The charset of an extended value is that of its own bytes. -/
inductive NamedValue where
  | plain (name value : String)
  | extended (name charset value : String)
  deriving DecidableEq, Repr

/-- The numbered parts of a value stand among parts without numbers. -/
structure MixedParts where
  /-- Whether the part that does not fit the ones before it has a number. -/
  numberedLast : Bool
  deriving DecidableEq, Repr

/-- The wording of the defect. -/
def MixedParts.message (m : MixedParts) : String :=
  let (a, b) := if m.numberedLast then ("int", "NoneType") else ("NoneType", "int")
  "'<' not supported between instances of '" ++ a ++ "' and '" ++ b ++ "'"

namespace ContentType

/-! ## Parameters -/

/-- Whether an odd number of quotation marks without a backslash stands in a text. -/
def isOpen : List Char → Bool
  | '\\' :: '"' :: rest => isOpen rest
  | '"' :: rest => !isOpen rest
  | _ :: rest => isOpen rest
  | [] => false

/-- The pieces of a text between semicolons outside quotation marks, the first of which goes on from
`front`, its characters so far in reverse. -/
def pieces (front : List Char) : List Char → List (List Char)
  | [] => [front.reverse]
  | ';' :: rest =>
    if isOpen front.reverse then pieces (';' :: front) rest
    else front.reverse :: pieces [] rest
  | c :: rest => pieces (c :: front) rest

/-- The text before the first equals sign and the text after it. -/
def cutAtEquals (cs : List Char) : Option (String × String) :=
  let front := cs.takeWhile (· != '=')
  match cs.drop front.length with
  | [] => none
  | _ :: rest => some (String.ofList front, String.ofList rest)

/-- The parameter in a piece. One without an equals sign has an empty value. -/
def parameter (piece : List Char) : Parameter :=
  match cutAtEquals piece with
  | some (name, value) => ⟨lower (trim name), trim value⟩
  | none => ⟨trim (String.ofList piece), ""⟩

/-- The parameters of a content type. -/
def parameters (s : String) : List Parameter := (pieces [] s.toList).map parameter

/-! ## Values -/

/-- The characters with every pair of backslashes as one. -/
def singleBackslashes : List Char → List Char
  | '\\' :: '\\' :: rest => '\\' :: singleBackslashes rest
  | c :: rest => c :: singleBackslashes rest
  | [] => []

/-- The characters without the backslash before each quotation mark. -/
def plainQuotes : List Char → List Char
  | '\\' :: '"' :: rest => '"' :: plainQuotes rest
  | c :: rest => c :: plainQuotes rest
  | [] => []

/-- A value without the quotation marks or angle brackets around it. -/
def bare (value : String) : String :=
  match value.toList with
  | '"' :: rest =>
    if rest.getLast? = some '"' then
      String.ofList (plainQuotes (singleBackslashes rest.dropLast))
    else value
  | '<' :: rest => if rest.getLast? = some '>' then String.ofList rest.dropLast else value
  | _ => value

/-- A text with each percent escape read as the character of that number. -/
def unescaped : List Char → List Char
  | '%' :: a :: b :: rest =>
    match hexDigit? a, hexDigit? b with
    | some high, some low => Char.ofNat (16 * high + low) :: unescaped rest
    | _, _ => '%' :: unescaped (a :: b :: rest)
  | c :: rest => c :: unescaped rest
  | [] => []

/-- Letters, digits and the underscore. -/
def isWordChar (c : Char) : Bool := c.isAlphanum || c == '_'

/-- The number after the star in the name of a part, if the text is one. A star may follow it. -/
def partNumber? (cs : List Char) : Option Nat :=
  let digits := if cs.getLast? = some '*' then cs.dropLast else cs
  if digits.isEmpty then none
  else digits.foldlM (fun n c => (asciiDigit? c).map (10 * n + ·)) 0

/-- The name of the value that a name of a part belongs to, and the number of the part. -/
def partName? (name : String) : Option (String × Option Nat) :=
  let word := name.toList.takeWhile isWordChar
  match word, name.toList.drop word.length with
  | _ :: _, ['*'] => some (String.ofList word, none)
  | _ :: _, '*' :: rest => (partNumber? rest).map fun n => (String.ofList word, some n)
  | _, _ => none

/-- The order of parts: by number, then by value, then those without escapes. -/
def ValuePart.le (a b : ValuePart) : Bool :=
  let (m, n) := (a.number.getD 0, b.number.getD 0)
  m < n || (m == n && (a.value < b.value || (a.value == b.value && (!a.escaped || b.escaped))))

/-- The parts with a further part of the value of a name. -/
def addPart (name : String) (p : ValuePart) :
    List (String × List ValuePart) → List (String × List ValuePart)
  | [] => [(name, [p])]
  | (other, parts) :: rest =>
    if other = name then (other, parts ++ [p]) :: rest else (other, parts) :: addPart name p rest

/-- The value of parts in their order. Where any part has escapes, the value begins with its charset
and language unless the apostrophes after them are missing. -/
def join (name : String) (parts : List ValuePart) : Except MixedParts NamedValue := do
  match parts with
  | [] => pure ()
  | p :: rest =>
    if let some q := rest.find? fun q => q.number.isSome != p.number.isSome then
      throw ⟨q.number.isSome⟩
  let sorted := parts.mergeSort ValuePart.le
  let text := sorted.flatMap fun p =>
    if p.escaped then unescaped p.value.toList else p.value.toList
  if sorted.any ValuePart.escaped then
    match (String.ofList text).splitOn "'" with
    | charset :: _ :: value :: more =>
      return .extended name charset (String.intercalate "'" (value :: more))
    | _ => return .extended name "" (String.ofList text)
  else return .plain name (String.ofList text)

/-- The values of parameters after the first: those in one piece, then those that came in parts. -/
def values (ps : List Parameter) : Except MixedParts (List NamedValue) := do
  let whole := ps.filter fun p => (partName? p.name).isNone
  let groups := ps.foldl (fun groups p =>
    match partName? p.name with
    | some (name, number) =>
      addPart name ⟨number, bare p.value, p.name.endsWith "*"⟩ groups
    | none => groups) []
  let joined ← groups.mapM fun (name, parts) => join name parts
  return (whole.map fun p => .plain p.name (bare p.value)) ++ joined

/-! ## The charset -/

/-- The bytes of a text in which a character beyond U+00FF is written as an escape. -/
def escapedBytes (s : String) : List UInt8 :=
  s.toList.flatMap fun c =>
    if c.toNat < 0x100 then [UInt8.ofNat c.toNat]
    else if c.toNat < 0x10000 then utf8Bytes ("\\u" ++ hexText 4 c.toNat)
    else utf8Bytes ("\\U" ++ hexText 8 c.toNat)

/-- The text of a value, if it names the charset of what is announced. A value that is ill-formed in
its own charset is taken as it stands. -/
def NamedValue.charsetName? : NamedValue → Option String
  | .plain name value => if lower name = "charset" then some value else none
  | .extended name charset value =>
    if lower name = "charset" then
      let own := Charset.ofName? (if charset.isEmpty then "us-ascii" else charset)
      some ((own.bind fun c => c.decodeAll? (escapedBytes value)).getD value)
    else none

/-- The name of the charset that a content type announces. A name outside ASCII is none. -/
def charset? (s : String) : Except MixedParts (Option String) := do
  match parameters s with
  | [] => return none
  | first :: rest =>
    let all := .plain first.name (bare first.value) :: (← values rest)
    let name := all.findSome? NamedValue.charsetName?
    return (name.filter fun n => n.toList.all fun c => c.toNat < 0x80).map lower

end ContentType

end Automation.Mail
