import Automation.Number.Shortest
import Automation.Text.Quoted
import Automation.Value.ObjectId

/-!
# Values inside messages

How a value is shown where a message mentions it. A text stands as it is; within a list or a record,
texts and names are quoted. The words for the constants are `None`, `True` and `False`. `excerpt` is
the form of a value that stands in a report of what was wrong with it: quoted, and without its
middle when it is long.
-/

set_option autoImplicit false

namespace Automation

open Automation.Text

namespace Value

/-- The word for a truth value. -/
def boolWord (b : Bool) : String := if b then "True" else "False"

/-- The word for an absent text, and the text itself otherwise. -/
def optionWord (s : Option String) : String := s.getD "None"

/-- The parts of a moment from its year on: the seconds are left out when nothing but zeros would
follow the minutes. -/
def dateParts (m : Moment) : List Int :=
  let d := m.date
  let t : Int := m.timeOfDay
  let second := t / 1000000 % 60
  let micros := t % 1000000
  [d.year, d.month, d.day, t / 3600000000, t / 60000000 % 60] ++
    (if second = 0 ∧ micros = 0 then [] else if micros = 0 then [second] else [second, micros])

/-- A moment inside a list or a record, which is one in UTC. -/
def dateQuoted (m : Moment) : String :=
  "datetime.datetime(" ++ String.intercalate ", " ((dateParts m).map fun n : Int => toString n) ++
    ", tzinfo=FixedOffset(datetime.timedelta(0), 'UTC'))"

mutual

/-- A value with its texts quoted. -/
def quoted : Value → String
  | null => "None"
  | bool b => boolWord b
  | int n => toString n
  | real x => x.text
  | text s => Text.quoted s
  | list items => "[" ++ String.intercalate ", " (quotedItems items) ++ "]"
  | record fields => "\x7b" ++ String.intercalate ", " (quotedFields fields) ++ "\x7d"
  | date m => dateQuoted m
  | oid id => "ObjectId(" ++ Text.quoted id.text ++ ")"

/-- The items of a list, quoted. -/
def quotedItems : List Value → List String
  | [] => []
  | v :: rest => v.quoted :: quotedItems rest

/-- The fields of a record, quoted. -/
def quotedFields : List (String × Value) → List String
  | [] => []
  | (name, v) :: rest => (Text.quoted name ++ ": " ++ v.quoted) :: quotedFields rest

end

/-- A value as a message shows it. -/
def shown : Value → String
  | text s => s
  | date m => m.isoText
  | oid id => id.text
  | v => v.quoted

/-- The name of the kind of a value. -/
def kindName : Value → String
  | null => "NoneType"
  | bool _ => "bool"
  | int _ => "int"
  | real _ => "float"
  | text _ => "str"
  | list _ => "list"
  | record _ => "dict"
  | date _ => "datetime"
  | oid _ => "ObjectId"

/-- The longest beginning of a text that takes no more than `room` bytes. -/
def within : (room : Nat) → List Char → List Char
  | _, [] => []
  | room, c :: rest => if c.utf8Size ≤ room then c :: within (room - c.utf8Size) rest else []

/-- A text, or its beginning and its end when it takes more than fifty bytes. -/
def shortened (s : String) : String :=
  if s.utf8ByteSize ≤ 50 then s
  else
    String.ofList (within 25 s.toList) ++ "..." ++
      String.ofList (within 24 s.toList.reverse).reverse

/-- A value as a report of what was wrong with it shows it. -/
def excerpt (v : Value) : String := shortened v.quoted

/-- Quoted, and the word for absence when there is no text. -/
def quotedOption (s : Option String) : String := (s.map Text.quoted).getD "None"

end Value

end Automation
