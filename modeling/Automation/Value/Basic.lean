import Automation.Number.Binary64
import Automation.Time.Moment

/-!
# Dynamic values

A `Value` is what an editor sends, what a document keeps and what a reply carries: JSON data, and
beside it the dates and object ids that only documents hold. A record is a list of named fields
in the order in which the names first appeared, and `Fields.insert` keeps every name single.
-/

set_option autoImplicit false

namespace Automation

/-- The name of a stored document: twenty-four hexadecimal digits, kept as a number. -/
structure ObjectId where
  number : Nat
  deriving DecidableEq, Repr, Inhabited

/-- JSON data together with dates and object ids. -/
inductive Value where
  | null
  | bool (b : Bool)
  | int (n : Int)
  | real (x : Binary64)
  | text (s : String)
  | list (items : List Value)
  | record (fields : List (String × Value))
  | date (m : Moment)
  | oid (id : ObjectId)
  deriving Repr, Inhabited

/-- Named fields of a record. -/
abbrev Fields := List (String × Value)

namespace Fields

/-- The value of a field. -/
def get? (fields : Fields) (name : String) : Option Value :=
  (fields.find? fun field => field.1 == name).map Prod.snd

/-- The record with a field set: in its place if the name is there, at the end if it is new. -/
def insert (name : String) (value : Value) : Fields → Fields
  | [] => [(name, value)]
  | field :: rest =>
    if field.1 = name then (name, value) :: rest else field :: insert name value rest

/-- The record with every given field set, one after the other. -/
def merge (fields changes : Fields) : Fields :=
  changes.foldl (fun acc change => insert change.1 change.2 acc) fields

/-- The fields whose names are not among the given ones. -/
def without (names : List String) (fields : Fields) : Fields :=
  fields.filter fun field => !names.contains field.1

end Fields

namespace Value

/-- A text, or null when there is none. -/
def ofText? (s : Option String) : Value := (s.map text).getD null

/-- A date, or null when there is none. -/
def ofDate? (m : Option Moment) : Value := (m.map date).getD null

/-- Whether a value counts as absent: null, false, zero, and the empty text, list and record. -/
def isFalsy : Value → Bool
  | null => true
  | bool b => !b
  | int n => n == 0
  | real x => x.isZero
  | text s => s.isEmpty
  | list items => items.isEmpty
  | record fields => fields.isEmpty
  | date _ => false
  | oid _ => false

end Value

end Automation
