import Automation.Number.Word
import Automation.Text.Blank
import Automation.Value.Basic

/-!
# Stored values

What a document keeps of a value. Integers have 64 bits, names of fields hold no NUL, and dates are
in UTC and cut to the millisecond; everything else is kept as it is. `Value.stored?` gives the kept
value, or the first part, in the order of the fields, that cannot be kept.
-/

set_option autoImplicit false

namespace Automation

/-- Why a value cannot be kept in a document. -/
inductive StorageDefect where
  | integerSize
  | nulInName
  | dateRange
  deriving DecidableEq, Repr

/-- The wording of a defect. -/
def StorageDefect.message : StorageDefect → String
  | .integerSize => "MongoDB can only handle up to 8-byte ints"
  | .nulInName => "Invalid document: Key names must not contain the NULL byte"
  | .dateRange => "date value out of range"

namespace Value

/-- Whether a name holds a NUL character. -/
def hasNul (name : String) : Bool := name.toList.any fun c => c.toNat == 0

mutual

/-- The value as a document keeps it. -/
def stored? : Value → Except StorageDefect Value
  | null => .ok null
  | bool b => .ok (bool b)
  | int n => if fitsWord n then .ok (int n) else .error .integerSize
  | real x => .ok (real x)
  | text s => .ok (text s)
  | list items => (storedItems? items).map list
  | record fields => (storedFields? fields).map record
  | date m =>
    match m.stored? with
    | some m => .ok (date m)
    | none => .error .dateRange
  | oid id => .ok (oid id)

/-- The items of a list as a document keeps them. -/
def storedItems? : List Value → Except StorageDefect (List Value)
  | [] => .ok []
  | v :: rest =>
    match v.stored? with
    | .error e => .error e
    | .ok v => (storedItems? rest).map (v :: ·)

/-- The fields of a record as a document keeps them. -/
def storedFields? : List (String × Value) → Except StorageDefect (List (String × Value))
  | [] => .ok []
  | (name, v) :: rest =>
    if hasNul name then .error .nulInName
    else
      match v.stored? with
      | .error e => .error e
      | .ok v => (storedFields? rest).map ((name, v) :: ·)

end

end Value

end Automation
