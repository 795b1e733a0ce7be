import Automation.Text.Digit
import Automation.Value.Basic

/-!
# Written object ids

An object id is written as twenty-four hexadecimal digits. Either case of the digits is read, and
lower case is written, so two spellings name the same document when they differ in case alone.
-/

set_option autoImplicit false

namespace Automation.ObjectId

open Automation.Text

/-- The number of digits of an object id. -/
def width : Nat := 24

/-- The object id that a text spells. -/
def ofText? (s : String) : Option ObjectId :=
  if s.length = width then
    (s.toList.mapM hexDigit?).map fun ds => ⟨ds.foldl (fun n d => 16 * n + d) 0⟩
  else none

/-- The object id that a value is or spells. -/
def ofValue? : Value → Option ObjectId
  | .oid id => some id
  | .text s => ofText? s
  | _ => none

/-- The written form of an object id. -/
def text (id : ObjectId) : String := hexText width id.number

end Automation.ObjectId
