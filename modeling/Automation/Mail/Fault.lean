import Automation.Failure.Kind
import Automation.Mail.ContentType
import Automation.Text.Ascii
import Automation.Url.Basic

/-!
# Faults of a delivery

A delivery can come to nothing although the delivery service neither refused it nor failed to
answer: the address of the service leads nowhere by itself, or the reply is one that nobody can
read.
-/

set_option autoImplicit false

namespace Automation.Mail

open Automation.Text

/-- Why a delivery came to nothing. -/
inductive Fault where
  /-- The address of the service says only a place. -/
  | relative (address : String)
  /-- The content type of a reply is not ASCII. -/
  | header (d : NotAscii)
  /-- The body of a reply is nested too deeply, in a list or in a record. -/
  | depth (inList : Bool)
  | parts (m : MixedParts)
  | charset (f : CharsetFault)
  deriving DecidableEq, Repr

namespace Fault

/-- The wording of a fault. -/
def message : Fault → String
  | .relative address => "unknown url type: " ++ quoted address
  | .header d => d.message
  | .depth inList =>
    "maximum recursion depth exceeded while decoding a JSON " ++
      (if inList then "array" else "object") ++ " from a unicode string"
  | .parts m => m.message
  | .charset f => f.message

/-- The kind of a fault. -/
def kind : Fault → FailureKind
  | .relative _ => .value
  | .header _ => .characters
  | .depth _ => .recursion
  | .parts _ | .charset .fromText => .arguments
  | .charset .notText => .assertion
  | .charset _ => .unicode

end Fault

end Automation.Mail
