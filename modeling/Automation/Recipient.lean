import Automation.Text.LetterCase
import Automation.Value.Reading

/-!
# Recipients

The request for a test run names one recipient. The name is trimmed and put into lower case, and
what results must look like an address: a name, the sign `@`, and a domain with a point inside,
none of them with white space or a further `@`.
-/

set_option autoImplicit false

namespace Automation

open Automation.Text

namespace Recipient

/-- The characters of the parts of an address. -/
def isPlain (c : Char) : Bool := !isBlank c && c != '@'

/-- Whether a text is at its end; a line feed may be left over. -/
def atEnd : List Char → Bool
  | [] => true
  | [c] => c == '\n'
  | _ => false

/-- Whether a text is one or more plain characters up to its end. -/
def isPlainToEnd : List Char → Bool
  | [] => false
  | c :: rest => isPlain c && (atEnd rest || isPlainToEnd rest)

/-- Whether a text is a domain: plain characters, a point, and plain characters up to its end, where
`begun` says that a character of the first part was passed already. -/
def isDomain : (begun : Bool) → List Char → Bool
  | _, [] => false
  | begun, c :: rest =>
    (begun && c == '.' && isPlainToEnd rest) || (isPlain c && isDomain true rest)

/-- Whether a text is an address, where `begun` says that a character of its name was passed
already. -/
def isAddress : (begun : Bool) → List Char → Bool
  | _, [] => false
  | begun, c :: rest =>
    (begun && c == '@' && isDomain false rest) || (isPlain c && isAddress true rest)

/-- The form in which a recipient is kept. -/
def normal (s : String) : String := lower (trim s)

/-- The recipient that a text names. -/
def check (given : Option String) : Except Mismatch String :=
  let address := normal (given.getD "")
  if address.isEmpty then .error .emailMissing
  else if isAddress false address.toList then .ok address
  else .error .emailFormat

open Reader in
/-- The recipient of a request. -/
def readField : Reader String := fun v =>
  match optional text v with
  | .refused issues => .refused issues
  | .ok given =>
    match check given with
    | .ok address => .ok address
    | .error m => .mismatch m v

open Reader in
/-- The request for a test run. A request without an address is judged as one with null. -/
def read : Reader String :=
  record "TestRunRequest" fun fields =>
    (readField ((fields.get? "email").getD .null)).inside (.name "email")

end Recipient

end Automation
