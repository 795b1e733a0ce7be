import Automation.Mail.Fault
import Automation.Value.JsonBytes
import Automation.Value.Quoted

/-!
# Replies of the delivery service

A reply has a status, perhaps a content type, and bytes. The service is trusted with neither: the
bytes count as a JSON record only when the content type says JSON and they really are one.
`Reply.isAccepted` tells whether the message was accepted, `Content.messageId` finds its id and
`Reply.detail` the reason why it was not.
-/

set_option autoImplicit false

namespace Automation.Mail

open Automation.Text

/-- A reply of the delivery service. -/
structure Reply where
  status : Nat
  contentType : Option String
  body : List UInt8
  deriving DecidableEq, Repr

/-- What went wrong before any reply came. -/
structure TransportFault where
  isTimeout : Bool
  message : String
  deriving DecidableEq, Repr

/-- What a body turned out to be. -/
inductive Content where
  | record (fields : Fields)
  /-- A body of which no fields are expected, or that has none. -/
  | other
  /-- A body that was announced as JSON and is not. -/
  | malformed

namespace Reply

/-- Whether the reply is announced as JSON. -/
def isJson (r : Reply) : Bool :=
  "application/json".toList.isPrefixOf (r.contentType.getD "").toList

/-- How many lists and records may be nested in a body. -/
def room : Nat := 975

/-- The body of a reply as a record. -/
def content (r : Reply) : Except Fault Content :=
  if !r.isJson then .ok .other
  else
    match Json.readBytes room r.body with
    | .ok (.record fields) => .ok (.record fields)
    | .ok _ => .ok .other
    | .error .form => .ok .malformed
    | .error (.depth isList) => .error (.depth isList)

/-- The charset in which the body is written. One that nobody knows counts as UTF-8. -/
def charset (r : Reply) : Except Fault Charset := do
  match r.contentType with
  | none => return .utf8
  | some s =>
    let name ← (ContentType.charset? s).mapError Fault.parts
    return (name.bind Charset.ofName?).getD .utf8

/-- The body as text. An empty one has no charset. -/
def text (r : Reply) : Except Fault String := do
  if r.body.isEmpty then return ""
  else ((← r.charset).decode r.body).mapError Fault.charset

/-- Whether the status says that the message was accepted. -/
def isAccepted (r : Reply) : Bool := r.status < 400

end Reply

namespace Content

/-- The fields of a body, none when it is not a record. -/
def fields : Content → Fields
  | .record fields => fields
  | _ => []

/-- A field, unless it is absent or counts as nothing. -/
def given? (c : Content) (name : String) : Option Value :=
  (c.fields.get? name).filter fun v => !v.isFalsy

/-- The id of an accepted message, empty when the body has none. -/
def messageId (c : Content) : Value :=
  ((c.given? "messageId").or (c.given? "message_id")).getD (.text "")

end Content

/-- Why a message was not accepted: the detail of the body, or the whole body. -/
def Reply.detail (r : Reply) (c : Content) : Except Fault String :=
  match c.given? "detail" with
  | some v => .ok v.shown
  | none => r.text

end Automation.Mail
