import Automation.Failure.Basic
import Automation.Flow.Writing
import Automation.Value.Json

/-!
# Replies

The reply to a request: a status, a body, and perhaps another place to go to or an origin that may
read it. A failure is answered by its wording, given twice, and its status. JSON has no form for a
number that is not finite, so a reply that would carry one is replaced by the report of that.
-/

set_option autoImplicit false

namespace Automation.Http

/-- The reply to a request. -/
structure Reply where
  status : Nat
  body : Value
  location : Option String
  allowedOrigin : Option String
  deriving Repr

namespace Reply

/-- A reply with a body. -/
def of (status : Nat) (body : Value) : Reply := ⟨status, body, none, none⟩

/-- A reply with one line of detail. -/
def detail (status : Nat) (text : String) : Reply := of status (.record [("detail", .text text)])

/-- The reply to a request that was refused. -/
def refusal (status : Nat) (text : String) : Reply :=
  of status (.record [("detail", .text text), ("error", .text (toString status ++ ": " ++ text)),
    ("status_code", .int status)])

/-- The reply that sends a request elsewhere. -/
def redirect (address : String) : Reply := ⟨307, .text "", some address, none⟩

/-- Why a body is not even looked at. -/
def unreadable (type message : String) (input : Value) : Reply :=
  of 422 (.record [("detail", .list [.record [("type", .text type), ("loc", .list [.text "body"]),
    ("msg", .text message), ("input", input)]])])

/-- The reply to a request that ended in a way nobody foresaw. -/
def internal (message : String) : Reply :=
  of 500 (.record [("detail", .text "Internal server error"), ("error", .text message),
    ("status_code", .int 500)])

end Reply

/-- Whether a list of allowed origins, separated by commas, allows one. -/
def allowsOrigin (allowed origin : String) : Bool :=
  let origins := (allowed.splitOn ",").map Text.trim
  origins.contains "*" || origins.contains origin

end Automation.Http
