import Automation.Value.Basic

/-!
# Messages

An email as the delivery service takes it: the same body as text and as HTML. In the HTML part the
characters that could be read as markup are written as references and every line feed as a break, so
the part shows exactly the text and nothing else.
-/

set_option autoImplicit false

namespace Automation.Mail

/-- One character of a text inside markup. -/
def escapedChar (c : Char) : List Char :=
  if c = '&' then "&amp;".toList
  else if c = '<' then "&lt;".toList
  else if c = '>' then "&gt;".toList
  else if c = '"' then "&quot;".toList
  else if c = '\'' then "&#x27;".toList
  else [c]

/-- A text inside markup. -/
def escaped (cs : List Char) : List Char := cs.flatMap escapedChar

/-- A text with every line feed as a break. -/
def withBreaks (cs : List Char) : List Char :=
  cs.flatMap fun c => if c = '\n' then "<br>".toList else [c]

/-- The HTML part of a body: one paragraph. -/
def paragraph (body : String) : String :=
  String.ofList ("<p>".toList ++ withBreaks (escaped body.toList) ++ "</p>".toList)

/-- A message to be sent. -/
structure Message where
  sender : String
  address : String
  subject : String
  body : String
  deriving DecidableEq, Repr

/-- What is posted to the delivery service for a message. -/
def Message.payload (m : Message) : Value :=
  .record [("from", .text m.sender), ("to", .text m.address), ("subject", .text m.subject),
    ("text", .text m.body), ("html", .text (paragraph m.body))]

/-- A request to the delivery service. -/
structure Post where
  url : String
  message : Message
  deriving DecidableEq, Repr

/-- The type of the content of a request. -/
def contentType : String := "application/json"

/-- The method of a request. -/
def method : String := "POST"

end Automation.Mail
