import Automation.Program.Basic

/-!
# Notifiers

A notifier delivers the message of an action node, or fails to. `Mailer.send` posts the message to
the delivery service, one request for each message, and fails unless the service accepted it. What
the reply holds beside its status decides only which id or which reason is reported.
-/

set_option autoImplicit false

namespace Automation

/-- A notifier that posts to a delivery service. -/
structure Mailer where
  url : String
  source : String
  deriving DecidableEq, Repr

namespace Mailer

/-- The part of the service that speaks of mail. -/
def speaker : String := "EmailNotifierService"

/-- What every message about mail begins with. -/
def heading : String := "[SEND_EMAIL] "

/-- The address and the sender of the settings, unless another address is given. -/
def make (url : Option String) (defaultUrl source : String) : Mailer :=
  match url with
  | some url => ⟨if url.isEmpty then defaultUrl else url, source⟩
  | none => ⟨defaultUrl, source⟩

/-- A delivery that failed, told to the journal. -/
def refuse {α : Type} (remark : String) (f : DeliveryFault) : Program α := do
  Program.error speaker (heading ++ remark)
  .failed (.undelivered f)

/-- The outcome of a step at which a delivery may come to nothing. -/
def orFault {α : Type} (outcome : Except Mail.Fault α) : Program α :=
  Program.ofExcept (outcome.mapError .mail)

/-- The body of a reply. The journal is told about one that was announced as JSON and is not. -/
def contentOf (r : Mail.Reply) : Program Mail.Content := do
  let content ← orFault r.content
  if let .malformed := content then
    Program.warning speaker
      (heading ++ "Email service API returned malformed JSON (status " ++ toString r.status ++ ")")
  pure content

/-- The id of the message that a reply accepts. -/
def accept (address : String) (r : Mail.Reply) : Program Value := do
  let content ← contentOf r
  if r.isAccepted then
    Program.info speaker
      (heading ++ "Email sent to " ++ address ++ ", message id: " ++ content.messageId.shown)
    pure content.messageId
  else
    let detail ← orFault (r.detail content)
    refuse ("Email service API returned error: " ++ toString r.status ++ " - " ++ detail)
      (.refused detail)

/-- The fault by which a reply from an address comes to nothing before it is looked at. -/
def replyFault? (target : Url) (r : Mail.Reply) : Option Mail.Fault :=
  ((r.contentType.bind Text.NotAscii.of?).map .header).or
    (if target.isAbsolute then none else some (.relative target.text))

/-- Posts a message to an address. The result is the id that the delivery service gave it. -/
def post (m : Mailer) (target : Url) (address subject body : String) : Program Value :=
  .ask (.post ⟨target.text, ⟨m.source, address, subject, body⟩⟩) fun answer =>
    match answer with
    | .error ⟨true, _⟩ => refuse "Timeout calling email service API" .timeout
    | .error ⟨false, message⟩ =>
      refuse ("Error calling email service API: " ++ message) (.transport message)
    | .ok r =>
      match replyFault? target r with
      | some f => .failed (.mail f)
      | none => accept address r

/-- Sends a message. The result is the id that the delivery service gave it. -/
def send (m : Mailer) (address subject body : String) : Program Value := do
  Program.info speaker (heading ++ "Sending email to " ++ address ++ " via " ++ m.url)
  match (Url.parse m.url).bind Url.empty.merge with
  | .ok target => m.post target address subject body
  | .error d => .failed (.address d)

end Mailer

/-- Who delivers the messages of a run. -/
inductive Notifier where
  /-- Nobody: every delivery fails. -/
  | nobody
  | mailer (m : Mailer)
  deriving DecidableEq, Repr

/-- Delivers a message. -/
def Notifier.send (n : Notifier) (address subject body : String) : Program Value :=
  match n with
  | .nobody => .failed .noNotifier
  | .mailer m => m.send address subject body

end Automation
