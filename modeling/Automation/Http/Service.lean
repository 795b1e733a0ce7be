import Automation.Http.Reply
import Automation.Http.Route
import Automation.Recipient
import Automation.RunDesk

/-!
# The service

The answer to each request. A body is first read, and one that does not read is refused before
anything is done; then the editor or the run desk does the work, and every failure is told to the
journal and answered with its status. A failure that is not of the service's own kinds has the
status 500.
-/

set_option autoImplicit false

namespace Automation.Http

/-- A request from outside. -/
structure Call where
  /-- The method in capital letters. -/
  method : String
  target : Url
  body : Option Value
  origin : Option String

/-- The request with a method to an address, as they are written. None can be made with an origin
that is not ASCII or with a body that JSON cannot express. -/
def Call.make (method target : String) (body : Option Value) (origin : Option String) :
    Except Failure Call := do
  let target ← (Target.ofText target).mapError .address
  if let some d := origin.bind Text.NotAscii.of? then throw (.header d)
  unless body.all Json.isFinite do throw (.unanswerable .notFinite)
  return ⟨Text.upper method, target, body, origin⟩

/-- What became of a request: a reply, or the reason why none could be written. -/
abbrev Outcome := Except ReplyDefect Reply

namespace Service

/-- The part of the service that speaks of requests as a whole. -/
def speaker : String := "AutomationFlowService"

/-- The part of the service that speaks of requests about flows. -/
def flowSpeaker : String := "FlowAPI"

/-- The part of the service that speaks of requests about test runs. -/
def runSpeaker : String := "TestRunAPI"

/-- The reply to a request that was refused, told to the journal. -/
def refuse (status : Nat) (detail : String) : Program Outcome := do
  Program.error speaker ("HTTPException: " ++ detail)
  pure (.ok (.refusal status detail))

/-- The reply to a failed request, told to the journal twice: by the part that did the work and as
the answer it becomes. -/
def answerFailure (part : String) (activity : Activity) (f : Failure) : Program Outcome := do
  Program.error part ("Error " ++ activity.words ++ ": " ++ f.message)
  refuse (f.status?.getD 500) f.message

/-- Does the work of a request, and answers with its result or its failure. -/
def perform {α : Type} (part : String) (activity : Activity) (work : Program α)
    (write : α → Except ReplyDefect Value) (status : Nat) : Program Outcome := do
  match ← work.attempt with
  | .ok a => pure ((write a).map (Reply.of status))
  | .error f => answerFailure part activity f

/-- The fields of a body, which has to be a record. -/
def bodyFields (body : Option Value) : Except Reply Fields :=
  match body with
  | none | some .null => .error (.unreadable "missing" "Field required" .null)
  | some (.record fields) => .ok fields
  | some v => .error (.unreadable "dict_type" "Input should be a valid dictionary" v)

/-- Goes on with the value that a body reads as. A body that does not read is refused with the first
issue, worded by `word`. -/
def withBody {α : Type} (body : Option Value) (read : Reader α) (word : Issue → String)
    (work : α → Program Outcome) : Program Outcome :=
  match bodyFields body with
  | .error reply => .done (.ok reply)
  | .ok fields =>
    match read (.record fields) with
    | .ok a => work a
    | .refused issues => refuse 400 ((issues.head?.map word).getD "")

/-- A result that can always be written. -/
def plainly {α : Type} (write : α → Value) (a : α) : Except ReplyDefect Value :=
  .ok (write a).forReply

/-- A flow in the list of flows. -/
def listItem (flow : Flow) : Value :=
  .record [("id", .ofText? flow.id), ("name", .text flow.name),
    ("created_at", .ofDate? flow.createdAt)]

/-- The verdict on a draft as a record. -/
def verdict (d : Option FlowDefect) : Value :=
  .record [("valid", .bool d.isNone), ("reason", .ofText? (d.map FlowDefect.message))]

/-- The answer to the start of a run. -/
def started (id : String) : Value :=
  .record [("testRunId", .text id), ("status", .text "started"),
    ("message", .text "Test run started successfully")]

/-- The answer to a request for one's health. -/
def healthy : Value :=
  .record [("status", .text "healthy"), ("service", .text "automation_flow_service")]

/-- The answer to a route. -/
def serve (body : Option Value) : Route → Program Outcome
  | .createFlow => withBody body Draft.read Issue.message fun draft =>
    perform flowSpeaker .creatingFlow (Editor.create draft) Flow.reply 201
  | .listFlows =>
    perform flowSpeaker .listingFlows Editor.list
      (plainly fun flows => .list (flows.map listItem)) 200
  | .validateFlow => withBody body Draft.read Issue.message fun draft =>
    perform flowSpeaker .validatingFlow (Editor.validate draft) (plainly verdict) 200
  | .flow id => perform flowSpeaker .readingFlow (Editor.detail id) Flow.reply 200
  | .updateFlow id => withBody body Revision.read Issue.message fun revision =>
    perform flowSpeaker .updatingFlow (Editor.update id revision) Flow.reply 200
  | .deleteFlow id =>
    perform flowSpeaker .deletingFlow (Editor.delete id)
      (plainly fun _ => .record [("message", .text "Automation deleted successfully")]) 200
  | .startRun id => withBody body Recipient.read (fun i => i.mismatch.message) fun recipient =>
    perform runSpeaker .startingRun (RunDesk.start id recipient) (plainly started) 200
  | .run id => perform runSpeaker .readingRun (RunDesk.detail id)
      (plainly TestRun.write) 200
  | .runsOfFlow id =>
    perform runSpeaker .listingRuns (RunDesk.ofFlow id)
      (plainly fun runs => .list (runs.map TestRun.write)) 200
  | .audit id =>
    perform runSpeaker .readingAudit (RunDesk.audit id)
      (plainly fun entries => .list (entries.map AuditEntry.write)) 200
  | .overview id =>
    perform runSpeaker .readingSummary (RunDesk.overview id)
      (plainly fun o => o.write.withDates Moment.isoText) 200
  | .health => .done (.ok (.of 200 healthy))
  | .page => .done (.ok (.of 200 (.text "")))

/-- The answer to a request, before it is sent. -/
def route (c : Call) : Program Outcome :=
  match direct c.method (Target.path c.target) with
  | .to route => serve c.body route
  | .otherMethod => .done (.ok (.detail 405 "Method Not Allowed"))
  | .elsewhere path => .done (.ok (.redirect (Target.elsewhere c.target path)))
  | .nowhere => .done (.ok (.detail 404 "Not Found"))

/-- The report that stands in for a reply that could not be written. -/
def replace (d : ReplyDefect) : Program Reply := do
  Program.error speaker ("Exception: " ++ d.message)
  pure (.internal d.message)

/-- A reply as it is sent: one to a request for the head alone has no body. -/
def trimmed (c : Call) (reply : Reply) : Reply :=
  if c.method = "HEAD" then { reply with body := .text "" } else reply

/-- The answer to a request. An allowed origin is named in the reply, unless the reply could not be
written and had to be replaced. -/
def handle (allowedOrigins : String) (c : Call) : Program Reply := do
  match ← route c with
  | .error d => return trimmed c (← replace d)
  | .ok reply =>
    if Json.isFinite reply.body then
      let allowedOrigin := c.origin.filter (allowsOrigin allowedOrigins)
      return trimmed c { reply with allowedOrigin }
    else return trimmed c (← replace .notFinite)

end Service

end Automation.Http
