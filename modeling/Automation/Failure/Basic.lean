import Automation.Failure.Report
import Automation.Flow.Defect
import Automation.Guard
import Automation.Mail.Fault
import Automation.Value.Reply
import Automation.Value.Stored

/-!
# Failures

Everything that can go wrong, by its cause. `Failure.message` is the one place that words a failure,
and `Failure.kind` says to which kind it belongs. The reason that a run keeps is the message, or
the name of the kind when there is no message.
-/

set_option autoImplicit false

namespace Automation

/-- A failure of the store itself. -/
structure StoreFault where
  kind : StoreFaultKind
  message : String
  deriving DecidableEq, Repr

/-- Why an operation on documents failed. -/
inductive StoreError where
  | fault (f : StoreFault)
  /-- A value that no document can keep. -/
  | unstorable (d : StorageDefect)
  /-- A document that does not read as what it should be. -/
  | malformed (type : String) (issues : List Issue)
  deriving Repr

namespace StoreError

/-- The wording of an error. -/
def message : StoreError → String
  | .fault f => f.message
  | .unstorable d => d.message
  | .malformed type issues =>
    toString issues.length ++ " validation error" ++ (if issues.length = 1 then "" else "s") ++
      " for " ++ type ++
      String.join (issues.map fun i => "\n" ++ i.report)

/-- Whether the store could not be reached. -/
def isConnection : StoreError → Bool
  | .fault f => f.kind.isConnection
  | _ => false

end StoreError

/-- Why a message could not be delivered. -/
inductive DeliveryFault where
  | timeout
  | transport (message : String)
  | refused (detail : String)
  deriving DecidableEq, Repr

/-- The wording of a fault. -/
def DeliveryFault.message : DeliveryFault → String
  | .timeout => "Failed to send email: timeout calling email service API"
  | .transport message => "Failed to send email: " ++ message
  | .refused detail => "Failed to send email: " ++ detail

/-- Why a span of time or the moment at its end cannot be stated. -/
inductive SpanDefect where
  /-- The number of days does not fit into 32 bits. -/
  | daysSize
  | daysRange (days : Int)
  | dateRange
  deriving DecidableEq, Repr

/-- The wording of a defect. -/
def SpanDefect.message : SpanDefect → String
  | .daysSize => "Python int too large to convert to C int"
  | .daysRange days => "days=" ++ toString days ++ "; must have magnitude <= 999999999"
  | .dateRange => "date value out of range"

/-- What the editor or a caller was doing when something unforeseen happened. -/
inductive Activity where
  | creatingFlow
  | listingFlows
  | readingFlow
  | updatingFlow
  | deletingFlow
  | validatingFlow
  | startingRun
  | readingRun
  | listingRuns
  | readingAudit
  | readingSummary
  deriving DecidableEq, Repr

/-- The words for an activity. -/
def Activity.words : Activity → String
  | .creatingFlow => "creating flow"
  | .listingFlows => "getting flows list"
  | .readingFlow => "getting flow detail"
  | .updatingFlow => "updating flow"
  | .deletingFlow => "deleting flow"
  | .validatingFlow => "validating flow"
  | .startingRun => "starting test run"
  | .readingRun => "getting test run"
  | .listingRuns => "getting test runs"
  | .readingAudit => "getting execution logs"
  | .readingSummary => "getting execution summary"

/-- What can go wrong, by its cause. -/
inductive Failure where
  | nameRequired
  | nodesRequired
  | nameEmpty
  | nodesEmpty
  | nameTaken
  | flowMissing
  | runMissing
  | invalidFlow (d : FlowDefect)
  | unsavedFlow
  | runNotCreated
  | flowNotCreated
  | flowNotUpdated
  | flowNotDeleted
  | unforeseen (activity : Activity) (message : String)
  | startMissing
  | branchMissing (branch : String) (node : String)
  | targetMissing (target : String) (branch : String)
  | delay (f : DelayFault)
  | undelivered (f : DeliveryFault)
  /-- A delivery that was neither refused nor failed by transport. -/
  | mail (f : Mail.Fault)
  /-- A text that should be an address is none. -/
  | address (d : UrlDefect)
  /-- A part of the head of a request is not ASCII. -/
  | header (d : Text.NotAscii)
  | rejected (r : Guard.Rejection)
  /-- A quotient that no number in double precision can express. -/
  | quotientSize
  | noNotifier
  | database (e : StoreError)
  /-- The store failed outside of any operation on documents. -/
  | store (f : StoreFault)
  | auditNotCreated (message : String)
  | auditId (id : String)
  | auditNotUpdated (id : String) (message : String)
  | invalidInput (issues : List Issue)
  | span (d : SpanDefect)
  | settingNotInteger (text : String) (d : Literal.IntegerDefect)
  /-- An integer has too many digits to be written. -/
  | integerSize
  | settingUnknown (name : String)
  | noEventLoop
  /-- Parts that do not make a report of a failure. -/
  | report (d : ReportDefect)
  /-- A value that no message can carry. -/
  | unanswerable (d : ReplyDefect)
  deriving Repr

namespace Failure

/-- The words for the limit on written integers. -/
def integerLimit : String :=
  "Exceeds the limit (" ++ toString Literal.integerDigits ++
    " digits) for integer string conversion"

/-- The advice about the limit on written integers. -/
def integerLimitAdvice : String := "; use sys.set_int_max_str_digits() to increase the limit"

/-- The wording of a failure. -/
def message : Failure → String
  | .nameRequired => "Automation name is required"
  | .nodesRequired => "Nodes are required and must be a non-empty array"
  | .nameEmpty => "Automation name cannot be empty"
  | .nodesEmpty => "Nodes must be a non-empty array"
  | .nameTaken => "An automation with this name already exists"
  | .flowMissing => "Automation not found"
  | .runMissing => "Test run not found"
  | .invalidFlow d => "Validation Error: " ++ d.message
  | .unsavedFlow => "Flow must be saved before it can be tested"
  | .runNotCreated => "Failed to create test run"
  | .flowNotCreated => "Failed to create flow"
  | .flowNotUpdated => "Failed to update flow"
  | .flowNotDeleted => "Failed to delete flow"
  | .unforeseen activity message => "Error " ++ activity.words ++ ": " ++ message
  | .startMissing => "Start node not found"
  | .branchMissing branch node => branch ++ " edge is missing for condition node " ++ node
  | .targetMissing target branch => "Target node " ++ target ++ " not found for branch " ++ branch
  | .delay f => f.message
  | .undelivered f => f.message
  | .mail f => f.message
  | .address d => d.message
  | .header d => d.message
  | .rejected r => r.message
  | .quotientSize => "integer division result too large for a float"
  | .noNotifier => ""
  | .database e =>
    (if e.isConnection then "Database connection error: " else "Database error: ") ++ e.message
  | .store f => f.message
  | .auditNotCreated message => "Error creating execution log: " ++ message
  | .auditId id => "Invalid execution log id: " ++ id
  | .auditNotUpdated id message => "Error updating execution log " ++ id ++ ": " ++ message
  | .invalidInput issues => (issues.head?.map Issue.message).getD ""
  | .span d => d.message
  | .settingNotInteger text .form =>
    "invalid literal for int() with base 10: " ++ String.ofList ((Text.quoted text).toList.take 200)
  | .settingNotInteger _ (.size digits) =>
    integerLimit ++ ": value has " ++ toString digits ++ " digits" ++ integerLimitAdvice
  | .integerSize => integerLimit ++ integerLimitAdvice
  | .settingUnknown name => "Environment variable " ++ name ++ " not found"
  | .noEventLoop =>
    "No event loop available. Database methods must be called from an async context."
  | .report d => d.message
  | .unanswerable d => d.message

/-- The kind of a failure. -/
def kind : Failure → FailureKind
  | .nameRequired | .nodesRequired | .nameEmpty | .nodesEmpty | .invalidFlow _ => .validation
  | .nameTaken => .conflict
  | .flowMissing => .flowNotFound
  | .runMissing => .runNotFound
  | .unsavedFlow | .runNotCreated | .flowNotCreated | .flowNotUpdated | .flowNotDeleted
  | .unforeseen .. => .service
  | .startMissing | .branchMissing .. | .targetMissing .. => .nodeExecution
  | .delay (.unknownUnit _) => .unknownUnit
  | .delay (.unitKind _) => .arguments
  | .delay .pastTarget => .pastTarget
  | .delay _ => .nodeExecution
  | .undelivered _ => .delivery
  | .mail f => f.kind
  | .address _ => .address
  | .header _ => .characters
  | .rejected _ => .guardRejection
  | .quotientSize | .span _ => .overflow
  | .noNotifier => .notImplemented
  | .database _ => .database
  | .store f => .store f.kind
  | .auditNotCreated _ | .auditId _ | .auditNotUpdated .. => .auditing
  | .invalidInput _ => .invalidInput
  | .settingNotInteger .. | .settingUnknown _ | .integerSize => .value
  | .noEventLoop => .runtime
  | .report _ => .arguments
  | .unanswerable .objectId => .encoding
  | .unanswerable _ => .value

/-- The status of the answer to a request that ends in a failure of the service. A store that cannot
be reached makes the service unavailable. -/
def status? (f : Failure) : Option Nat :=
  match f with
  | .database e => some (if e.isConnection then 503 else 500)
  | _ => f.kind.status?

/-- Whether a failure is one of the service's own kinds. -/
def isOfService (f : Failure) : Bool := f.status?.isSome

/-- The reason that a run keeps: the message, or the name of the kind. -/
def reason (f : Failure) : String :=
  if f.message.isEmpty then f.kind.name else f.message

end Failure

end Automation
