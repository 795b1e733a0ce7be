import Automation.Audit
import Automation.Condition
import Automation.Notifier
import Automation.Repository.TestRuns

/-!
# Running a flow

A run walks a flow for one recipient, one node at a time, from the start to the end. The guard is
asked before every visit and before every wait, so a run takes a bounded number of steps whatever
the shape of the flow is. Every visit is audited, and the record of the run always names the node at
which it stands. A failure inside a run ends that run and goes no further; a cancellation leaves the
record as it is.
-/

set_option autoImplicit false

namespace Automation

/-- What a run has apart from its flow and its recipient. -/
structure Runner where
  notifier : Notifier
  subject : String
  deriving DecidableEq, Repr

/-- A flow that is being run for a recipient, under the id of its record. -/
structure Assignment where
  flow : Flow
  recipient : String
  runId : String

/-- The result of a visit: what is told about it, what has been used so far, and the next node. -/
structure Step where
  message : String
  used : Usage
  next : Option Node

/-- How a walk ended: well at a node, or in a failure. -/
inductive Ending where
  | completed (used : Usage) (last : String)
  | failed (used : Usage) (f : Failure)

namespace Runner

/-- The part of the service that speaks of runs. -/
def speaker : String := "FlowRunnerService"

/-- What the audit is told when a visit begins. -/
def startMessage (n : Node) : String :=
  match n.payload with
  | .action .. => "Sending email"
  | .delay d => "Waiting " ++ d.waitingFor
  | p => "Executing " ++ p.type ++ " node"

/-- Goes on when the guard allows it, and fails otherwise. -/
def passGuard : Guard.Verdict → Program Unit
  | .allowed => .done ()
  | .rejected r => .failed (.rejected r)
  | .unstated => .failed .quotientSize

/-- Waits some milliseconds, stated as seconds in double precision. -/
def pause (ms : Int) : Program Unit :=
  match Binary64.ofIntRatio ms 1000 with
  | .infinite _ => .failed .quotientSize
  | _ =>
    .ask (.sleep ms) fun wake =>
      match wake with
      | .elapsed => .done ()
      | .cancelled => .cancelled

/-- Visits an action: the message is sent to the recipient. -/
def visitAction (r : Runner) (a : Assignment) (n : Node) (message : Option String)
    (used : Usage) : Program Step := do
  Program.info speaker
    ("Executing action node " ++ n.id ++ ", sending to " ++ a.recipient)
  let body := match message with
    | none | some "" => "No message provided"
    | some message => message
  let _ ← r.notifier.send a.recipient r.subject body
  pure ⟨"Email sent successfully to " ++ a.recipient, used, a.flow.next? n.id⟩

/-- Visits a delay: the run waits, if the guard allows it. -/
def visitDelay (a : Assignment) (n : Node) (d : Delay) (used : Usage) : Program Step := do
  let ms ← Program.ofExcept ((d.milliseconds (← Program.now)).mapError .delay)
  passGuard (Guard.check used ms)
  Program.info speaker ("Delay node " ++ n.id ++ " waiting " ++ toString ms ++ " ms")
  pause ms
  pure ⟨"Wait " ++ d.waitingFor ++ " completed", ⟨used.steps, used.delayMs + ms⟩,
    a.flow.next? n.id⟩

/-- The label of the edge for an outcome. -/
def branchLabel (outcome : Bool) : String := if outcome then "TRUE" else "FALSE"

/-- The first edge from a node whose label, in upper case, is the one for an outcome. -/
def branch? (flow : Flow) (id : String) (outcome : Bool) : Option Edge :=
  (flow.outgoing id).find? fun e =>
    Text.upper (Value.optionWord e.label) == branchLabel outcome

/-- The ids and labels of edges in a message. -/
def shownEdges (es : List Edge) : String :=
  "[" ++ String.intercalate ", " (es.map fun e =>
    "(" ++ Text.quoted e.id ++ ", " ++ Value.quotedOption e.label ++ ")") ++ "]"

/-- Visits a condition: the run takes the edge for its outcome. -/
def visitCondition (a : Assignment) (n : Node) (rules : List Rule) (used : Usage) :
    Program Step := do
  let (outcome, remarks) := Condition.evaluate true rules (some a.recipient)
  Program.reportAll remarks
  let label := branchLabel outcome
  match branch? a.flow n.id outcome with
  | none => do
    Program.error speaker
      ("Available edges from condition node " ++ n.id ++ ": " ++
        shownEdges (a.flow.outgoing n.id))
    .failed (.branchMissing label n.id)
  | some e =>
    match a.flow.node? e.target with
    | none => .failed (.targetMissing e.target label)
    | some next => pure ⟨"Condition evaluated to " ++ label, used, some next⟩

/-- Visits a node of a type that no run can execute: the run ends here. -/
def visitForeign (n : Node) (used : Usage) : Program Step := do
  Program.warning speaker
    ("Unknown node type: " ++ n.type ++ ", stopping at node " ++ n.id)
  pure ⟨"Node " ++ n.id ++ " completed", used, none⟩

/-- Visits a node. -/
def visit (r : Runner) (a : Assignment) (n : Node) (used : Usage) : Program Step :=
  match n.payload with
  | .start _ => pure ⟨"Automation started", used, a.flow.next? n.id⟩
  | .action message _ => r.visitAction a n message used
  | .delay d => visitDelay a n d used
  | .condition rules _ => visitCondition a n rules used
  | .finish _ => pure ⟨"Reached end node", used, none⟩
  | .foreign .. => visitForeign n used

/-- The visit of a node as the audit sees it. -/
def auditVisit (a : Assignment) (n : Node) : Audit.Visit :=
  ⟨a.runId, a.flow.id.getD "", n.id, n.type, some (startMessage n)⟩

/-- Visits a node and audits the visit: its entry is completed or failed when the visit ends. -/
def auditedVisit (r : Runner) (a : Assignment) (n : Node) (used : Usage) : Program Step := do
  let entry ← Audit.begin (auditVisit a n)
  match ← (r.visit a n used).attempt with
  | .ok step => do
    Audit.finish entry AuditEntry.completed (some step.message)
    pure step
  | .error f => do
    Audit.finish entry AuditEntry.failed (some f.reason)
    .failed f

/-- What the journal is told when a run is cancelled. -/
def cancelRemark (a : Assignment) (n : Node) : Program Unit :=
  Program.warning speaker ("Test run " ++ a.runId ++ " cancelled at node " ++ n.id)

/-- One step of a walk: the guard is asked, the record names the node, and the node is visited. -/
def advance (r : Runner) (a : Assignment) (n : Node) (used : Usage) : Program Step := do
  passGuard (Guard.check used 0)
  let _ ← Repository.updateTestRun a.runId (TestRun.visiting n.id)
  (r.auditedVisit a n used).onCancel (cancelRemark a n)

/-- The walk from a node, given how many further steps the guard can allow. -/
def walk (r : Runner) (a : Assignment) : (steps : Nat) → Node → Usage → Program Ending
  | 0, _, used => .done (.failed used (.rejected .steps))
  | steps + 1, n, used => do
    match ← (r.advance a n used).attempt with
    | .error f => pure (.failed used f)
    | .ok step =>
      let used := { step.used with steps := step.used.steps + 1 }
      if n.isEnd then pure (.completed used n.id)
      else
        match step.next with
        | none => pure (.completed used n.id)
        | some next => r.walk a steps next used

/-- A walk from the start of the flow. The guard rejects the step after the last one it allows, so
one more than that is enough. -/
def walkFromStart (r : Runner) (a : Assignment) : Program Ending :=
  match a.flow.start? with
  | none => .done (.failed .zero .startMissing)
  | some start => r.walk a (Guard.maxSteps.toNat + 1) start .zero

/-- Records that a run reached its end. -/
def complete (a : Assignment) (used : Usage) (last : String) : Program Summary := do
  let summary : Summary := ⟨used.steps, used.delayMs, none⟩
  let now ← Program.now
  let _ ← Repository.updateTestRun a.runId (TestRun.completing now (some last) summary)
  Program.info speaker
    ("Test run " ++ a.runId ++ " completed successfully after " ++ toString used.steps ++
      " step(s)")
  pure summary

/-- Records that a run failed. -/
def fail (a : Assignment) (used : Usage) (f : Failure) : Program Summary := do
  let summary : Summary := ⟨used.steps, used.delayMs, some f.reason⟩
  let now ← Program.now
  let _ ← Repository.updateTestRun a.runId (TestRun.failing now f.reason summary)
  Program.error speaker ("Test run " ++ a.runId ++ " failed: " ++ f.reason)
  pure summary

/-- Records how a walk ended. A run whose completion cannot be recorded fails. -/
def conclude (a : Assignment) : Ending → Program Summary
  | .failed used f => fail a used f
  | .completed used last => do
    match ← (complete a used last).attempt with
    | .ok summary => pure summary
    | .error f => fail a used f

/-- Runs a flow for a recipient. -/
def run (r : Runner) (a : Assignment) : Program Summary := do
  Program.info speaker
    ("Running flow '" ++ a.flow.name ++ "' for " ++ a.recipient ++ " (test run " ++ a.runId ++ ")")
  conclude a (← r.walkFromStart a)

/-- The subject of the messages of a run, unless another is given. -/
def defaultSubject : String := "Automation Test"

/-- Runs a flow at once and without judging it first, with a record of its own if one can be
made. -/
def rehearse (r : Runner) (flow : Flow) (recipient : String) : Program Summary := do
  let now ← Program.now
  let record : TestRun :=
    { TestRun.begin (flow.id.getD "") recipient "" now with currentNode := none }
  let saved ← Repository.createTestRun record
  r.run ⟨flow, recipient, (saved.bind TestRun.id).getD "none"⟩

/-- A flow that may be run: it has no defect, and it is saved. The result is its id and its
start. -/
def admission (flow : Flow) : Program (String × Node) := do
  Program.reportAll flow.verdictEntries
  match flow.defect?, flow.id, flow.start? with
  | some d, _, _ => .failed (.invalidFlow d)
  | none, none, _ | none, some "", _ => .failed .unsavedFlow
  | none, some _, none => .failed .startMissing
  | none, some id, some start => pure (id, start)

/-- Begins a run of a flow in the background, with a record of its own. The result is the id of the
record. The run keeps the flow as it is now, whatever becomes of it in the store. -/
def start (flow : Flow) (recipient : String) : Program String := do
  let (id, node) ← admission flow
  let now ← Program.now
  match ← Repository.createTestRun (TestRun.begin id recipient node.id now) with
  | none => .failed .runNotCreated
  | some run =>
    let runId := run.id.getD ""
    .ask (.launch flow recipient runId) fun () => do
      Program.info speaker
        ("Test run " ++ runId ++ " started for flow '" ++ flow.name ++ "' (" ++ id ++
          ") with recipient " ++ recipient)
      pure runId

end Runner

end Automation
