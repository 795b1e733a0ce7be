import Automation.Editor
import Automation.Runner

/-!
# Test runs of saved flows

Starting runs of saved flows, and looking at what is recorded of them.
-/

set_option autoImplicit false

namespace Automation.RunDesk

/-- The part of the service that speaks of starting runs. -/
def speaker : String := "TestRunService"

/-- Starts a run of a saved flow. The result is the id of the run. -/
def start (flowId recipient : String) : Program String :=
  Editor.foreseen speaker .startingRun do
    Runner.start (← Editor.existing flowId) recipient

/-- The run with an id, which has to exist. -/
def detail (id : String) : Program TestRun := do
  match ← Repository.getTestRun id with
  | some run => pure run
  | none => .failed .runMissing

/-- The runs of a flow, the newest first. -/
def ofFlow (flowId : String) : Program (List TestRun) := Repository.getTestRunsByFlow flowId

/-- The audit of a run. -/
def audit (runId : String) : Program (List AuditEntry) := Repository.getAuditEntries runId

/-- A run and the name of its flow, if the flow still exists. -/
structure Overview where
  run : TestRun
  flowName : Option String

/-- An overview as a record. -/
def Overview.write (o : Overview) : Value :=
  .record [("id", .ofText? o.run.id), ("flow_id", .text o.run.flowId),
    ("flow_name", .ofText? o.flowName), ("status", .text o.run.status),
    ("error", .ofText? o.run.error), ("started_at", .date o.run.startedAt),
    ("finished_at", .ofDate? o.run.finishedAt),
    ("summary", (o.run.summary.map Summary.write).getD .null)]

/-- The overview of a run. -/
def overview (runId : String) : Program Overview := do
  let run ← detail runId
  let flow ← Repository.getFlow run.flowId
  pure ⟨run, flow.map Flow.name⟩

end Automation.RunDesk
