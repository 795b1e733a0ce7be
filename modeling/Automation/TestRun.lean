import Automation.Store.Query
import Automation.Value.Reading

/-!
# Test runs

The record of one execution of a flow for one recipient. It is made as running and moves to
completed or failed, together with a summary of what the run used. `Changes` are the updates that a
run or a sweep makes to its record.
-/

set_option autoImplicit false

namespace Automation

/-- What a run used, and why it failed if it did. -/
structure Summary where
  steps : Int
  delayMs : Int
  failureReason : Option String
  deriving DecidableEq, Repr

namespace Summary

/-- The summary of a run that did nothing. -/
def zero : Summary := ⟨0, 0, none⟩

/-- A summary as a record. -/
def write (s : Summary) : Value :=
  .record [("total_steps_executed", .int s.steps), ("total_delay_time_ms", .int s.delayMs),
    ("failure_reason", .ofText? s.failureReason)]

open Reader in
/-- A summary; a missing total is zero. -/
def read : Reader Summary :=
  record "ExecutionSummary" fun fields =>
    Summary.mk <$> withDefault "total_steps_executed" 0 integer fields <*>
      withDefault "total_delay_time_ms" 0 integer fields <*>
      optionalField "failure_reason" text fields

end Summary

/-- The record of one execution of a flow. -/
structure TestRun where
  id : Option String
  flowId : String
  recipient : String
  status : String
  currentNode : Option String
  startedAt : Moment
  finishedAt : Option Moment
  error : Option String
  summary : Option Summary
  createdAt : Moment
  updatedAt : Moment
  deriving DecidableEq, Repr

namespace TestRun

/-- The status of a run that has not ended. -/
def running : String := "running"

/-- The status of a run that reached the end. -/
def completed : String := "completed"

/-- The status of a run that stopped before the end. -/
def failed : String := "failed"

/-- A run that begins now at a node. -/
def begin (flowId recipient node : String) (now : Moment) : TestRun :=
  ⟨none, flowId, recipient, running, some node, now, none, none, none, now, now⟩

/-- A run as the fields of a document. -/
def document (r : TestRun) : Fields :=
  [("flow_id", .text r.flowId), ("recipient", .text r.recipient), ("status", .text r.status),
    ("current_step_node_id", .ofText? r.currentNode), ("started_at", .date r.startedAt),
    ("finished_at", .ofDate? r.finishedAt), ("error", .ofText? r.error),
    ("summary", (r.summary.map Summary.write).getD .null), ("created_at", .date r.createdAt),
    ("updated_at", .date r.updatedAt)]

/-- A run as a record with its id. -/
def write (r : TestRun) : Value := .record (("id", .ofText? r.id) :: r.document)

/-- The name of the type in messages. -/
def typeName : String := "TestRunData"

open Reader in
/-- The fields of a run; one that does not say when it began began now. -/
def readFields (now : Moment) (fields : Fields) : Checked TestRun :=
  TestRun.mk <$>
    optionalField "id" text fields <*>
    required "flow_id" text fields <*>
    required "recipient" text fields <*>
    withDefault "status" running text fields <*>
    optionalField "current_step_node_id" text fields <*>
    withDefault "started_at" now moment fields <*>
    optionalField "finished_at" moment fields <*>
    optionalField "error" text fields <*>
    optionalField "summary" Summary.read fields <*>
    withDefault "created_at" now moment fields <*>
    withDefault "updated_at" now moment fields

/-- A run. -/
def read (now : Moment) : Reader TestRun := Reader.record typeName (readFields now)

/-- The change of a run that is about to visit a node. -/
def visiting (node : String) : Fields := [("current_step_node_id", .text node)]

/-- The change of a run that reached the end. -/
def completing (now : Moment) (lastNode : Option String) (summary : Summary) : Fields :=
  [("status", .text completed), ("finished_at", .date now),
    ("current_step_node_id", .ofText? lastNode), ("summary", summary.write)]

/-- The change of a run that stopped for a reason. -/
def failing (now : Moment) (reason : String) (summary : Summary) : Fields :=
  [("status", .text failed), ("finished_at", .date now), ("error", .text reason),
    ("summary", summary.write)]

end TestRun

end Automation
