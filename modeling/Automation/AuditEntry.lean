import Automation.Store.Query
import Automation.Value.Reading

/-!
# Audit entries

The record of one visit of a node in a test run. It is made as started when the visit begins and
changed in place when the visit ends.
-/

set_option autoImplicit false

namespace Automation

/-- The record of one visit of a node. -/
structure AuditEntry where
  id : Option String
  runId : String
  flowId : String
  nodeId : String
  nodeType : String
  status : String
  message : Option String
  startedAt : Moment
  finishedAt : Option Moment
  deriving DecidableEq, Repr

namespace AuditEntry

/-- The status of a visit that has not ended. -/
def started : String := "started"

/-- The status of a visit that ended well. -/
def completed : String := "completed"

/-- The status of a visit that ended in a failure. -/
def failed : String := "failed"

/-- An entry as the fields of a document. -/
def document (e : AuditEntry) : Fields :=
  [("test_run_id", .text e.runId), ("flow_id", .text e.flowId), ("node_id", .text e.nodeId),
    ("node_type", .text e.nodeType), ("status", .text e.status), ("message", .ofText? e.message),
    ("started_at", .date e.startedAt), ("finished_at", .ofDate? e.finishedAt)]

/-- An entry as a record with its id. -/
def write (e : AuditEntry) : Value := .record (("id", .ofText? e.id) :: e.document)

/-- The name of the type in messages. -/
def typeName : String := "ExecutionLogData"

open Reader in
/-- The fields of an entry; one that does not say when it began began now. -/
def readFields (now : Moment) (fields : Fields) : Checked AuditEntry :=
  AuditEntry.mk <$>
    optionalField "id" text fields <*>
    required "test_run_id" text fields <*>
    required "flow_id" text fields <*>
    required "node_id" text fields <*>
    required "node_type" text fields <*>
    withDefault "status" started text fields <*>
    optionalField "message" text fields <*>
    withDefault "started_at" now moment fields <*>
    optionalField "finished_at" moment fields

/-- An entry. -/
def read (now : Moment) : Reader AuditEntry := Reader.record typeName (readFields now)

/-- The fields of a visit that begins now. -/
def beginning (now : Moment) (run flow node type message : Value) : Fields :=
  [("test_run_id", run), ("flow_id", flow), ("node_id", node), ("node_type", type),
    ("status", .text started), ("message", message), ("started_at", .date now)]

/-- The change of a visit that ended. -/
def finishing (now : Moment) (status message : Value) : Fields :=
  [("status", status), ("message", message), ("finished_at", .date now)]

end AuditEntry

end Automation
