import Automation.AuditEntry
import Automation.Repository.Client

/-!
# Saved audit entries

Audit entries in the store. An entry that cannot be written is a failure of its own kind, which the
audit itself takes care of.
-/

set_option autoImplicit false

namespace Automation.Repository

/-- The audit entry of a document. -/
def auditEntryOf (now : Moment) (d : Document) : Except StoreError AuditEntry :=
  readAs AuditEntry.typeName (AuditEntry.readFields now d.named)

/-- A new audit entry. -/
def createAuditEntry (entry : AuditEntry) : Program AuditEntry := do
  connect
  match ← Program.query (.insert .executionLogs entry.document) with
  | .ok id => pure { entry with id := some (newId id) }
  | .error e => .failed (.auditNotCreated e.message)

/-- The audit entry with an id after some of its fields were set. -/
def updateAuditEntry (id : Value) (changes : Fields) : Program (Option AuditEntry) :=
  match ObjectId.ofValue? id with
  | none => .failed (.auditId id.shown)
  | some oid => do
    connect
    match ← Program.query (.change .executionLogs oid changes) with
    | .ok none => pure none
    | .ok (some d) =>
      match auditEntryOf (← Program.now) d with
      | .ok entry => pure (some entry)
      | .error e => .failed (.auditNotUpdated id.shown e.message)
    | .error e => .failed (.auditNotUpdated id.shown e.message)

/-- The audit entries of a test run, by the time at which the visits began. -/
def getAuditEntries (runId : String) : Program (List AuditEntry) := do
  connect
  match ← Program.query
      (.find .executionLogs [.textIs "test_run_id" runId] (.oldestThenId "started_at")) with
  | .ok docs =>
    match readAll (auditEntryOf (← Program.now)) docs with
    | .ok entries => pure entries
    | .error e => fail "get_execution_logs_by_test_run" e
  | .error e => fail "get_execution_logs_by_test_run" e

end Automation.Repository
