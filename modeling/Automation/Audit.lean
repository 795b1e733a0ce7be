import Automation.Repository.Audit

/-!
# The audit of a run

Every visit of a node begins and ends an audit entry. The audit must never stop a run: an entry that
cannot be written is told to the journal and otherwise dropped, and the end of a visit without an
entry is not written at all.
-/

set_option autoImplicit false

namespace Automation.Audit

/-- The part of the service that speaks of the audit. -/
def speaker : String := "ExecutionLoggerService"

/-- A visit of a node. -/
structure Visit where
  runId : String
  flowId : String
  nodeId : String
  nodeType : String
  message : Option String
  deriving DecidableEq, Repr

/-- The entry of a visit that begins now. -/
def Visit.entry (v : Visit) (now : Moment) : AuditEntry :=
  ⟨none, v.runId, v.flowId, v.nodeId, v.nodeType, AuditEntry.started, v.message, now, none⟩

/-- An entry that could not be begun, told to the journal. -/
def drop (run node reason : String) : Program (Option String) := do
  Program.error speaker
    ("Execution logging error for node " ++ node ++ " of test run " ++ run ++ ": " ++ reason)
  pure none

/-- Writes a new entry. The result is its id, if it could be written. -/
def enter (entry : AuditEntry) : Program (Option String) := do
  match ← (Repository.createAuditEntry entry).attempt with
  | .ok entry => pure entry.id
  | .error f => drop entry.runId entry.nodeId f.message

/-- Begins the entry of a visit. -/
def begin (v : Visit) : Program (Option String) := do enter (v.entry (← Program.now))

/-- Begins the entry of a visit that is described by any values. A description that does not read as
an entry makes none. -/
def beginDescribed (run flow node type message : Value) : Program (Option String) := do
  let now ← Program.now
  let fields := AuditEntry.beginning now run flow node type message
  match Repository.readAs AuditEntry.typeName (AuditEntry.readFields now fields) with
  | .ok entry => enter entry
  | .error e => drop run.shown node.shown e.message

/-- Ends the entry with an id, of a visit whose end is described by any values. -/
def finishDescribed (id status message : Value) : Program Unit :=
  if id.isFalsy then .done ()
  else do
    let now ← Program.now
    match ← (Repository.updateAuditEntry id (AuditEntry.finishing now status message)).attempt with
    | .ok _ => pure ()
    | .error f =>
      Program.error speaker
        ("Execution logging error while finishing log " ++ id.shown ++ ": " ++ f.message)

/-- Ends the entry of a visit, if there is one. -/
def finish (id : Option String) (status : String) (message : Option String) : Program Unit :=
  finishDescribed (.ofText? id) (.text status) (.ofText? message)

end Automation.Audit
