import Automation.Flow.Defect
import Automation.Repository.Flows
import Automation.Script.Basic

/-!
# Importing the sample flow

A script that saves a small example of a flow, unless a flow of that name is saved already: a
message is sent, a condition asks whether the recipient is a test address, and both answers lead to
the end.
-/

set_option autoImplicit false

namespace Automation.Script

/-- The part of the service that speaks of the import. -/
def importSpeaker : String := "ImportSampleFlow"

/-- A node of the sample, drawn below the one before it. -/
def sampleNode (id : String) (y : Int) (payload : Payload) : Node :=
  ⟨id, some ⟨Binary64.ofInt 250, Binary64.ofInt y⟩, payload, []⟩

/-- An edge of the sample. -/
def sampleEdge (id source target : String) (label handle : Option String) : Edge :=
  ⟨id, source, target, label, handle, none, []⟩

/-- The sample flow. -/
def sampleFlow (now : Moment) : Flow :=
  { id := none
    name := "Sample Welcome Automation"
    nodes := [sampleNode "start-1" 0 (.start []),
      sampleNode "action-1" 120 (.action
        (some "Hi! Thanks for signing up, this is a test of the welcome automation.") []),
      sampleNode "condition-1" 240 (.condition
        [⟨"email", some "includes", some "@test", none, []⟩] []),
      sampleNode "end-1" 380 (.finish [])]
    edges := [sampleEdge "e-start-action" "start-1" "action-1" none none,
      sampleEdge "e-action-condition" "action-1" "condition-1" none none,
      sampleEdge "e-condition-end-true" "condition-1" "end-1" (some "TRUE") (some "true"),
      sampleEdge "e-condition-end-false" "condition-1" "end-1" (some "FALSE") (some "false")]
    createdAt := some now
    updatedAt := some now }

/-- Saves the sample flow and reports it. -/
def saveSample (flow : Flow) : Program Unit := do
  let saved ← Repository.createFlow flow
  let id := saved.id.getD ""
  Program.info importSpeaker ("Imported flow '" ++ saved.name ++ "' with ID: " ++ id)
  sayAll (reportLines "IMPORT SUMMARY"
    ["  Flow name: " ++ saved.name, "  Flow ID: " ++ id,
      "  Nodes: " ++ toString saved.nodes.length, "  Edges: " ++ toString saved.edges.length])

/-- Saves the sample flow, unless a flow of its name is saved already. -/
def importOnce : Program Unit := do
  let flow := sampleFlow (← Program.now)
  Program.reportAll flow.verdictEntries
  match ← Repository.getFlowByName flow.name none with
  | some existing => do
    let id := existing.id.getD ""
    Program.info importSpeaker ("Flow '" ++ flow.name ++ "' already exists with ID: " ++ id)
    Program.say ("\nFlow '" ++ flow.name ++ "' already exists (ID: " ++ id ++
      "), nothing to import.")
  | none => saveSample flow

/-- The import with its failures told to the journal, and the client closed at its end. -/
def importSample : Program (Option Int) :=
  asScript <| Program.ensuring (do
    match ← importOnce.attempt with
    | .ok () => pure ()
    | .error f => do
      Program.error importSpeaker ("Fatal error during import: " ++ f.message)
      .failed f) Repository.close

end Automation.Script
