import Automation.Flow.Defect
import Automation.Repository.Flows
import Automation.Text.Blank

/-!
# Editing flows

Making, changing, deleting and listing saved flows. Names are trimmed and unique, and a flow has at
least one node; beyond that a flow may be saved in any shape, since the shape is judged before a run
and not before saving. An unforeseen failure is reported as a failure of the activity in which it
happened.
-/

set_option autoImplicit false

namespace Automation.Editor

open Automation.Text

/-- The part of the service that speaks of flows. -/
def speaker : String := "FlowService"

/-- A program whose failures are all of the service's own kinds: any other is told to the journal
and becomes a failure of the activity. -/
def foreseen {α : Type} (speaker : String) (activity : Activity) (p : Program α) : Program α := do
  match ← p.attempt with
  | .ok a => pure a
  | .error f =>
    if f.isOfService then .failed f
    else do
      let failure := Failure.unforeseen activity f.message
      Program.error speaker failure.message
      .failed failure

/-- Fails if the name is taken by a flow other than the one with an id. -/
def requireFreeName (name : String) (own : Option String) : Program Unit := do
  match ← Repository.getFlowByName name own with
  | some _ => .failed .nameTaken
  | none => pure ()

/-- Makes a new flow. -/
def create (draft : Draft) : Program Flow :=
  foreseen speaker .creatingFlow do
    let name := trim (draft.name.getD "")
    if name.isEmpty then .failed .nameRequired
    else if draft.nodes.isEmpty then .failed .nodesRequired
    else
      requireFreeName name none
      let now ← Program.now
      let flow ← Repository.createFlow ⟨none, name, draft.nodes, draft.edges, some now, some now⟩
      Program.info speaker
        ("Flow '" ++ flow.name ++ "' created successfully with ID: " ++ flow.id.getD "")
      pure flow

/-- All flows, the newest first. -/
def list : Program (List Flow) := foreseen speaker .listingFlows Repository.getFlows

/-- The flow with an id, which has to exist. -/
def existing (id : String) : Program Flow := do
  match ← Repository.getFlow id with
  | some flow => pure flow
  | none => .failed .flowMissing

/-- The flow with an id. -/
def detail (id : String) : Program Flow := foreseen speaker .readingFlow (existing id)

/-- The changed name of a flow. -/
def nameChange (id : String) : Option String → Program Fields
  | none => .done []
  | some given =>
    let name := trim given
    if name.isEmpty then .failed .nameEmpty
    else do
      requireFreeName name (some id)
      pure [("name", .text name)]

/-- The changed nodes of a flow. -/
def nodesChange : Option (List Node) → Program Fields
  | none => .done []
  | some [] => .failed .nodesEmpty
  | some nodes => .done [("nodes", writeNodes nodes)]

/-- The changed edges of a flow. -/
def edgesChange (edges : Option (List Edge)) : Fields :=
  (edges.map fun es => ("edges", writeEdges es)).toList

/-- Changes a flow. What a revision does not provide stays, and one that provides nothing writes
nothing. -/
def update (id : String) (revision : Revision) : Program Flow :=
  foreseen speaker .updatingFlow do
    let flow ← existing id
    let name ← nameChange id revision.name
    let nodes ← nodesChange revision.nodes
    match name ++ nodes ++ edgesChange revision.edges with
    | [] => pure flow
    | changes =>
      match ← Repository.updateFlow id changes with
      | none => .failed .flowNotUpdated
      | some flow => do
        Program.info speaker
          ("Flow '" ++ flow.name ++ "' updated successfully with ID: " ++ id)
        pure flow

/-- Deletes a flow. -/
def delete (id : String) : Program Unit :=
  foreseen speaker .deletingFlow do
    let flow ← existing id
    if ← Repository.deleteFlow id then
      Program.info speaker ("Flow '" ++ flow.name ++ "' deleted with ID: " ++ id)
    else .failed .flowNotDeleted

/-- The unsaved flow of a draft. -/
def unsaved (draft : Draft) (now : Moment) : Flow :=
  ⟨none, draft.name.getD "", draft.nodes, draft.edges, some now, some now⟩

/-- The first defect of a draft. -/
def validate (draft : Draft) : Program (Option FlowDefect) := do
  let flow := unsaved draft (← Program.now)
  Program.reportAll flow.verdictEntries
  pure flow.defect?

end Automation.Editor
