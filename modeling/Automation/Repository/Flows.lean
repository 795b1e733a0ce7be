import Automation.Flow.Reading
import Automation.Flow.Writing
import Automation.Repository.Client

/-!
# Saved flows

Flows in the store. A flow that was just made is answered as it was given, with its new id; a flow
that is read has the dates that its document keeps. An id that is no object id names no flow, and
the store is not asked about it.
-/

set_option autoImplicit false

namespace Automation.Repository

/-- The flow of a document. -/
def flowOf (now : Moment) (d : Document) : Except StoreError Flow :=
  readAs "FlowData" (Flow.readFields now d.named)

/-- The flow of a document that may be missing. -/
def flowOf? (operation : String) : Option Document → Program (Option Flow)
  | none => .done none
  | some d => do
    match flowOf (← Program.now) d with
    | .ok flow => pure (some flow)
    | .error e => fail operation e

/-- A new flow. -/
def createFlow (flow : Flow) : Program Flow := do
  connect
  match ← Program.query (.insert .flows flow.document) with
  | .ok id => pure { flow with id := some (newId id) }
  | .error e => fail "create_flow" e

/-- The flow with an id. -/
def getFlow (id : String) : Program (Option Flow) :=
  match ObjectId.ofText? id with
  | none => .done none
  | some id => do
    connect
    match ← Program.query (.findOne .flows [.idIs id]) with
    | .ok d => flowOf? "get_flow" d
    | .error e => fail "get_flow" e

/-- The search for a flow by its name, passing over the flow with an id. -/
def nameFilter (name : String) (skipped : Option String) : List Clause :=
  .textIs "name" name :: ((skipped.bind ObjectId.ofText?).map .idIsNot).toList

/-- The flow with a name, passing over the flow with an id. -/
def getFlowByName (name : String) (skipped : Option String) : Program (Option Flow) := do
  connect
  match ← Program.query (.findOne .flows (nameFilter name skipped)) with
  | .ok d => flowOf? "get_flow_by_name" d
  | .error e => fail "get_flow_by_name" e

/-- All flows, the newest first. -/
def getFlows : Program (List Flow) := do
  connect
  match ← Program.query (.find .flows [] (.newestFirst "created_at")) with
  | .ok docs =>
    match readAll (flowOf (← Program.now)) docs with
    | .ok flows => pure flows
    | .error e => fail "get_flows" e
  | .error e => fail "get_flows" e

/-- The flow with an id after some of its fields were set. It was changed now. -/
def updateFlow (id : String) (changes : Fields) : Program (Option Flow) :=
  match ObjectId.ofText? id with
  | none => .done none
  | some id => do
    connect
    let now ← Program.now
    match ← Program.query (.change .flows id (changes.insert "updated_at" (.date now))) with
    | .ok d => flowOf? "update_flow" d
    | .error e => fail "update_flow" e

/-- Deletes the flow with an id, and tells whether there was one and it could be deleted. -/
def deleteFlow (id : String) : Program Bool :=
  match ObjectId.ofText? id with
  | none => .done false
  | some id => do
    connect
    match ← Program.query (.delete .flows id) with
    | .ok deleted => pure deleted
    | .error e => do
      Program.error speaker ("Error deleting flow: " ++ e.message)
      pure false

end Automation.Repository
