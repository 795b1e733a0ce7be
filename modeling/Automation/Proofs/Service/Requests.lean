import Automation.Proofs.Flow.Saved
import Automation.Proofs.Runner.Outline
import Automation.RunDesk

/-!
# What requests about flows and runs ask for

Which requests of its world a request about saved flows makes, whatever it is answered. A kind of
requests to which the quiet ones and the searches for one flow belong (`Request.Reads`) has all that
is asked for before anything is written; what is written is one flow of a draft, one revision, or
one deletion (`asks_create`, `asks_update`, `asks_delete`). A request that only looks asks for
searches and for nothing else (`Request.Searches`).
-/

set_option autoImplicit false

namespace Automation

open Program

/-- A kind to which quiet requests and searches for one flow belong. -/
structure Request.Reads (kind : Request → Prop) : Prop where
  quiet : ∀ r, r.IsQuiet → kind r
  findFlow : ∀ filter, kind (.query (.findOne .flows filter))

/-- A kind to which quiet requests and all searches belong. -/
structure Request.Searches (kind : Request → Prop) : Prop extends Request.Reads kind where
  findOne : ∀ c filter, kind (.query (.findOne c filter))
  find : ∀ c filter order, kind (.query (.find c filter order))

/-- Writes changes of a flow, if there are any. -/
def Editor.writeChanges (id : String) (flow : Flow) : Fields → Program Flow
  | [] => pure flow
  | changes => do
    match ← Repository.updateFlow id changes with
    | none => .failed .flowNotUpdated
    | some saved => do
      Program.info speaker ("Flow '" ++ saved.name ++ "' updated successfully with ID: " ++ id)
      pure saved

/-- A search for one flow. -/
def Repository.searchFlow (operation : String) (filter : List Clause) : Program (Option Flow) := do
  connect
  match ← Program.query (.findOne .flows filter) with
  | .ok d => flowOf? operation d
  | .error e => fail operation e

theorem Repository.getFlowByName_eq (name : String) (skipped : Option String) :
    getFlowByName name skipped = searchFlow "get_flow_by_name" (nameFilter name skipped) := by
  unfold getFlowByName searchFlow
  refine congrArg _ (funext fun _ => congrArg _ (funext fun found => ?_))
  cases found <;> rfl

theorem Repository.getFlow_eq {id : String} {oid : ObjectId}
    (hid : ObjectId.ofText? id = some oid) :
    getFlow id = searchFlow "get_flow" [.idIs oid] := by
  unfold getFlow searchFlow
  rw [hid]
  dsimp only
  refine congrArg _ (funext fun _ => congrArg _ (funext fun found => ?_))
  cases found <;> rfl

theorem Editor.update_eq (id : String) (revision : Revision) :
    Editor.update id revision = foreseen speaker .updatingFlow (do
      let flow ← existing id
      let name ← nameChange id revision.name
      let nodes ← nodesChange revision.nodes
      writeChanges id flow (name ++ nodes ++ edgesChange revision.edges)) := rfl

variable {α β : Type} {kind : Request → Prop}

/-! ## Quiet programs -/

theorem asks_report (e : Journal.Entry) : (report e).Asks Request.IsQuiet :=
  ⟨trivial, fun _ => trivial⟩

theorem asks_fail (operation : String) (e : StoreError) :
    (Repository.fail operation e : Program α).Asks Request.IsQuiet :=
  (asks_report _).bind fun _ => trivial

theorem asks_now_bind {k : Moment → Program α} :
    (Program.now >>= k).Asks kind ↔ kind .clock ∧ ∀ now, (k now).Asks kind := Iff.rfl

/-- One program after another, by the values with which the first can end. -/
theorem Program.Asks.bind_yields {p : Program α} {k : α → Program β} {P : α → Prop}
    (hp : p.Asks kind) (hyields : p.Yields P) (hk : ∀ a, P a → (k a).Asks kind) :
    (p >>= k).Asks kind := by
  show (p.bind k).Asks kind
  induction p with
  | done a => exact hk a (hyields a rfl)
  | failed f => trivial
  | cancelled => trivial
  | ask r next ih => exact ⟨hp.1, fun x => ih x (hp.2 x) (hyields x trivial)⟩

theorem asks_query_bind {q : Query} {k : Except StoreError q.Answer → Program α} :
    (Program.query q >>= k).Asks kind ↔ kind (.query q) ∧ ∀ x, (k x).Asks kind := Iff.rfl

theorem asks_flowOf? (operation : String) (d : Option Document) :
    (Repository.flowOf? operation d).Asks Request.IsQuiet := by
  cases d with
  | none => trivial
  | some d =>
    refine asks_now_bind.2 ⟨trivial, fun now => ?_⟩
    split
    · trivial
    · exact asks_fail _ _

theorem asks_validate (draft : Draft) : (Editor.validate draft).Asks Request.IsQuiet :=
  ⟨trivial, fun _ => (asks_reportAll (fun _ => trivial) _).bind fun _ => trivial⟩

namespace Request.Reads

variable (h : Request.Reads kind)
include h

/-- The programs that an activity is reported by add nothing but reports. -/
theorem asks_foreseen {p : Program α} (speaker : String) (activity : Activity) (hp : p.Asks kind) :
    (Editor.foreseen speaker activity p).Asks kind := by
  refine hp.attempt.bind fun outcome => ?_
  match outcome with
  | .ok a => trivial
  | .error failure =>
    show Asks kind (if failure.isOfService = true then _ else _)
    split
    · trivial
    · exact ((asks_report _).mono h.quiet).bind fun _ => trivial

/-- A query, asked by a client, with what goes on quietly. -/
theorem asks_lookup {q : Query} {k : Except StoreError q.Answer → Program α}
    (hq : kind (.query q)) (hk : ∀ x, (k x).Asks Request.IsQuiet) :
    (Repository.connect >>= fun _ => Program.query q >>= k).Asks kind :=
  (asks_connect.mono h.quiet).bind fun _ => ⟨hq, fun x => (hk x).mono h.quiet⟩

/-! ## Searches -/

theorem asks_getFlow (id : String) : (Repository.getFlow id).Asks kind := by
  unfold Repository.getFlow
  cases ObjectId.ofText? id with
  | none => trivial
  | some oid =>
    refine h.asks_lookup (h.findFlow _) fun x => ?_
    match x with
    | .ok d => exact asks_flowOf? _ d
    | .error e => exact asks_fail _ e

theorem asks_existing (id : String) : (Editor.existing id).Asks kind := by
  refine (h.asks_getFlow id).bind fun flow => ?_
  cases flow <;> trivial

theorem asks_getFlowByName (name : String) (own : Option String) :
    (Repository.getFlowByName name own).Asks kind := by
  refine h.asks_lookup (h.findFlow _) fun x => ?_
  match x with
  | .ok d => exact asks_flowOf? _ d
  | .error e => exact asks_fail _ e

theorem asks_requireFreeName (name : String) (own : Option String) :
    (Editor.requireFreeName name own).Asks kind := by
  refine (h.asks_getFlowByName name own).bind fun flow => ?_
  cases flow <;> trivial

theorem asks_nameChange (id : String) (given : Option String) :
    (Editor.nameChange id given).Asks kind := by
  cases given with
  | none => trivial
  | some given =>
    dsimp only [Editor.nameChange]
    split
    · trivial
    · exact (h.asks_requireFreeName _ _).bind fun _ => trivial

/-! ## Writes -/

theorem asks_createFlow {flow : Flow} (hflow : kind (.query (.insert .flows flow.document))) :
    (Repository.createFlow flow).Asks kind := by
  refine h.asks_lookup hflow fun x => ?_
  match x with
  | .ok id => trivial
  | .error e => exact asks_fail _ e

/-- A draft is written as one flow with its nodes and edges, or not at all. -/
theorem asks_create {draft : Draft}
    (hdraft : ∀ name now, kind (.query (.insert .flows
      (Flow.document ⟨none, name, draft.nodes, draft.edges, some now, some now⟩)))) :
    (Editor.create draft).Asks kind := by
  unfold Editor.create
  generalize Text.trim (draft.name.getD "") = name
  refine h.asks_foreseen _ _ ?_
  dsimp only
  split
  · trivial
  · split
    · trivial
    · refine (h.asks_requireFreeName _ _).bind fun _ => ?_
      refine asks_now_bind.2 ⟨h.quiet _ trivial, fun now => ?_⟩
      refine (h.asks_createFlow (hdraft _ now)).bind fun flow => ?_
      exact ((asks_report _).mono h.quiet).bind fun _ => trivial

theorem asks_updateFlow (id : String) {changes : Fields}
    (hchanges : ∀ oid now, kind (.query
      (.change .flows oid (changes.insert "updated_at" (.date now))))) :
    (Repository.updateFlow id changes).Asks kind := by
  unfold Repository.updateFlow
  cases ObjectId.ofText? id with
  | none => trivial
  | some oid =>
    refine (asks_connect.mono h.quiet).bind fun _ => ?_
    refine asks_now_bind.2 ⟨h.quiet _ trivial, fun now => ?_⟩
    refine asks_query_bind.2 ⟨hchanges oid now, fun x => ?_⟩
    match x with
    | .ok d => exact (asks_flowOf? _ d).mono h.quiet
    | .error e => exact (asks_fail _ e).mono h.quiet

theorem asks_writeChanges (id : String) (flow : Flow) {changes : Fields}
    (hchanges : ∀ oid now, kind (.query
      (.change .flows oid (changes.insert "updated_at" (.date now))))) :
    (Editor.writeChanges id flow changes).Asks kind := by
  cases changes with
  | nil => trivial
  | cons change rest =>
    refine (h.asks_updateFlow id hchanges).bind fun saved => ?_
    cases saved with
    | none => trivial
    | some saved => exact ((asks_report _).mono h.quiet).bind fun _ => trivial

/-- A revision is written as what it provides, with its name trimmed, or not at all. -/
theorem asks_update (id : String) {revision : Revision}
    (hrevision : ∀ (oid : ObjectId) (name : Option String) (now : Moment),
      kind (.query (.change .flows oid ((revisedFields name revision.nodes revision.edges).insert
        "updated_at" (.date now))))) :
    (Editor.update id revision).Asks kind := by
  rw [Editor.update_eq]
  refine h.asks_foreseen _ _ ((h.asks_existing id).bind fun flow => ?_)
  have hnamed : (Editor.nameChange id revision.name).Yields fun fields =>
      ∃ name : Option String, fields = (name.map fun t => ("name", Value.text t)).toList := by
    cases revision.name with
    | none => exact yields_done ⟨none, rfl⟩
    | some given =>
      dsimp only [Editor.nameChange]
      split
      · exact yields_failed
      · exact yields_bind fun _ => yields_done ⟨some _, rfl⟩
  refine (h.asks_nameChange id revision.name).bind_yields hnamed ?_
  rintro fields ⟨name, rfl⟩
  have hwritten := h.asks_writeChanges id flow fun oid now => hrevision oid name now
  cases hnodes : revision.nodes with
  | none =>
    rw [hnodes] at hwritten
    exact hwritten
  | some nodes =>
    rw [hnodes] at hwritten
    cases nodes with
    | nil => trivial
    | cons n ns => exact hwritten

theorem asks_deleteFlow (hdelete : ∀ oid, kind (.query (.delete .flows oid))) (id : String) :
    (Repository.deleteFlow id).Asks kind := by
  unfold Repository.deleteFlow
  cases ObjectId.ofText? id with
  | none => trivial
  | some oid =>
    refine h.asks_lookup (hdelete oid) fun x => ?_
    match x with
    | .ok deleted => trivial
    | .error e => exact (asks_report _).bind fun _ => trivial

/-- A flow is deleted, or not at all. -/
theorem asks_delete (hdelete : ∀ oid, kind (.query (.delete .flows oid))) (id : String) :
    (Editor.delete id).Asks kind := by
  refine h.asks_foreseen _ _ ((h.asks_existing id).bind fun flow => ?_)
  refine (h.asks_deleteFlow hdelete id).bind fun deleted => ?_
  cases deleted with
  | false => trivial
  | true => exact (asks_report _).mono h.quiet

end Request.Reads

/-! ## Requests that only look -/

namespace Request.Searches

variable (h : Request.Searches kind)
include h

theorem asks_getFlows : Repository.getFlows.Asks kind := by
  refine h.asks_lookup (h.find ..) fun x => ?_
  match x with
  | .ok docs =>
    refine asks_now_bind.2 ⟨trivial, fun now => ?_⟩
    split
    · trivial
    · exact asks_fail _ _
  | .error e => exact asks_fail _ e

theorem asks_getTestRun (id : String) : (Repository.getTestRun id).Asks kind := by
  unfold Repository.getTestRun
  cases ObjectId.ofText? id with
  | none => trivial
  | some oid =>
    refine h.asks_lookup (h.findOne ..) fun x => ?_
    match x with
    | .ok none => trivial
    | .ok (some d) =>
      refine asks_now_bind.2 ⟨trivial, fun now => ?_⟩
      split
      · trivial
      · exact asks_fail _ _
    | .error e => exact asks_fail _ e

theorem asks_getTestRunsByFlow (id : String) : (Repository.getTestRunsByFlow id).Asks kind := by
  refine h.asks_lookup (h.find ..) fun x => ?_
  match x with
  | .ok docs =>
    refine asks_now_bind.2 ⟨trivial, fun now => ?_⟩
    split
    · trivial
    · exact asks_fail _ _
  | .error e => exact asks_fail _ e

theorem asks_getAuditEntries (id : String) : (Repository.getAuditEntries id).Asks kind := by
  refine h.asks_lookup (h.find ..) fun x => ?_
  match x with
  | .ok docs =>
    refine asks_now_bind.2 ⟨trivial, fun now => ?_⟩
    split
    · trivial
    · exact asks_fail _ _
  | .error e => exact asks_fail _ e

theorem asks_runDetail (id : String) : (RunDesk.detail id).Asks kind := by
  refine (h.asks_getTestRun id).bind fun run => ?_
  cases run <;> trivial

theorem asks_overview (id : String) : (RunDesk.overview id).Asks kind :=
  (h.asks_runDetail id).bind fun _ => (h.asks_getFlow _).bind fun _ => trivial

end Request.Searches

end Automation
