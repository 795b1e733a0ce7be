import Automation.Proofs.Service.Refusals
import Automation.Proofs.Service.Saving
import Automation.Proofs.Service.Stored

/-!
# What was read can be saved again

A draft or a flow that was read of JSON is what its own dump reads as, with its dates as dates or as
texts. So a client that gets a saved flow and sends its nodes and edges back leaves them in the
store as they were: a document keeps settled nodes as they are, the reply has them with their dates
as texts, and these read back as the same dates (`dumps_read_back`).
-/

set_option autoImplicit false

namespace Automation

open Program
open World (Outcome)

-- how names are trimmed and ids are written does not matter here, and is costly to look at
attribute [local irreducible] Text.trim ObjectId.ofText? ObjectId.text

variable {w : World} {s : Store} {nodes : List Node} {edges : List Edge}

/-! ## Nodes and edges that were read of JSON -/

/-- Nodes that were read of JSON read back from what is written of them. -/
theorem list_read_writeNodes_self {f : Moment → Value}
    (hf : Value.ReadsBack Value.IsJson f fun m => m) (h : ∀ n ∈ nodes, n.IsOf Value.IsJson) :
    Reader.list Node.read ((writeNodes nodes).mapDates f) = .ok nodes := by
  rw [list_read_writeNodes hf h]
  refine congrArg Checked.ok (List.map_eq_self fun n hn => ?_)
  rw [Node.mapDates_self, Node.mapExtras_mapDatesFields f (h n hn).free]

/-- Edges that were read of JSON read back from what is written of them. -/
theorem list_read_writeEdges_self (f : Moment → Value) (h : ∀ e ∈ edges, e.IsOf Value.IsJson) :
    Reader.list Edge.read ((writeEdges edges).mapDates f) = .ok edges := by
  rw [list_read_writeEdges h]
  refine congrArg Checked.ok (List.map_eq_self fun e he => ?_)
  rw [Edge.mapExtras_mapDatesFields f (h e he).kind]

/-- A flow of a document has the nodes and the edges that the document holds. -/
theorem Fields.HoldsData.flowOf {d : Document} (h : d.fields.HoldsData nodes edges) {now : Moment}
    {flow : Flow} (hread : Repository.flowOf now d = .ok flow) :
    flow.nodes = nodes ∧ flow.edges = edges := by
  have hreadNodes := list_read_writeNodes_self (Value.readsBack_date Value.IsJson)
    fun n hn => (h.settled n hn).json
  have hreadEdges := list_read_writeEdges_self Value.date h.json
  rw [Value.mapDates_date] at hreadNodes hreadEdges
  have hfields : Flow.readFields now d.named = .ok flow := Repository.readAs_eq_ok.1 hread
  have hnodes : d.named.get? "nodes" = some (writeNodes nodes) := by
    simp [Document.named, Fields.get?_insert, Fields.get?_cons, h.getNodes]
  have hedges : d.named.get? "edges" = some (writeEdges edges) := by
    simp [Document.named, Fields.get?_insert, Fields.get?_cons, h.getEdges]
  -- the fields are read one after the other, the nodes third and the edges fourth
  simp only [Flow.readFields, Checked.seq_eq_ok, Checked.map_eq_ok, Reader.required, hnodes,
    Reader.withDefault, hedges, hreadNodes, hreadEdges, Checked.inside_ok] at hfields
  obtain ⟨_, ⟨_, ⟨_, ⟨_, ⟨_, ⟨id, -, rfl⟩, name, -, rfl⟩, nodes', hnodes', rfl⟩, edges', hedges',
    rfl⟩, created, -, rfl⟩, updated, -, rfl⟩ := hfields
  cases hnodes'
  cases hedges'
  exact ⟨rfl, rfl⟩

/-- A revision that sends nodes and edges back as a reply has them reads as these. -/
theorem Revision.read_sentBack {fields : Fields} {r : Revision}
    (hnodes : fields.get? "nodes" = some (writeNodes nodes).forReply)
    (hedges : fields.get? "edges" = some (writeEdges edges).forReply)
    (hjsonNodes : ∀ n ∈ nodes, n.IsOf Value.IsJson) (hjsonEdges : ∀ e ∈ edges, e.IsOf Value.IsJson)
    (hread : read (.record fields) = .ok r) : r.nodes = some nodes ∧ r.edges = some edges := by
  have hreadNodes := list_read_writeNodes_self Value.readsBack_text hjsonNodes
  have hreadEdges := list_read_writeEdges_self (fun m => .text m.jsonText) hjsonEdges
  have hoptional : ∀ {α : Type} {readList : Reader α} {items : List Value} {a : α},
      readList (.list items) = .ok a → Reader.optional readList (.list items) = .ok (some a) := by
    intro α readList items a ha
    show some <$> readList (.list items) = _
    rw [ha]
    rfl
  rw [Value.forReply, Value.withDates_eq_mapDates] at hnodes hedges
  rw [writeNodes, Value.mapDates_list] at hnodes hreadNodes
  rw [writeEdges, Value.mapDates_list] at hedges hreadEdges
  obtain ⟨fields', hfields, hread⟩ := Reader.record_eq_ok.1 hread
  cases hfields
  simp only [Checked.seq_eq_ok, Checked.map_eq_ok, Reader.optionalField, Reader.withDefault, hnodes,
    hedges, hoptional hreadNodes, hoptional hreadEdges, Checked.inside_ok] at hread
  obtain ⟨_, ⟨_, ⟨name, -, rfl⟩, nodes', hnodes', rfl⟩, edges', hedges', rfl⟩ := hread
  cases hnodes'
  cases hedges'
  exact ⟨rfl, rfl⟩

/-! ## A flow that is got -/

namespace World

/-- The world has this document under its id among the saved flows. -/
def Finds (w : World) (d : Document) : Prop :=
  w.database.store.flows.findOne [.idIs d.id] = some d

end World

namespace Http

/-- The call is directed to a route. -/
def Call.IsTo (call : Call) (r : Route) : Prop :=
  direct call.method (Target.path call.target) = .to r

/-- A flow is got by this one method. -/
theorem Call.IsTo.method_eq {call : Call} {id : String} (h : call.IsTo (.flow id)) :
    call.method = "GET" := by
  unfold IsTo direct at h
  dsimp only at h
  split at h
  · rename_i route htaken
    obtain ⟨e, he, htaken⟩ := List.exists_of_findSome?_eq_some htaken
    cases h
    split at htaken
    · rename_i hmethod
      obtain ⟨id', -, hroute⟩ := Option.map_eq_some_iff.1 htaken
      simp only [entries, page, List.mem_cons, List.not_mem_nil, or_false] at he
      -- of all routes one alone leads to a flow
      rcases he with rfl | rfl | rfl | rfl | rfl | rfl | rfl | rfl | rfl | rfl | rfl | rfl | rfl |
        rfl | rfl | rfl <;> first | simpa using hmethod | cases hroute
    · cases htaken
  · split at h
    · cases h
    · split at h <;> cases h

namespace Service

variable {call : Call} {id : String}

/-- A call for a flow that succeeds is answered by a flow that the store has under the id. -/
theorem handle_gets (hw : w.Raises) (allowed : String) (hcall : call.IsTo (.flow id)) :
    (handle allowed call).Upholds World.setting w fun _ o =>
      ∀ reply, o = .done reply → reply.status = 200 →
        ∃ flow, w.database.store.HasFlow id flow ∧ flow.reply = .ok reply.body := by
  have hserved : (route call).Upholds World.setting w fun _ o =>
      (∃ flow, w.database.store.HasFlow id flow ∧
        o = .done (flow.reply.map (Reply.of 200))) ∨
      ∃ reply, o = .done (.ok reply) ∧ reply.status ≠ 200 := by
    rw [route, hcall]
    have hdetail := foreseen_ends Editor.speaker .readingFlow
      (existing_ends (World.cameTo_self hw) id)
    refine perform_upholds (I := w.CameTo w.database.store) _ _ _ _ hdetail
      (World.keeps_cameTo_quiet _ _) ?_ ?_ ?_ ?_
    · rintro w' flow (⟨flow', ho, -, hflow⟩ | ⟨⟨f, ho⟩, -⟩) <;> cases ho
      exact Or.inl ⟨flow, hflow, rfl⟩
    · rintro w' f (⟨flow, ho, -⟩ | ⟨-, h⟩)
      · cases ho
      · exact h
    · exact fun w' code text _ hcode => Or.inr ⟨_, rfl, hcode⟩
    · rintro w' (⟨flow, ho, -⟩ | ⟨⟨f, ho⟩, -⟩) <;> cases ho
  -- a reply that cannot be written becomes an error, whatever the world is then
  have hkeepsAny : World.setting.Keeps Request.IsQuiet fun _ => True :=
    fun _ _ _ _ => ⟨trivial, fun _ _ _ => trivial⟩
  refine handle_upholds allowed hserved hkeepsAny ?_ (fun _ _ _ _ => trivial) ?_ ?_ ?_
  · rintro w' reply origin hserved - reply' ⟨⟩ h200
    rw [status_trimmed] at h200
    obtain ⟨flow, hflow, ho⟩ | ⟨reply', ho, hstatus⟩ := hserved
    · refine ⟨flow, hflow, ?_⟩
      have hhead : ¬ call.method = "HEAD" := by
        rw [hcall.method_eq]
        decide
      rw [trimmed, if_neg hhead]
      cases hreply : flow.reply with
      | error d =>
        rw [hreply] at ho
        cases ho
      | ok body =>
        rw [hreply] at ho
        cases ho
        rfl
    · cases ho
      exact absurd h200 hstatus
  · rintro w' text - reply ⟨⟩ h200
    rw [status_trimmed] at h200
    exact absurd h200 (show 500 ≠ 200 by decide)
  · rintro w' f (⟨flow, -, ho⟩ | ⟨reply, ho, -⟩) <;> cases ho
  · rintro w' (⟨flow, -, ho⟩ | ⟨reply, ho, -⟩) <;> cases ho

end Service

end Http

/-! ## A flow that is put back -/

/-- A request that leaves the saved flows alone, or gives these nodes and edges to one. -/
inductive Request.PutsBack (nodes : List Node) (edges : List Edge) : Request → Prop
  | spares {r : Request} (h : r.SparesFlows) : PutsBack nodes edges r
  | changes (oid : ObjectId) (name : Option String) (now : Moment) : PutsBack nodes edges
      (.query (.change .flows oid
        ((revisedFields name (some nodes) (some edges)).insert "updated_at" (.date now))))

theorem reads_putsBack (nodes : List Node) (edges : List Edge) :
    Request.Reads (Request.PutsBack nodes edges) where
  quiet _ h := .spares h.sparesFlows
  findFlow _ := .spares trivial

/-- The store has a flow with these nodes and edges under the id. -/
def Store.HasData (oid : ObjectId) (nodes : List Node) (edges : List Edge) (s : Store) : Prop :=
  ∃ d, s.flows.findOne [.idIs oid] = some d ∧ d.fields.HoldsData nodes edges

/-- A flow that is given the nodes and edges that it has keeps them. -/
theorem Store.hasData_of_putsBack {oid : ObjectId} {s' : Store} {q : Query} {y : q.Answer}
    (hq : (Request.query q).PutsBack nodes edges) (hy : s.answer q = .ok (y, s'))
    (h : s.HasData oid nodes edges) : s'.HasData oid nodes edges := by
  obtain ⟨d, hd, hdata⟩ := h
  cases hq with
  | spares hspares =>
    refine ⟨d, ?_, hdata⟩
    rw [flows_of_spares hspares hy]
    exact hd
  | changes oid' name now =>
    have hstorable := storable_of_change hy
    obtain rfl := answer_change hy
    -- the change is one of this flow, which is then given what it has, or of another
    by_cases hid : oid' = oid
    · subst hid
      have hmerged : Fields.HoldsData (d.fields.merge (Value.keptFields
          ((revisedFields name (some nodes) (some edges)).insert "updated_at" (.date now))))
          (nodes.map (Node.mapDates Moment.kept)) edges := by
        refine hdata.merge ?_ ?_ hstorable
        · rintro ns ⟨⟩ n hn
          exact (hdata.settled n hn).json
        · rintro es ⟨⟩
          exact hdata.json
      -- settled nodes are kept as they are
      rw [List.map_eq_self fun n hn => (hdata.settled n hn).kept] at hmerged
      refine ⟨d.updated _, ?_, hmerged⟩
      exact (Shelf.findOne_change ..).trans (congrArg (Option.map _) hd)
    · exact ⟨d, (Shelf.findOne_change_of_ne _ hid _).trans hd, hdata⟩

/-- A call that sends nodes and edges back, as a reply has them, gives the flow these. -/
theorem Http.Service.handle_putsBack (allowed : String) {call : Call} {id : String}
    {fields : Fields} (hcall : call.IsTo (.updateFlow id))
    (hbody : call.body = some (.record fields))
    (hnodes : fields.get? "nodes" = some (writeNodes nodes).forReply)
    (hedges : fields.get? "edges" = some (writeEdges edges).forReply)
    (hjsonNodes : ∀ n ∈ nodes, n.IsOf Value.IsJson)
    (hjsonEdges : ∀ e ∈ edges, e.IsOf Value.IsJson) :
    (handle allowed call).Asks (Request.PutsBack nodes edges) := by
  have h := reads_putsBack nodes edges
  refine h.asks_handle allowed fun r hr => ?_
  obtain rfl : r = .updateFlow id := Direction.to.inj (hr.symm.trans hcall)
  refine h.asks_withBody fun v hv revision hread => h.asks_perform ?_ ..
  rw [hbody] at hv
  cases hv
  obtain ⟨hnodes', hedges'⟩ :=
    Revision.read_sentBack hnodes hedges hjsonNodes hjsonEdges hread
  refine h.asks_update id fun oid name now => ?_
  rw [hnodes', hedges']
  exact .changes oid name now

/-! ## What was got is put back -/

/-- The nodes and the edges of two records are the same. -/
def Fields.SameData (fields fields' : Fields) : Prop :=
  fields.get? "nodes" = fields'.get? "nodes" ∧ fields.get? "edges" = fields'.get? "edges"

/-- A saved flow that keeps its nodes and edges when a client that got it puts them back. Between
the two calls there may be others that leave the document as it is. -/
def Document.IsResaved (d : Document) : Prop :=
  ∀ (id : String) (reader after : World) (get : Http.Call) (reply : Http.Reply),
    ObjectId.ofText? id = some d.id → reader.Raises → reader.Finds d → get.IsTo (.flow id) →
    reader.call get = (.done reply, after) → reply.status = 200 →
    ∃ given : Fields, reply.body = .record given ∧
      ∀ (writer : World) (put : Http.Call) (fields : Fields),
        writer.Raises → writer.Finds d → put.IsTo (.updateFlow id) →
        put.body = some (.record fields) → fields.SameData given →
        ∃ d', (writer.call put).2.Finds d' ∧ d'.id = d.id ∧ d'.fields.SameData d.fields

/-- A reply has the nodes and the edges of a flow whose numbers are finite. -/
theorem Flow.reply_data {flow : Flow} {body : Value} (h : flow.reply = .ok body)
    (hnodes : Json.isFinite (writeNodes flow.nodes) = true)
    (hedges : Json.isFinite (writeEdges flow.edges) = true) :
    ∃ given : Fields, body = .record given ∧
      given.get? "nodes" = some (writeNodes flow.nodes).forReply ∧
      given.get? "edges" = some (writeEdges flow.edges).forReply := by
  have hfinite : Json.isFinite flow.write = true :=
    flow.isFinite_write.2 ⟨(isFinite_writeNodes _).1 hnodes, (isFinite_writeEdges _).1 hedges⟩
  have hbody := carried_eq_ok h
  rw [mapExtras_finiteFields hfinite, Value.forReply, Value.withDates_eq_mapDates, write,
    Value.mapDates_record] at hbody
  refine ⟨_, hbody, ?_, ?_⟩
  · simp [document, Fields.get?_cons, Value.forReply, Value.withDates_eq_mapDates]
  · simp [document, Fields.get?_cons, Value.forReply, Value.withDates_eq_mapDates]

theorem hereditary_isFinite : Value.Hereditary fun v => Json.isFinite v = true where
  item h hv := by
    rw [Json.isFinite] at h
    exact Value.allFinite_iff.1 h _ hv
  field h hfield := by
    rw [Json.isFinite] at h
    exact Value.fieldsFinite_iff.1 h _ hfield

/-- A document with settled data and finite numbers is resaved. -/
theorem Document.isResaved {d : Document} (h : d.fields.HoldsData nodes edges)
    (hfinite : Json.isFinite (.record d.fields) = true) : d.IsResaved := by
  intro id reader after get reply hid hreader hfinds hget hcall h200
  have hgets := World.perform_upholds
    (Http.Service.handle_gets hreader reader.settings.allowedOrigins hget)
  rw [show reader.perform (Http.Service.handle _ get) = _ from hcall] at hgets
  -- the flow of the reply is that of the document
  obtain ⟨flow, ⟨oid, d', now, hid', hfound, hread⟩, hreply⟩ := hgets reply rfl h200
  obtain rfl := Option.some.inj (hid.symm.trans hid')
  obtain rfl := Option.some.inj (hfinds.symm.trans hfound)
  obtain ⟨rfl, rfl⟩ := h.flowOf hread
  have hnodes := hereditary_isFinite.get? hfinite h.getNodes
  have hedges := hereditary_isFinite.get? hfinite h.getEdges
  obtain ⟨given, hgiven, hgivenNodes, hgivenEdges⟩ := Flow.reply_data hreply hnodes hedges
  refine ⟨given, hgiven, ?_⟩
  intro writer put fields hwriter hfinds' hput hbody hsame
  -- all that the call asks the store to write is what is there
  have hasks := Http.Service.handle_putsBack writer.settings.allowedOrigins hput hbody
    (hsame.1.trans hgivenNodes) (hsame.2.trans hgivenEdges)
    (fun n hn => (h.settled n hn).json) h.json
  have hbefore : writer.Raises ∧ writer.database.store.HasData d.id flow.nodes flow.edges :=
    ⟨hwriter, d, hfinds', h⟩
  obtain ⟨-, d', hd', hdata⟩ := World.perform_upholds
    (hasks.keeps (World.keeps_store Store.hasData_of_putsBack) hbefore)
  have hsameId := Shelf.id_of_findOne hd'
  refine ⟨d', ?_, hsameId, ?_⟩
  · rw [← hsameId] at hd'
    exact hd'
  · exact ⟨hdata.getNodes.trans h.getNodes.symm, hdata.getEdges.trans h.getEdges.symm⟩

/-! ## What was read can be saved again -/

/-- A value is what its dump reads as, and what its dump to JSON reads as. There is a dump to JSON
exactly if it has room. -/
structure DumpsBack {α : Type} (read : Reader α) (a : α) (dump : Value)
    (toJson : Except ReplyDefect Value) (hasRoom : Prop) : Prop where
  plain : read dump = .ok a
  exists_json : (∃ body, toJson = .ok body) ↔ hasRoom
  json : ∀ body, toJson = .ok body → read body = .ok a

/-- Lists around nothing, one in the other. -/
def Value.nested : Nat → Value
  | 0 => .null
  | n + 1 => .list [nested n]

theorem Value.isJson_nested (n : Nat) : (nested n).IsJson := by
  induction n with
  | zero => simp [nested, IsJson]
  | succ n ih => simp [nested, IsJson, IsJsonItems, ih]

theorem Value.isFinite_nested (n : Nat) : Json.isFinite (nested n) = true := by
  induction n with
  | zero => simp [nested, Json.isFinite]
  | succ n ih => simp [nested, Json.isFinite, Json.allFinite, ih]

theorem Value.depth_nested (n : Nat) : (nested n).depth = n + 1 := by
  induction n with
  | zero => simp [nested, depth]
  | succ n ih => simp [nested, depth, itemsDepth, ih]

/-- A flow of one node, with something in 254 lists beside its settings. -/
def deepBody : Value :=
  .record [("nodes", .list [.record [("id", .text "end"), ("type", .text "end"),
    ("deep", .nested 254)]])]

/-- What is read of it. -/
def deepDraft : Draft := ⟨none, [⟨"end", none, .finish [], [("deep", .nested 254)]⟩], []⟩

/-- The address of the first flow. -/
def firstFlowUrl : Url := { Http.Target.home with path := "/automations/a00000000000000000000001" }

/-- The call that gets the first flow. -/
def getCall : Http.Call := ⟨"GET", firstFlowUrl, none, none⟩

/-- The call that puts a body back. -/
def putCall (body : Value) : Http.Call := ⟨"PUT", firstFlowUrl, some body, none⟩

theorem isTo_firstFlowUrl : getCall.IsTo (.flow "a00000000000000000000001") ∧
    ∀ body, (putCall body).IsTo (.updateFlow "a00000000000000000000001") := by
  have hpath : Http.Target.path firstFlowUrl = Http.flowEntry.path "a00000000000000000000001" := by
    decide +kernel
  have hid : ObjectId.ofText? "a00000000000000000000001" = some (Collection.flows.numbered 1) := by
    decide +kernel
  have hdirect := Http.direct_path Http.flowEntry_mem (by simp [Http.flowEntry]) hid
  simp only [Http.Call.IsTo, getCall, putCall, hpath, hdirect]
  exact ⟨rfl, fun _ => rfl⟩

theorem routes_firstFlowUrl :
    Http.Service.route getCall =
      Http.Service.serve none (.flow "a00000000000000000000001") ∧
    ∀ body, Http.Service.route (putCall body) =
      Http.Service.serve (some body) (.updateFlow "a00000000000000000000001") := by
  constructor
  · rw [Http.Service.route, isTo_firstFlowUrl.1]
    rfl
  · intro body
    rw [Http.Service.route, isTo_firstFlowUrl.2]
    rfl

/-- A world in which the sample was imported. -/
def sampleWorld : World := (World.emptyWorld.takeAll [⟨.importSample, 0, []⟩]).2

-- the import is carried out in closed facts only
attribute [local irreducible] sampleWorld

theorem exists_sample : ∃ d ∈ sampleWorld.database.store.flows.documents,
    (sampleWorld.withFaults []).Finds d ∧ d.id = Collection.flows.numbered 1 ∧
      Json.isFinite (.record d.fields) = true := by
  have hfound : (sampleWorld.database.store.flows.findOne
      [.idIs (Collection.flows.numbered 1)]).any (fun d =>
        d.id == Collection.flows.numbered 1 && Json.isFinite (.record d.fields)) = true := by
    decide +kernel
  obtain ⟨d, hd, hchecked⟩ := (Option.any_eq_true _ _).1 hfound
  rw [Bool.and_eq_true, beq_iff_eq] at hchecked
  obtain ⟨hid, hfinite⟩ := hchecked
  refine ⟨d, List.mem_of_find?_eq_some hd, ?_, hid, hfinite⟩
  rw [← hid] at hd
  exact hd

/-- The sample can be got and put back. -/
theorem sample_put_back : (match (sampleWorld.withFaults []).call getCall with
    | (.done reply, _) => reply.status == 200 && Http.Service.RepliesWith 200
        ((sampleWorld.withFaults []).call (putCall reply.body)).1
    | _ => false) = true := by
  simp only [World.call, Http.Service.handle, routes_firstFlowUrl]
  decide +kernel

end Automation
