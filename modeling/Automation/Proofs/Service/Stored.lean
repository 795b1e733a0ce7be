import Automation.Proofs.Flow.Settled
import Automation.Proofs.Service.Catalog

/-!
# The data of saved flows

Starting without flows, after any calls whose bodies are JSON and any imports, every saved flow has
settled nodes, and edges that were read of JSON (`World.saved_flows_hold_data`). A call asks the
store to make or to change a flow with nothing but what was read of its body (`asks_handle`), and
what the store keeps of that is settled.
-/

set_option autoImplicit false

namespace Automation

open Program

-- how names are trimmed does not matter here, and is costly to look at
attribute [local irreducible] Text.trim

/-! ## Documents -/

/-- A document that has these nodes, as they are, and these edges. -/
structure Fields.HoldsData (fields : Fields) (nodes : List Node) (edges : List Edge) : Prop where
  getNodes : fields.get? "nodes" = some (writeNodes nodes)
  getEdges : fields.get? "edges" = some (writeEdges edges)
  settled : ∀ n ∈ nodes, n.IsSettled
  json : ∀ e ∈ edges, e.IsOf Value.IsJson

/-- Every document has settled nodes, and edges that were read of JSON. -/
def Shelf.HoldsData (s : Shelf) : Prop :=
  ∀ d ∈ s.documents, ∃ nodes edges, Fields.HoldsData d.fields nodes edges

/-- What the store keeps of nodes that were read of JSON. -/
theorem settled_of_storable {nodes : List Node} (h : ∀ n ∈ nodes, n.IsOf Value.IsJson)
    (hstorable : (writeNodes nodes).IsStorable) :
    ∀ n ∈ nodes.map (Node.mapDates Moment.kept), n.IsSettled := by
  intro n hn
  obtain ⟨n', hn', rfl⟩ := List.mem_map.1 hn
  exact (h n' hn').settled (Value.hereditary_isStorable.item hstorable (List.mem_map_of_mem hn'))

namespace Fields.HoldsData

/-- The document of a new flow. -/
theorem of_document {flow : Flow} (hnodes : ∀ n ∈ flow.nodes, n.IsOf Value.IsJson)
    (hedges : ∀ e ∈ flow.edges, e.IsOf Value.IsJson)
    (hstorable : (Value.record flow.document).IsStorable) :
    Fields.HoldsData (Value.keptFields flow.document)
      (flow.nodes.map (Node.mapDates Moment.kept)) flow.edges where
  getNodes := by
    rw [get?_keptFields, show flow.document.get? "nodes" = some (writeNodes flow.nodes) from rfl,
      Option.map_some, writeNodes_kept hnodes]
  getEdges := by
    rw [get?_keptFields, show flow.document.get? "edges" = some (writeEdges flow.edges) from rfl,
      Option.map_some, writeEdges_kept hedges]
  settled := by
    have hget : flow.document.get? "nodes" = some (writeNodes flow.nodes) := rfl
    exact settled_of_storable hnodes (Value.hereditary_isStorable.get? hstorable hget)
  json := hedges

/-- The document of a flow that is changed. -/
theorem merge {fields : Fields} {nodes : List Node} {edges : List Edge}
    (h : fields.HoldsData nodes edges) {name : Option String} {nodes' : Option (List Node)}
    {edges' : Option (List Edge)} {now : Moment}
    (hnodes : ∀ ns ∈ nodes', ∀ n ∈ ns, n.IsOf Value.IsJson)
    (hedges : ∀ es ∈ edges', ∀ e ∈ es, e.IsOf Value.IsJson)
    (hstorable : (Value.record ((revisedFields name nodes' edges').insert "updated_at"
      (.date now))).IsStorable) :
    Fields.HoldsData (fields.merge (Value.keptFields
      ((revisedFields name nodes' edges').insert "updated_at" (.date now))))
      ((nodes'.map (List.map (Node.mapDates Moment.kept))).getD nodes) (edges'.getD edges) := by
  obtain ⟨-, hnodes', hedges', -⟩ := HoldsFlow.get?_merge_revised fields name nodes' edges' now
  -- what a change does not provide stays, and what it provides is kept as new data is
  refine ⟨?_, ?_, ?_, ?_⟩
  · rw [hnodes']
    cases nodes' with
    | none => exact h.getNodes
    | some ns => exact congrArg some (writeNodes_kept (hnodes ns rfl))
  · rw [hedges']
    cases edges' with
    | none => exact h.getEdges
    | some es => exact congrArg some (writeEdges_kept (hedges es rfl))
  · cases nodes' with
    | none => exact h.settled
    | some ns =>
      have hget : Fields.get? ((revisedFields name (some ns) edges').insert "updated_at"
          (.date now)) "nodes" = some (writeNodes ns) := by
        cases name <;> cases edges' <;>
          simp [revisedFields, Fields.insert, get?_cons]
      exact settled_of_storable (hnodes ns rfl) (Value.hereditary_isStorable.get? hstorable hget)
  · cases edges' with
    | none => exact h.json
    | some es => exact hedges es rfl

end Fields.HoldsData

/-! ## Queries -/

/-- A request that leaves the saved flows alone, deletes one, or makes or changes one with data that
was read of JSON. -/
inductive Request.WritesJson : Request → Prop
  | spares {r : Request} (h : r.SparesFlows) : WritesJson r
  | deletes (oid : ObjectId) : WritesJson (.query (.delete .flows oid))
  | makes {flow : Flow} (hnodes : ∀ n ∈ flow.nodes, n.IsOf Value.IsJson)
      (hedges : ∀ e ∈ flow.edges, e.IsOf Value.IsJson) :
      WritesJson (.query (.insert .flows flow.document))
  | changes (oid : ObjectId) (name : Option String) {nodes : Option (List Node)}
      {edges : Option (List Edge)} (now : Moment)
      (hnodes : ∀ ns ∈ nodes, ∀ n ∈ ns, n.IsOf Value.IsJson)
      (hedges : ∀ es ∈ edges, ∀ e ∈ es, e.IsOf Value.IsJson) :
      WritesJson (.query (.change .flows oid
        ((revisedFields name nodes edges).insert "updated_at" (.date now))))

theorem writesJson_searches : Request.Searches Request.WritesJson where
  quiet _ h := .spares h.sparesFlows
  findFlow _ := .spares trivial
  findOne _ _ := .spares trivial
  find _ _ _ := .spares trivial

namespace Store

variable {s s' : Store}

/-- A document is made of what the store can keep. -/
theorem storable_of_insert {c : Collection} {fields : Fields} {y : Option ObjectId}
    (h : s.answer (.insert c fields) = .ok (y, s')) : (Value.record fields).IsStorable := by
  simp only [answer] at h
  split at h
  · cases h
  · rename_i kept hkept
    exact ⟨.record kept, Value.stored?_record hkept⟩

/-- A document is changed to what the store can keep. -/
theorem storable_of_change {c : Collection} {oid : ObjectId} {changes : Fields}
    {y : Option Document} (h : s.answer (.change c oid changes) = .ok (y, s')) :
    (Value.record changes).IsStorable := by
  simp only [answer] at h
  split at h
  · cases h
  · rename_i kept hkept
    exact ⟨.record kept, Value.stored?_record hkept⟩

/-- A request that spares the saved flows leaves them as they are. -/
theorem flows_of_spares {q : Query} {y : q.Answer} (hq : (Request.query q).SparesFlows)
    (hy : s.answer q = .ok (y, s')) : s'.flows = s.flows := by
  have hbecomes := Store.answer_shelf .flows hy
  cases hbecomes with
  | same heq => exact heq
  | inserted fields heq hinsert =>
    subst hinsert
    exact hq.elim
  | changed oid changes heq hset => rcases hset with rfl | rfl <;> exact hq.elim
  | deleted oid heq hdelete =>
    subst hdelete
    exact hq.elim

/-- Such requests keep the data of the saved flows settled. -/
theorem holdsData_of_writesJson {q : Query} {y : q.Answer} (hq : (Request.query q).WritesJson)
    (hy : s.answer q = .ok (y, s')) (h : s.flows.HoldsData) : s'.flows.HoldsData := by
  cases hq with
  | spares hspares =>
    rw [flows_of_spares hspares hy]
    exact h
  | deletes oid =>
    cases hy
    exact fun d hd => h d (List.mem_filter.1 hd).1
  | makes hnodes hedges =>
    have hstorable := storable_of_insert hy
    obtain ⟨-, rfl⟩ := answer_insert hy
    intro d hd
    rcases List.mem_append.1 hd with hd | hd
    · exact h d hd
    · rw [List.mem_singleton.1 hd]
      exact ⟨_, _, .of_document hnodes hedges hstorable⟩
  | changes oid name now hnodes hedges =>
    have hstorable := storable_of_change hy
    obtain rfl := answer_change hy
    intro d' hd'
    obtain ⟨d, hd, -, ⟨-, rfl⟩ | ⟨-, rfl⟩⟩ := Shelf.mem_change hd'
    · obtain ⟨nodes', edges', hdata⟩ := h d hd
      exact ⟨_, _, hdata.merge hnodes hedges hstorable⟩
    · exact h d' hd

end Store

/-- What every query of a kind keeps of the store, requests of that kind keep of a world. -/
theorem World.keeps_store {kind : Request → Prop} {P : Store → Prop}
    (hquery : ∀ {s s' : Store} {q : Query} {y : q.Answer}, kind (.query q) →
      s.answer q = .ok (y, s') → P s → P s') :
    World.setting.Keeps kind fun w => w.Raises ∧ P w.database.store := by
  refine World.setting_keeps fun w r hr ⟨hw, hP⟩ => ?_
  -- only a query can change the store, and only if it does not raise an error
  by_cases hisQuery : ∃ q, r = .query q
  · obtain ⟨q, rfl⟩ := hisQuery
    obtain ⟨hraises, ⟨y, hy, -⟩ | ⟨-, hstore⟩⟩ := hw.query q
    · exact ⟨hraises, hquery hr hy hP⟩
    · refine ⟨hraises, ?_⟩
      rw [hstore]
      exact hP
  · obtain ⟨hraises, hstore⟩ := hw.answer r fun q hq => hisQuery ⟨q, hq⟩
    refine ⟨hraises, ?_⟩
    rw [hstore]
    exact hP

/-! ## Calls -/

variable {α β : Type} {kind : Request → Prop}

theorem Program.Asks.ensuring {p : Program α} {last : Program Unit} (h : p.Asks kind)
    (hlast : last.Asks kind) : (p.ensuring last).Asks kind := by
  induction p with
  | done a => exact hlast.bind fun _ => trivial
  | failed f => exact hlast.bind fun _ => trivial
  | cancelled => exact hlast.bind fun _ => trivial
  | ask r next ih => exact ⟨h.1, fun x => ih x (h.2 x)⟩

theorem Program.Asks.writesJson {p : Program α} (h : p.Asks Request.SparesFlows) :
    p.Asks Request.WritesJson :=
  h.mono fun _ => .spares

/-- What is read of JSON as a revision has nodes and edges that were read of JSON. -/
theorem Revision.isOf_read {v : Value} {r : Revision} (hv : v.IsJson) (h : read v = .ok r) :
    (∀ ns ∈ r.nodes, ∀ n ∈ ns, n.IsOf Value.IsJson) ∧
      ∀ es ∈ r.edges, ∀ e ∈ es, e.IsOf Value.IsJson := by
  have hlist : ∀ {γ : Type} {readItem : Reader γ} {fields : Fields} {name : String}
      {xs : Option (List γ)} {P : γ → Prop}, (Value.record fields).IsJson →
      Reader.optionalField name (Reader.list readItem) fields = .ok xs →
      (∀ v x, v.IsJson → readItem v = .ok x → P x) → ∀ ys ∈ xs, ∀ x ∈ ys, P x := by
    rintro γ readItem fields name xs P hfields hread hitem ys rfl
    rcases Reader.withDefault_eq_ok.1 hread with ⟨-, hnone⟩ | ⟨v, hget, hread⟩
    · cases hnone
    · have hv := Value.hereditary_isJson.get? hfields hget
      cases v with
      | list items =>
        obtain ⟨zs, hzs, heq⟩ := Checked.map_eq_ok.1 hread
        cases heq
        exact Reader.list_forall Value.hereditary_isJson hv hzs hitem
      | _ => cases hread
  obtain ⟨fields, rfl, hread⟩ := Reader.record_eq_ok.1 h
  simp only [Checked.seq_eq_ok, Checked.map_eq_ok] at hread
  obtain ⟨_, ⟨_, ⟨name, -, rfl⟩, nodes, hnodes, rfl⟩, edges, hedges, rfl⟩ := hread
  exact ⟨hlist hv hnodes fun _ _ => Node.isOf_read Value.hereditary_isJson,
    hlist hv hedges fun _ _ => Edge.isOf_read Value.hereditary_isJson⟩

namespace Request.Reads

open Http.Service

variable (h : Request.Reads kind)
include h

theorem asks_told (e : Journal.Entry) : (Program.report e).Asks kind :=
  (asks_report e).mono h.quiet

/-- The answer to work adds nothing but reports. -/
theorem asks_perform {work : Program α} (hwork : work.Asks kind) (part : String)
    (activity : Activity) (write : α → Except ReplyDefect Value) (status : Nat) :
    (perform part activity work write status).Asks kind := by
  refine hwork.attempt.bind fun x => ?_
  match x with
  | .ok a => trivial
  | .error f =>
    refine (h.asks_told _).bind fun _ => ?_
    exact (h.asks_told _).bind fun _ => trivial

/-- What is done with a body is done with what was read of it. -/
theorem asks_withBody {read : Reader α} {word : Issue → String} {work : α → Program Http.Outcome}
    {body : Option Value} (hwork : ∀ v ∈ body, ∀ a, read v = .ok a → (work a).Asks kind) :
    (withBody body read word work).Asks kind := by
  unfold withBody
  cases hfields : bodyFields body with
  | error reply => trivial
  | ok fields =>
    have hbody : body = some (.record fields) := by
      unfold bodyFields at hfields
      split at hfields <;> cases hfields
      rfl
    cases hread : read (.record fields) with
    | ok a =>
      simp only [hread]
      exact hwork _ hbody a hread
    | refused issues =>
      simp only [hread]
      exact (h.asks_told _).bind fun _ => trivial

/-- The answer to a call adds nothing but reports to that of its route. -/
theorem asks_handle (allowed : String) {call : Http.Call}
    (hserve : ∀ r, Http.direct call.method (Http.Target.path call.target) = .to r →
      (serve call.body r).Asks kind) : (handle allowed call).Asks kind := by
  have hreplace : ∀ d, (replace d).Asks kind := fun d => (h.asks_told _).bind fun _ => trivial
  have hroute : (route call).Asks kind := by
    unfold route
    cases hdirect : Http.direct call.method (Http.Target.path call.target) with
    | «to» r => exact hserve r hdirect
    | otherMethod => trivial
    | elsewhere path => trivial
    | nowhere => trivial
  refine hroute.bind fun x => ?_
  match x with
  | .error d => exact (hreplace d).bind fun _ => trivial
  | .ok reply =>
    dsimp only
    split
    · trivial
    · exact (hreplace .notFinite).bind fun _ => trivial

end Request.Reads

namespace Http.Service

/-- The answer to a route makes or changes a flow with what was read of the body, deletes a flow or
starts a run, and otherwise it only looks. -/
theorem asks_serve_of (h : Request.Searches kind) {body : Option Value}
    (hcreate : ∀ v ∈ body, ∀ draft, Draft.read v = .ok draft → ∀ name now,
      kind (.query (.insert .flows
        (Flow.document ⟨none, name, draft.nodes, draft.edges, some now, some now⟩))))
    (hupdate : ∀ v ∈ body, ∀ revision, Revision.read v = .ok revision →
      ∀ (oid : ObjectId) (name : Option String) (now : Moment),
        kind (.query (.change .flows oid ((revisedFields name revision.nodes revision.edges).insert
          "updated_at" (.date now)))))
    (hdelete : ∀ oid, kind (.query (.delete .flows oid)))
    (hstart : ∀ id recipient, (RunDesk.start id recipient).Asks kind) (route : Route) :
    (serve body route).Asks kind := by
  cases route with
  | createFlow =>
    exact h.asks_withBody fun v hv draft hread =>
      h.asks_perform (h.asks_create (hcreate v hv draft hread)) ..
  | updateFlow id =>
    exact h.asks_withBody fun v hv revision hread =>
      h.asks_perform (h.asks_update id (hupdate v hv revision hread)) ..
  | deleteFlow id => exact h.asks_perform (h.asks_delete hdelete id) ..
  | validateFlow =>
    refine h.asks_withBody fun v hv draft hread => h.asks_perform ?_ ..
    exact (asks_validate draft).mono h.quiet
  | startRun id =>
    exact h.asks_withBody fun v hv recipient hread => h.asks_perform (hstart id recipient) ..
  | listFlows => exact h.asks_perform (h.asks_foreseen _ _ h.asks_getFlows) ..
  | flow id => exact h.asks_perform (h.asks_foreseen _ _ (h.asks_existing id)) ..
  | run id => exact h.asks_perform (h.asks_runDetail id) ..
  | runsOfFlow id => exact h.asks_perform (h.asks_getTestRunsByFlow id) ..
  | audit id => exact h.asks_perform (h.asks_getAuditEntries id) ..
  | overview id => exact h.asks_perform (h.asks_overview id) ..
  | health => trivial
  | page => trivial

theorem asks_serve {body : Option Value} (hbody : ∀ v ∈ body, v.IsJson) (route : Route) :
    (serve body route).Asks Request.WritesJson := by
  refine asks_serve_of writesJson_searches ?_ ?_ .deletes ?_ route
  · intro v hv draft hread name now
    have hparts := Draft.isOf_read Value.hereditary_isJson (hbody v hv) hread
    exact .makes hparts.nodes hparts.edges
  · intro v hv revision hread oid name now
    obtain ⟨hnodes, hedges⟩ := Revision.isOf_read (hbody v hv) hread
    exact .changes oid name now hnodes hedges
  · exact fun id recipient => (asks_start id recipient).writesJson

/-- A call asks the store to write nothing but what was read of its body. -/
theorem asks_handle (allowed : String) {call : Call} (hbody : ∀ v ∈ call.body, v.IsJson) :
    (handle allowed call).Asks Request.WritesJson :=
  writesJson_searches.asks_handle allowed fun route _ => asks_serve hbody route

end Http.Service

/-! ## The import -/

namespace Script

/-- The sample has no extras and waits for no date. -/
theorem isOf_sampleFlow (now : Moment) : (∀ n ∈ (sampleFlow now).nodes, n.IsOf Value.IsJson) ∧
    ∀ e ∈ (sampleFlow now).edges, e.IsOf Value.IsJson := by
  have hnone : ∀ declared, Fields.AreExtras Value.IsJson declared [] := fun _ => ⟨nofun, rfl⟩
  constructor
  · intro n hn
    simp only [sampleFlow, List.mem_cons, List.not_mem_nil, or_false] at hn
    rcases hn with rfl | rfl | rfl | rfl
    · exact ⟨hnone _, hnone _⟩
    · exact ⟨hnone _, hnone _⟩
    · refine ⟨hnone _, ?_, hnone _⟩
      intro r hr
      rw [List.mem_singleton.1 hr]
      exact hnone _
    · exact ⟨hnone _, hnone _⟩
  · intro e he
    simp only [sampleFlow, List.mem_cons, List.not_mem_nil, or_false] at he
    rcases he with rfl | rfl | rfl | rfl <;> exact hnone _

/-- A script says how it ended, and adds nothing else to its work. -/
theorem asks_asScript (hterminal : ∀ r, r.IsOfTerminal → kind r) {p : Program Unit}
    (hp : p.Asks kind) : (asScript p).Asks kind := by
  refine hp.attempt.bind fun x => ?_
  cases x <;> exact ⟨hterminal _ trivial, fun _ => trivial⟩

section Sample

variable (h : Request.Reads kind) (hterminal : ∀ r, r.IsOfTerminal → kind r)
  (hsample : ∀ now, kind (.query (.insert .flows (sampleFlow now).document)))
include h hterminal hsample

theorem asks_importOnce : importOnce.Asks kind := by
  refine ⟨h.quiet _ trivial, fun now => ?_⟩
  refine (asks_reportAll (fun _ => h.quiet _ trivial) _).bind fun _ => ?_
  refine (h.asks_getFlowByName _ none).bind fun found => ?_
  cases found with
  | none =>
    refine (h.asks_createFlow (hsample now)).bind fun saved => ?_
    refine (h.asks_told _).bind fun _ => ?_
    exact (asks_sayAll _).mono hterminal
  | some existing =>
    exact (h.asks_told _).bind fun _ => ⟨hterminal _ trivial, fun _ => trivial⟩

/-- The import asks the store to write nothing but the sample. -/
theorem asks_importSample : importSample.Asks kind := by
  have honce : importOnce.Asks kind := asks_importOnce h hterminal hsample
  refine asks_asScript hterminal (Asks.ensuring (honce.attempt.bind fun x => ?_)
    (asks_close.mono hterminal))
  cases x with
  | ok a => trivial
  | error failure => exact (h.asks_told _).bind fun _ => trivial

end Sample

end Script

/-! ## Turns -/

/-- A turn whose body, if it has one, is JSON, and whose faults raise errors. -/
structure Turn.IsJson (t : Turn) : Prop where
  body : ∀ c, t.errand = .call c → ∀ v ∈ c.body, v.IsJson
  raises : ∀ f ∈ t.faults, f.Raises

namespace World

variable {w : World}

/-- A turn keeps the data of the saved flows settled. -/
theorem take_holdsData (hw : w.database.store.flows.HoldsData) {t : Turn} (ht : t.IsJson) :
    (w.take t).2.database.store.flows.HoldsData := by
  have hkeeps := keeps_store Store.holdsData_of_writesJson
  unfold take
  cases herrand : t.errand with
  | call c =>
    have hasks := Http.Service.asks_handle (w.atTurn t).settings.allowedOrigins (ht.body c herrand)
    have hbefore : (w.atTurn t).Raises ∧ (w.atTurn t).database.store.flows.HoldsData :=
      ⟨ht.raises, hw⟩
    exact (perform_upholds (hasks.keeps hkeeps hbefore)).2
  | importSample =>
    dsimp only
    rw [database_runScript]
    have hbefore : (w.atTurn t).forScript.Raises ∧
        (w.atTurn t).forScript.database.store.flows.HoldsData := ⟨ht.raises, hw⟩
    have hasks := Script.asks_importSample writesJson_searches.toReads
      (fun _ h => .spares h.sparesFlows) fun now =>
        have hsample := Script.isOf_sampleFlow now
        .makes hsample.1 hsample.2
    exact (perform_upholds (hasks.keeps hkeeps hbefore)).2

/-- Starting without flows, every flow that is saved after any turns has settled data. -/
theorem saved_flows_hold_data (hw : w.database.store.flows.HoldsData) (turns : List Turn)
    (hturns : ∀ t ∈ turns, t.IsJson) : (w.takeAll turns).2.database.store.flows.HoldsData := by
  -- turn by turn, each from the world that the one before has left
  induction turns generalizing w with
  | nil => exact hw
  | cons t rest ih =>
    exact ih (take_holdsData hw (hturns t List.mem_cons_self)) fun t' ht' =>
      hturns t' (List.mem_cons_of_mem _ ht')

end World

end Automation
