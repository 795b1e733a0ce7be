import Automation.Proofs.Flow.Carried
import Automation.Proofs.Http.Paths
import Automation.Proofs.Program.Alike
import Automation.Proofs.Service.Filed
import Automation.Proofs.Service.Saving

/-!
# Spellings of an id

An id can be spelled in several ways, for its digits may be written in either case. Whatever has
happened before, two calls that differ only in the spelling of an id in their paths get the same
reply, and leave the same world but for what the journal says, with the exception of two lists: that
of the runs of a flow and that of the audit of a run. Of these one spelling, the written form, gives
all that was recorded for the id, and every other spelling gives nothing (`Crowd.spellings_agree`).
The difference is between routes that look for a document with an id and routes that look for
documents which name an id by a text.
-/

set_option autoImplicit false

namespace Automation

open Program
open World (Outcome)

/-! ## Routes that look for a document with an id -/

section Congr

variable {id id' : String} (hid : ObjectId.ofText? id = ObjectId.ofText? id')
include hid

theorem existing_congr : Editor.existing id = Editor.existing id' := by
  unfold Editor.existing Repository.getFlow
  rw [hid]

theorem runDetail_congr : RunDesk.detail id = RunDesk.detail id' := by
  unfold RunDesk.detail Repository.getTestRun
  rw [hid]

/-- A flow is passed over in a search for its name, however its id is spelled. -/
theorem nameChange_congr (given : Option String) :
    Editor.nameChange id given = Editor.nameChange id' given := by
  have hfree : ∀ name, Editor.requireFreeName name (some id) =
      Editor.requireFreeName name (some id') := by
    intro name
    unfold Editor.requireFreeName
    rw [Repository.getFlowByName_eq, Repository.getFlowByName_eq, Repository.nameFilter,
      Repository.nameFilter, Option.bind_some, Option.bind_some, hid]
  unfold Editor.nameChange
  simp only [hfree]

/-- Changes of a flow are written under its id, and told with its spelling. -/
theorem writeChanges_alike (flow : Flow) (changes : Fields) :
    (Editor.writeChanges id flow changes).Alike (Editor.writeChanges id' flow changes) := by
  have hupdate : Repository.updateFlow id changes = Repository.updateFlow id' changes := by
    unfold Repository.updateFlow
    rw [hid]
  cases changes with
  | nil => exact .refl _
  | cons change rest =>
    refine Alike.bind (.of_eq hupdate) fun saved => ?_
    cases saved with
    | none => exact .refl _
    | some saved => exact Alike.bind (.report _ _) fun _ => .refl _

theorem update_alike (revision : Revision) :
    (Editor.update id revision).Alike (Editor.update id' revision) := by
  rw [Editor.update_eq, Editor.update_eq, existing_congr hid, nameChange_congr hid]
  refine Alike.bind (Alike.attempt (.bind_left _ fun flow => .bind_left _ fun name =>
    .bind_left _ fun nodes => ?_)) fun _ => .refl _
  exact writeChanges_alike hid _ _

theorem delete_alike : (Editor.delete id).Alike (Editor.delete id') := by
  have hdelete : Repository.deleteFlow id = Repository.deleteFlow id' := by
    unfold Repository.deleteFlow
    rw [hid]
  unfold Editor.delete
  rw [existing_congr hid, hdelete]
  refine Alike.bind (Alike.attempt (.bind_left _ fun flow => .bind_left _ fun deleted => ?_))
    fun _ => .refl _
  cases deleted with
  | false => exact .refl _
  | true => exact .report _ _

end Congr

namespace Http

/-- Routes that differ at most in the spelling of an id, but not two lists for different ids. -/
inductive Route.Respells : Route → Route → Prop
  | same (route : Route) : Respells route route
  | flow {id id' : String} (hid : ObjectId.ofText? id = ObjectId.ofText? id') :
      Respells (.flow id) (.flow id')
  | updateFlow {id id' : String} (hid : ObjectId.ofText? id = ObjectId.ofText? id') :
      Respells (.updateFlow id) (.updateFlow id')
  | deleteFlow {id id' : String} (hid : ObjectId.ofText? id = ObjectId.ofText? id') :
      Respells (.deleteFlow id) (.deleteFlow id')
  | startRun {id id' : String} (hid : ObjectId.ofText? id = ObjectId.ofText? id') :
      Respells (.startRun id) (.startRun id')
  | run {id id' : String} (hid : ObjectId.ofText? id = ObjectId.ofText? id') :
      Respells (.run id) (.run id')
  | overview {id id' : String} (hid : ObjectId.ofText? id = ObjectId.ofText? id') :
      Respells (.overview id) (.overview id')

theorem Entry.respells {e : Entry} (he : e ∈ entries) (hruns : e.pattern ≠ runsEntry.pattern)
    (haudit : e.pattern ≠ auditEntry.pattern) {id id' : String}
    (hid : ObjectId.ofText? id = ObjectId.ofText? id') : (e.route id).Respells (e.route id') := by
  simp only [entries, List.mem_cons, List.not_mem_nil, or_false] at he
  rcases he with rfl | rfl | rfl | rfl | rfl | rfl | rfl | rfl | rfl | rfl | rfl | rfl | rfl | rfl |
    rfl | rfl
  -- the two lists are ruled out by their patterns
  all_goals
    first
      | exact .same _
      | exact .flow hid
      | exact .updateFlow hid
      | exact .deleteFlow hid
      | exact .startRun hid
      | exact .run hid
      | exact .overview hid
      | exact absurd rfl hruns
      | exact absurd rfl haudit

namespace Service

variable {α : Type}

theorem perform_alike {work work' : Program α} (h : work.Alike work') (part : String)
    (activity : Activity) (write : α → Except ReplyDefect Value) (status : Nat) :
    (perform part activity work write status).Alike (perform part activity work' write status) :=
  Alike.bind h.attempt fun _ => .refl _

theorem withBody_alike {read : Reader α} {word : Issue → String}
    {work work' : α → Program Http.Outcome} (body : Option Value)
    (h : ∀ a, (work a).Alike (work' a)) :
    (withBody body read word work).Alike (withBody body read word work') := by
  unfold withBody
  cases bodyFields body with
  | error reply => exact .refl _
  | ok fields =>
    cases hread : read (.record fields) with
    | ok a =>
      simp only [hread]
      exact h a
    | refused issues =>
      simp only [hread]
      exact .refl _

/-- The answers to a route for two spellings of an id differ in their reports alone. -/
theorem serve_alike {route route' : Route} (h : route.Respells route') (body : Option Value) :
    (serve body route).Alike (serve body route') := by
  cases h with
  | same => exact .refl _
  | flow hid =>
    refine perform_alike (.of_eq ?_) ..
    unfold Editor.detail
    rw [existing_congr hid]
  | updateFlow hid =>
    exact withBody_alike body fun revision => perform_alike (update_alike hid revision) ..
  | deleteFlow hid => exact perform_alike (delete_alike hid) ..
  | startRun hid =>
    refine withBody_alike body fun recipient => perform_alike (.of_eq ?_) ..
    unfold RunDesk.start
    rw [existing_congr hid]
  | run hid => exact perform_alike (.of_eq (runDetail_congr hid)) ..
  | overview hid =>
    refine perform_alike (.of_eq ?_) ..
    unfold RunDesk.overview
    rw [runDetail_congr hid]

end Service

/-! ## Calls -/

/-- Calls for the path of an entry that differ at most in the spelling of the id in it. -/
structure Call.Respells (first second : Call) (e : Entry) (id id' : String) : Prop where
  method : second.method = first.method
  body : second.body = first.body
  origin : second.origin = first.origin
  firstPath : Target.path first.target = e.path id
  secondPath : Target.path second.target = e.path id'

/-- A call for one of the two lists. -/
def Call.IsForList (call : Call) (e : Entry) : Prop :=
  call.method = "GET" ∧ (e.pattern = runsEntry.pattern ∨ e.pattern = auditEntry.pattern)

theorem methods_of_list : ∀ e ∈ entries,
    e.pattern = runsEntry.pattern ∨ e.pattern = auditEntry.pattern → e.methods = ["GET"] := by
  decide

namespace Service

variable {first second : Call} {e : Entry} {id id' : String} {oid : ObjectId}

/-- The answers to calls that differ in the spelling of an id differ in their reports alone, if the
calls are not for one of the two lists. -/
theorem handle_alike (allowed : String) (he : e ∈ entries) (hpattern : Segment.id ∈ e.pattern)
    (h : first.Respells second e id id') (hlist : ¬ first.IsForList e)
    (hid : ObjectId.ofText? id = some oid) (hid' : ObjectId.ofText? id' = some oid) :
    (handle allowed first).Alike (handle allowed second) := by
  have hroute : (route first).Alike (route second) := by
    unfold route
    rw [h.method, h.body, h.firstPath, h.secondPath, direct_path he hpattern hid,
      direct_path he hpattern hid']
    cases hfound : entries.find? fun e' =>
        e'.methods.contains first.method && e'.pattern == e.pattern with
    | none => exact .refl _
    | some e' =>
      -- the entry that is found has the pattern of the path, and is none of the lists either
      have he' := List.mem_of_find?_eq_some hfound
      obtain ⟨hmethod, hpattern'⟩ : e'.methods.contains first.method = true ∧
          e'.pattern = e.pattern := by simpa using List.find?_some hfound
      have hnone : ¬ (e'.pattern = runsEntry.pattern ∨ e'.pattern = auditEntry.pattern) := by
        intro hlisted
        rw [methods_of_list e' he' hlisted] at hmethod
        exact hlist ⟨by simpa using hmethod, hpattern' ▸ hlisted⟩
      rw [not_or] at hnone
      exact serve_alike (e'.respells he' hnone.1 hnone.2 (hid.trans hid'.symm)) first.body
  refine Alike.bind hroute fun outcome => .of_eq ?_
  cases outcome <;> simp only [trimmed, h.method, h.origin]

end Service

end Http

/-! ## The two lists -/

theorem TestRun.isFinite_write (run : TestRun) : Json.isFinite run.write = true := by
  cases hsummary : run.summary <;>
    simp [write, document, Summary.write, Json.isFinite, Json.fieldsFinite, hsummary]

theorem AuditEntry.isFinite_write (entry : AuditEntry) : Json.isFinite entry.write = true := by
  simp [write, document, Json.isFinite, Json.fieldsFinite]

theorem Value.isFinite_list {α : Type} {write : α → Value}
    (h : ∀ a, Json.isFinite (write a) = true) (items : List α) :
    Json.isFinite (.list (items.map write)) = true := by
  rw [Json.isFinite, allFinite_iff]
  exact List.forall_mem_map.2 fun a _ => h a

namespace World

variable {α : Type} {w : World} {call : Http.Call}

/-- A call is answered with a body, and the store stays as it is. -/
def Answers (w : World) (call : Http.Call) (body : Value) : Prop :=
  ∃ reply, (w.call call).1 = .done reply ∧ reply.status = 200 ∧ reply.body = body ∧
    (w.call call).2.database.store = w.database.store

/-- Work that ends with a value and leaves the store as it is answers a call with the value. -/
theorem answers_of_work {route : Http.Route} {part : String} {activity : Activity}
    {work : Program α} (write : α → Value) {a : α}
    (hto : Http.direct call.method (Http.Target.path call.target) = .to route)
    (hhead : call.method ≠ "HEAD")
    (hserve : Http.Service.serve call.body route =
      Http.Service.perform part activity work (Http.Service.plainly write) 200)
    (hwork : work.Upholds setting w fun w' o => o = .done a ∧ w'.Holds w.database.store)
    (hfinite : Json.isFinite (write a) = true) : w.Answers call (write a).forReply := by
  have hroute : (Http.Service.route call).Upholds setting w fun w' o =>
      o = .done (.ok (Http.Reply.of 200 (write a).forReply)) ∧ w'.Holds w.database.store := by
    rw [Http.Service.route, hto]
    dsimp only
    rw [hserve]
    exact hwork.attempt_eq.bind_eq fun w' hw' => ⟨rfl, hw'⟩
  have hhandle : (Http.Service.handle w.settings.allowedOrigins call).Upholds setting w fun w' o =>
      (∃ reply, o = .done reply ∧ reply.status = 200 ∧ reply.body = (write a).forReply) ∧
        w'.Holds w.database.store := by
    refine hroute.bind_eq fun w' hw' => ?_
    have hsent : Json.isFinite (Http.Reply.of 200 (write a).forReply).body = true :=
      (Value.isFinite_forReply _).trans hfinite
    dsimp only
    rw [if_pos hsent]
    refine ⟨⟨_, rfl, ?_⟩, hw'⟩
    rw [Http.Service.trimmed, if_neg hhead]
    exact ⟨rfl, rfl⟩
  obtain ⟨⟨reply, hreply, hstatus, hbody⟩, hafter⟩ := perform_upholds hhandle
  exact ⟨reply, hreply, hstatus, hbody, hafter.store⟩

end World

namespace Store

variable {s : Store} {oid : ObjectId} {id : String}

/-- What is listed of the runs of a flow for a spelling of its id: all that is recorded for the
flow, or nothing if the spelling is not the written form. -/
def listedRuns (s : Store) (oid : ObjectId) (id : String) : List Document :=
  if id = oid.text then s.runsFor oid else []

/-- What is listed of the audit of a run for a spelling of its id: all that is recorded for the run,
or nothing if the spelling is not the written form. -/
def listedEntries (s : Store) (oid : ObjectId) (id : String) : List Document :=
  if id = oid.text then s.entriesFor oid else []

theorem IsFiled.exists_listedRuns (h : s.IsFiled) (oid : ObjectId) (id : String) :
    ∃ runs, List.Forall₂ Document.Records (s.listedRuns oid id) runs := by
  unfold listedRuns
  split
  · exact h.exists_runs oid
  · exact ⟨[], .nil⟩

theorem IsFiled.exists_listedEntries (h : s.IsFiled) (oid : ObjectId) (id : String) :
    ∃ entries, List.Forall₂ Document.Notes (s.listedEntries oid id) entries := by
  unfold listedEntries
  split
  · exact h.exists_entries oid
  · exact ⟨[], .nil⟩

end Store

namespace World

variable {w : World} {call : Http.Call} {oid : ObjectId} {id : String}

/-- The runs of a flow are listed in a store that works. -/
theorem IsFiled.answers_runs (h : w.IsFiled) (hworks : w.database.faults = [])
    (hid : ObjectId.ofText? id = some oid) (hmethod : call.method = "GET")
    (hpath : Http.Target.path call.target = Http.runsEntry.path id) :
    ∃ runs, List.Forall₂ Document.Records (w.database.store.listedRuns oid id) runs ∧
      w.Answers call (Value.list (runs.map TestRun.write)).forReply := by
  obtain ⟨runs, hruns⟩ := h.store.exists_listedRuns oid id
  have hto : Http.direct call.method (Http.Target.path call.target) = .to (.runsOfFlow id) := by
    rw [hmethod, hpath,
      Http.direct_path Http.runsEntry_mem (by simp [Http.runsEntry]) hid]
    rfl
  have hhead : call.method ≠ "HEAD" := by
    rw [hmethod]
    decide
  have hread : ∀ now, Repository.readAll (Repository.testRunOf now)
      (Order.arrange (w.database.store.testRuns.find [.textIs "flow_id" id])
        (.newestFirst "created_at")) = .ok runs := by
    intro now
    rw [h.store.find_runs hid]
    exact readAll_eq_ok_iff.2 (hruns.imp fun d run hrecords => hrecords.testRunOf now)
  exact ⟨runs, hruns, answers_of_work (fun runs => .list (runs.map TestRun.write)) hto hhead rfl
    (getTestRunsByFlow_upholds (holds_of_faults_nil hworks) hread)
    (Value.isFinite_list TestRun.isFinite_write runs)⟩

/-- The audit of a run is listed in a store that works. -/
theorem IsFiled.answers_entries (h : w.IsFiled) (hworks : w.database.faults = [])
    (hid : ObjectId.ofText? id = some oid) (hmethod : call.method = "GET")
    (hpath : Http.Target.path call.target = Http.auditEntry.path id) :
    ∃ entries, List.Forall₂ Document.Notes (w.database.store.listedEntries oid id) entries ∧
      w.Answers call (Value.list (entries.map AuditEntry.write)).forReply := by
  obtain ⟨entries, hentries⟩ := h.store.exists_listedEntries oid id
  have hto : Http.direct call.method (Http.Target.path call.target) = .to (.audit id) := by
    rw [hmethod, hpath,
      Http.direct_path Http.auditEntry_mem (by simp [Http.auditEntry]) hid]
    rfl
  have hhead : call.method ≠ "HEAD" := by
    rw [hmethod]
    decide
  have hread : ∀ now, Repository.readAll (Repository.auditEntryOf now)
      (Order.arrange (w.database.store.executionLogs.find [.textIs "test_run_id" id])
        (.oldestThenId "started_at")) = .ok entries := by
    intro now
    rw [h.store.find_entries hid]
    exact readAll_eq_ok_iff.2 (hentries.imp fun d entry hnotes => hnotes.auditEntryOf now)
  exact ⟨entries, hentries, answers_of_work (fun entries => .list (entries.map AuditEntry.write))
    hto hhead rfl (getAuditEntries_upholds (holds_of_faults_nil hworks) hread)
    (Value.isFinite_list AuditEntry.isFinite_write entries)⟩

end World

/-! ## Any spelling, at any time -/

namespace Crowd

variable {ι : Type} [DecidableEq ι]

/-- Starting without records and tasks, however many calls are being answered and whatever else has
happened: two spellings of an id get the same reply on every route but two, and leave the same world
but for what the journal says. The exceptions are the lists of the runs of a flow and of the audit
of a run, when the store works: the written form of the id gives all that is recorded for it, and
any other spelling gives an empty list. -/
theorem spellings_agree (allowed : String) (calls : ι → Http.Call) {w : World}
    (hruns : w.database.store.testRuns.documents = [])
    (hentries : w.database.store.executionLogs.documents = []) (htasks : w.tasks = [])
    {c : Crowd ι Http.Reply}
    (hreaches : Reaches World.Passes
      (gathered (fun i => Http.Service.handle allowed (calls i)) w) c)
    {id id' : String} {oid : ObjectId} (hid : ObjectId.ofText? id = some oid)
    (hid' : ObjectId.ofText? id' = some oid) :
    (∀ e ∈ Http.entries, Http.Segment.id ∈ e.pattern → ∀ first second : Http.Call,
      first.Respells second e id id' → ¬ first.IsForList e →
        (c.world.call first).1 = (c.world.call second).1 ∧
          (c.world.call first).2.unheard = (c.world.call second).2.unheard) ∧
    (∀ call : Http.Call, call.method = "GET" →
      Http.Target.path call.target = Http.runsEntry.path id →
        ∃ runs, List.Forall₂ Document.Records (c.world.database.store.listedRuns oid id) runs ∧
          (c.world.withFaults []).Answers call (Value.list (runs.map TestRun.write)).forReply) ∧
    ∀ call : Http.Call, call.method = "GET" →
      Http.Target.path call.target = Http.auditEntry.path id →
        ∃ entries, List.Forall₂ Document.Notes (c.world.database.store.listedEntries oid id)
            entries ∧
          (c.world.withFaults []).Answers call
            (Value.list (entries.map AuditEntry.write)).forReply := by
  have hfiled : c.IsFiled := Reaches.isFiled hreaches
    ⟨World.isFiled_of_nil hruns hentries htasks,
      fun i => Http.Service.asks_filed_handle allowed (calls i)⟩
  have hworld : (c.world.withFaults []).IsFiled := hfiled.world.congr rfl rfl
  refine ⟨?_, ?_, ?_⟩
  · intro e he hpattern first second hrespells hlist
    exact World.perform_alike
      (Http.Service.handle_alike _ he hpattern hrespells hlist hid hid') rfl
  · exact fun call hmethod hpath => hworld.answers_runs rfl hid hmethod hpath
  · exact fun call hmethod hpath => hworld.answers_entries rfl hid hmethod hpath

/-! ## A flow that is run under another spelling -/

/-- The written form of the id of the first flow. -/
def lowerId : String := "a00000000000000000000001"

/-- The same id in capital digits. -/
def upperId : String := "A00000000000000000000001"

/-- The call with a method for the path of an entry. -/
def callFor (method : String) (e : Http.Entry) (id : String) (body : Option Value) : Http.Call :=
  ⟨method, { Http.Target.home with path := e.path id }, body, none⟩

/-- The first flow is to be run, and its id is written in capital digits. -/
def startCall : Http.Call :=
  callFor "POST" Http.startEntry upperId (some (.record [("email", .text "to@test.org")]))

/-- The sample was imported, and its run was asked for and has ended. -/
def sampled : Crowd Unit Http.Reply :=
  let imported := { gathered (fun _ => Http.Service.handle "*" startCall) World.emptyWorld with
    world := (World.emptyWorld.runScript Script.importSample).2.2 }
  let answered := imported.taken (List.replicate 32 ())
  { answered with world := answered.world.settle }

theorem sampled_reaches : Reaches World.Passes
    (gathered (fun _ => Http.Service.handle "*" startCall) World.emptyWorld) sampled :=
  (Relation.ReflTransGen.single (.aside .importSample)).trans
    ((reaches_taken _ _).trans (.single (.aside .settle)))

theorem ofText?_sampled : ObjectId.ofText? lowerId = some (Collection.flows.numbered 1) ∧
    ObjectId.ofText? upperId = some (Collection.flows.numbered 1) := by
  decide +kernel

/-- No escapes are in the paths to the first flow and to its runs. -/
theorem unescape_sampled : ∀ e ∈ [Http.flowEntry, Http.runsEntry], ∀ id ∈ [lowerId, upperId],
    Url.unescape (e.path id) = e.path id ∧ (e.path id).isEmpty = false := by
  decide +kernel

theorem path_callFor {e : Http.Entry} {id : String} (hplain : Url.unescape (e.path id) = e.path id)
    (hempty : (e.path id).isEmpty = false) (method : String) (body : Option Value) :
    Http.Target.path (callFor method e id body).target = e.path id := by
  rw [Http.Target.path, callFor, if_neg (by simp [hempty]), hplain]

/-- A call for the path of an entry with its method is answered as the entry says. -/
theorem route_callFor {e : Http.Entry} (he : e ∈ Http.entries)
    (hpattern : Http.Segment.id ∈ e.pattern) {id method : String} {oid : ObjectId}
    (hid : ObjectId.ofText? id = some oid) (hplain : Url.unescape (e.path id) = e.path id)
    (hempty : (e.path id).isEmpty = false)
    (hfound : (Http.entries.find? fun e' =>
      e'.methods.contains method && e'.pattern == e.pattern) = some e) (body : Option Value) :
    Http.Service.route (callFor method e id body) = Http.Service.serve body (e.route id) := by
  have hto : Http.direct method (Http.Target.path (callFor method e id body).target) =
      .to (e.route id) := by
    rw [path_callFor hplain hempty, Http.direct_path he hpattern hid, hfound]
  rw [Http.Service.route, show (callFor method e id body).method = method from rfl, hto]
  rfl

theorem route_startCall : Http.Service.route startCall =
    Http.Service.serve startCall.body (.startRun upperId) :=
  route_callFor Http.startEntry_mem (by simp [Http.startEntry]) ofText?_sampled.2
    (by decide +kernel) (by decide +kernel) rfl _

theorem route_listCall : ∀ id ∈ [lowerId, upperId],
    Http.Service.route (callFor "GET" Http.runsEntry id none) =
      Http.Service.serve none (.runsOfFlow id) := by
  intro id hid
  obtain ⟨hplain, hempty⟩ := unescape_sampled Http.runsEntry (by simp) id hid
  have hoid : ObjectId.ofText? id = some (Collection.flows.numbered 1) := by
    rcases List.mem_pair.1 hid with rfl | rfl
    · exact ofText?_sampled.1
    · exact ofText?_sampled.2
  exact route_callFor Http.runsEntry_mem (by simp [Http.runsEntry]) hoid hplain hempty rfl _

/-- Whether a call was answered with a list that is not empty. -/
def listsSome : Outcome Http.Reply → Bool
  | .done ⟨200, .list (_ :: _), _, _⟩ => true
  | _ => false

/-- The run of the sample and the two visits of its nodes are recorded, and the run is listed for
the written form of the id of its flow alone. -/
theorem sampled_records :
    (listsSome (sampled.world.call (callFor "GET" Http.runsEntry lowerId none)).1 = true ∧
      listsSome (sampled.world.call (callFor "GET" Http.runsEntry upperId none)).1 = false) ∧
    (sampled.world.database.store.testRuns.documents.filter
      (Document.names "flow_id" (Collection.flows.numbered 1))).length = 1 ∧
    (sampled.world.database.store.executionLogs.documents.filter
      (Document.names "test_run_id" (Collection.testRuns.numbered 1))).length = 2 := by
  -- the paths are split by lemmas, for their splitting does not reduce
  simp only [World.call, sampled, Http.Service.handle, route_startCall,
    route_listCall lowerId (by simp), route_listCall upperId (by simp)]
  decide +kernel

/-- **The list of the runs of a flow is empty for the id in capital digits**, although the flow was
run, and was run under that spelling. -/
theorem sampled_lists_differ :
    Reaches World.Passes
      (gathered (fun _ => Http.Service.handle "*" startCall) World.emptyWorld) sampled ∧
    ObjectId.ofText? lowerId = ObjectId.ofText? upperId ∧
    (sampled.world.call (callFor "GET" Http.runsEntry lowerId none)).1 ≠
      (sampled.world.call (callFor "GET" Http.runsEntry upperId none)).1 := by
  refine ⟨sampled_reaches, ofText?_sampled.1.trans ofText?_sampled.2.symm, fun hsame => ?_⟩
  have hlists := sampled_records.1
  rw [hsame, hlists.2] at hlists
  cases hlists.1

theorem length_listed_sampled :
    (sampled.world.database.store.listedRuns (Collection.flows.numbered 1) lowerId).length = 1 ∧
      (sampled.world.database.store.listedEntries (Collection.testRuns.numbered 1)
        "b00000000000000000000001").length = 2 := by
  obtain ⟨-, hruns, hentries⟩ := sampled_records
  have hrun : "b00000000000000000000001" = (Collection.testRuns.numbered 1).text := by
    decide +kernel
  have hflow : lowerId = (Collection.flows.numbered 1).text := by
    decide +kernel
  rw [Store.listedRuns, if_pos hflow, Store.runsFor, (Order.arrange_perm _ _).length_eq,
    Store.listedEntries, if_pos hrun, Store.entriesFor, (Order.arrange_perm _ _).length_eq]
  exact ⟨hruns, hentries⟩

-- the runs and the calls are carried out in closed facts only
attribute [local irreducible] sampled

/-- The sample flow is got by either spelling of its id. Its run is listed for one of them, and for
the other an empty list is answered; the two visits of its nodes are listed for the id of the
run. -/
theorem spellings_agree_sampled :
    World.emptyWorld.database.store.testRuns.documents = [] ∧
    World.emptyWorld.database.store.executionLogs.documents = [] ∧
    World.emptyWorld.tasks = [] ∧
    Reaches World.Passes
      (gathered (fun _ => Http.Service.handle "*" startCall) World.emptyWorld) sampled ∧
    ObjectId.ofText? lowerId = some (Collection.flows.numbered 1) ∧
    ObjectId.ofText? upperId = some (Collection.flows.numbered 1) ∧
    (sampled.world.call (callFor "GET" Http.flowEntry lowerId none)).1 =
      (sampled.world.call (callFor "GET" Http.flowEntry upperId none)).1 ∧
    (∃ run : TestRun, (sampled.world.withFaults []).Answers
      (callFor "GET" Http.runsEntry lowerId none) (Value.list [run.write]).forReply) ∧
    (sampled.world.withFaults []).Answers (callFor "GET" Http.runsEntry upperId none)
      (Value.list []).forReply ∧
    ∃ entries : List AuditEntry, entries.length = 2 ∧ (sampled.world.withFaults []).Answers
      (callFor "GET" Http.auditEntry "b00000000000000000000001" none)
        (Value.list (entries.map AuditEntry.write)).forReply := by
  obtain ⟨hlower, hupper⟩ := ofText?_sampled
  obtain ⟨hone, htwo⟩ := length_listed_sampled
  have hpath : ∀ e ∈ [Http.flowEntry, Http.runsEntry], ∀ id ∈ [lowerId, upperId],
      Http.Target.path (callFor "GET" e id none).target = e.path id := fun e he id hid =>
    path_callFor (unescape_sampled e he id hid).1 (unescape_sampled e he id hid).2 "GET" none
  have hagree := spellings_agree "*" (fun _ : Unit => startCall) rfl rfl rfl sampled_reaches hlower
    hupper
  have hagree' := spellings_agree "*" (fun _ : Unit => startCall) rfl rfl rfl sampled_reaches hupper
    hlower
  refine ⟨rfl, rfl, rfl, sampled_reaches, hlower, hupper, ?_, ?_, ?_, ?_⟩
  · have hrespells : (callFor "GET" Http.flowEntry lowerId none).Respells
        (callFor "GET" Http.flowEntry upperId none) Http.flowEntry lowerId upperId :=
      ⟨rfl, rfl, rfl, hpath _ (by simp) _ (by simp), hpath _ (by simp) _ (by simp)⟩
    have hlist : ¬ (Http.flowEntry.pattern = Http.runsEntry.pattern ∨
        Http.flowEntry.pattern = Http.auditEntry.pattern) := by decide
    exact (hagree.1 Http.flowEntry Http.flowEntry_mem (by simp [Http.flowEntry]) _ _
      hrespells fun h => hlist h.2).1
  · obtain ⟨runs, hruns, hanswers⟩ := hagree.2.1 _ rfl (hpath _ (by simp) _ (by simp))
    obtain ⟨run, rfl⟩ := List.length_eq_one_iff.1 (hruns.length_eq.symm.trans hone)
    exact ⟨run, hanswers⟩
  · obtain ⟨runs, hruns, hanswers⟩ := hagree'.2.1 _ rfl (hpath _ (by simp) _ (by simp))
    have hother : upperId ≠ (Collection.flows.numbered 1).text := by decide +kernel
    rw [Store.listedRuns, if_neg hother] at hruns
    cases hruns
    exact hanswers
  · have hrun : ObjectId.ofText? "b00000000000000000000001" =
        some (Collection.testRuns.numbered 1) := by decide +kernel
    have hlogs : Http.Target.path
        (callFor "GET" Http.auditEntry "b00000000000000000000001" none).target =
          Http.auditEntry.path "b00000000000000000000001" :=
      path_callFor (by decide +kernel) (by decide +kernel) "GET" none
    obtain ⟨entries, hentries, hanswers⟩ := (spellings_agree "*" (fun _ : Unit => startCall) rfl rfl
      rfl sampled_reaches hrun hrun).2.2 _ rfl hlogs
    exact ⟨entries, hentries.length_eq.symm.trans htwo, hanswers⟩

end Crowd

end Automation
