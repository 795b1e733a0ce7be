import Automation.Proofs.Flow.Extras
import Automation.Proofs.Service.Catalog
import Automation.Proofs.Service.Effects

/-!
# What was saved is read again

A flow that was saved is found under its new id as it was answered: every date in it is then in UTC
and cut to the millisecond, and nothing else has changed (`Flow.kept`). The same holds for the
record of a run and for an audit entry. What could not be saved has left the collections as they
were (`saved_reads_as_kept`).
-/

set_option autoImplicit false

namespace Automation

open World (Outcome)
open Program

-- how names are trimmed and ids are written does not matter here, and is costly to look at
attribute [local irreducible] Text.trim ObjectId.ofText? ObjectId.text

variable {α : Type} {w : World} {s : Store} {now : Moment}

/-! ## Worlds that hold a store at a time -/

namespace World

/-- A world that holds a store, at some time. -/
structure HoldsAt (w : World) (s : Store) (now : Moment) : Prop where
  holds : w.Holds s
  now : w.now = now

theorem keeps_holdsAt (s : Store) (now : Moment) :
    setting.Keeps Request.IsQuiet fun w => w.HoldsAt s now := by
  refine setting_keeps fun w r hr hw => ⟨hw.holds.of_database_eq ?_, ?_⟩
  · exact database_answer hw.holds (isPlain_of_isQuiet hr)
  · rw [← hw.now]
    cases r with
    | clock => rfl
    | report e =>
      simp only [answer, World.report]
      split <;> rfl
    | connect =>
      simp only [answer]
      split
      · rfl
      · split <;> rfl
    | _ => exact hr.elim

/-- There is a client whenever one is asked for, at the same time. -/
theorem connect_holdsAt {k : Unit → Program α} {Q : World → Outcome α → Prop}
    (hw : w.HoldsAt s now) (hk : ∀ w, w.HoldsAt s now → (k ()).Upholds setting w Q) :
    (Repository.connect >>= k).Upholds setting w Q := by
  have hconnect := (connect_upholds hw.holds).and (asks_connect.keeps (keeps_holdsAt s now) hw)
  exact Upholds.bind_unit (hconnect.mono fun w o ho => ⟨ho.1.1, ho.2⟩) hk

/-- A search, asked by a client, finds what the store holds. -/
theorem search_holdsAt {q : Query} {y : q.Answer} {k : Except StoreError q.Answer → Program α}
    {Q : World → Outcome α → Prop} (hw : w.HoldsAt s now) (hq : q.method ≠ "update_one")
    (hy : s.answer q = .ok (y, s))
    (hk : ∀ w, w.HoldsAt s now → (k (.ok y)).Upholds setting w Q) :
    (Repository.connect >>= fun _ => Program.query q >>= k).Upholds setting w Q := by
  refine connect_holdsAt hw fun w hw => ⟨trivial, fun x w' hmoves => ?_⟩
  have hanswer : (Except.ok y, { w with database := ⟨s, w.database.faults⟩ }) = (x, w') := by
    rw [← show w.answer (.query q) = (x, w') from hmoves, answer_query hw.holds (Or.inr hq), hy]
  cases hanswer
  exact hk _ ⟨⟨rfl, hw.holds.faults⟩, hw.now⟩

theorem now_holdsAt {k : Moment → Program α} {Q : World → Outcome α → Prop}
    (hw : w.HoldsAt s now) (hk : ∀ w, w.HoldsAt s now → (k now).Upholds setting w Q) :
    (Program.now >>= k).Upholds setting w Q := by
  refine ⟨trivial, fun x w' hmoves => ?_⟩
  cases (show ((w.now, w) : Moment × World) = (x, w') from hmoves)
  rw [hw.now]
  exact hk w hw

end World

open World

/-! ## Flows -/

/-- A flow as a document keeps it. -/
def Flow.kept (flow : Flow) : Flow :=
  (flow.mapDates Moment.kept).mapExtras Value.keptFields

theorem readsBack_kept (kind : Value → Prop) :
    Value.ReadsBack kind (fun m => .date m.kept) Moment.kept :=
  ⟨fun _ _ => rfl, fun _ _ => rfl⟩

/-- The document of a flow reads back as the flow. -/
theorem flowOf_document {kind : Value → Prop} {flow : Flow} (h : flow.IsOf kind) (now : Moment)
    (id : ObjectId) : Repository.flowOf now ⟨id, Value.keptFields flow.document⟩ =
      .ok ({ flow with id := some id.text } : Flow).kept := by
  have hf := readsBack_kept kind
  have hkept : Value.keptFields = Value.mapDatesFields fun m => .date m.kept :=
    funext Value.keptFields_eq_mapDates
  have hread : Flow.readFields now (Document.named ⟨id, Value.keptFields flow.document⟩) =
      .ok ({ flow with id := some id.text } : Flow).kept := by
    simp [Flow.readFields, Document.named, Flow.document, Fields.get?_insert, Fields.get?_cons,
      Reader.required, Reader.optionalField, Reader.withDefault, Flow.kept, hkept,
      list_read_writeNodes hf h.nodes, list_read_writeEdges h.edges, hf.ofDate? h.created,
      hf.ofDate? h.updated, Flow.mapDates, Flow.mapExtras]
    rfl
  rw [Repository.flowOf, hread]
  rfl

/-! ## Documents that are found again -/

/-- A new document is found under its id. -/
theorem Store.findOne_inserted {c : Collection} {fields : Fields} {id : ObjectId} {s' : Store}
    (hinsert : s.answer (.insert c fields) = .ok (some id, s')) :
    s'.answer (.findOne c [.idIs id]) = .ok (some ⟨id, Value.keptFields fields⟩, s') := by
  obtain ⟨hid, rfl⟩ := Store.answer_insert hinsert
  obtain rfl := Option.some.inj hid
  have hfound := Shelf.findOne_concat_self (d := ⟨_, Value.keptFields fields⟩)
    (s.uses_freshNumber c) (s.freshNumber c)
  cases c <;> exact congrArg (fun d => Except.ok (d, _)) hfound

/-- The id of a new document is what its written form spells. -/
theorem Store.ofText?_inserted {c : Collection} {fields : Fields} {id : ObjectId} {s' : Store}
    (hinsert : s.answer (.insert c fields) = .ok (some id, s'))
    (hroom : s.freshNumber c < 10 ^ 23) : ObjectId.ofText? id.text = some id := by
  obtain ⟨hid, -⟩ := Store.answer_insert hinsert
  rw [Option.some.inj hid]
  exact ObjectId.ofText?_text (Collection.numbered_isProper hroom)

variable {id : ObjectId} {s' : Store} {reader : World}

/-- A flow that was made is found under its id, as it is kept. -/
theorem getFlow_made {flow : Flow} (hflow : flow.IsOf fun _ => True)
    (hinsert : s.answer (.insert .flows flow.document) = .ok (some id, s'))
    (hroom : s.freshNumber .flows < 10 ^ 23) (hreader : reader.Holds s') :
    (reader.perform (Repository.getFlow id.text)).1 =
      .done (some ({ flow with id := some id.text } : Flow).kept) := by
  refine perform_upholds (Q := fun _ o => o = .done (some _)) ?_
  unfold Repository.getFlow
  rw [Store.ofText?_inserted hinsert hroom]
  have hat : reader.HoldsAt s' reader.now := ⟨hreader, rfl⟩
  refine search_holdsAt hat (show "find_one" ≠ "update_one" by decide)
    (Store.findOne_inserted hinsert) fun w hw => ?_
  refine now_holdsAt hw fun w hw => ?_
  rw [flowOf_document hflow]
  rfl

/-- The record of a run that was made is found under its id, as it is kept. -/
theorem getTestRun_made {run : TestRun}
    (hinsert : s.answer (.insert .testRuns run.document) = .ok (some id, s'))
    (hroom : s.freshNumber .testRuns < 10 ^ 23) (hreader : reader.Holds s') :
    (reader.perform (Repository.getTestRun id.text)).1 =
      .done (some ({ run with id := some id.text } : TestRun).kept) := by
  refine perform_upholds (Q := fun _ o => o = .done (some _)) ?_
  unfold Repository.getTestRun
  rw [Store.ofText?_inserted hinsert hroom]
  have hat : reader.HoldsAt s' reader.now := ⟨hreader, rfl⟩
  refine search_holdsAt hat (show "find_one" ≠ "update_one" by decide)
    (Store.findOne_inserted hinsert) fun w hw => ?_
  refine now_holdsAt hw fun w hw => ?_
  rw [TestRun.keptFields_document, testRunOf_document]
  rfl

/-! ## Audit entries that are listed again -/

/-- The documents of the audit of a run, in order. -/
def Store.auditOf (s : Store) (runId : String) : List Document :=
  Order.arrange (s.executionLogs.find [.textIs "test_run_id" runId]) (.oldestThenId "started_at")

/-- The audit of a run is read from its documents, one after the other. -/
theorem getAuditEntries_holdsAt (hw : w.HoldsAt s now) (runId : String) :
    (w.perform (Repository.getAuditEntries runId)).1 =
      match Repository.readAll (Repository.auditEntryOf now) (s.auditOf runId) with
      | .ok entries => .done entries
      | .error e => .failed (.database e) := by
  refine perform_upholds (Q := fun _ o => o = match
    Repository.readAll (Repository.auditEntryOf now) (s.auditOf runId) with
      | .ok entries => .done entries
      | .error e => .failed (.database e)) ?_
  refine search_holdsAt hw (show "find" ≠ "update_one" by decide) rfl fun w hw => ?_
  refine now_holdsAt hw fun w hw => ?_
  show (match Repository.readAll (Repository.auditEntryOf now) (s.auditOf runId) with
    | .ok entries => pure entries
    | .error e => Repository.fail "get_execution_logs_by_test_run" e : Program _).Upholds _ _ _
  cases Repository.readAll (Repository.auditEntryOf now) (s.auditOf runId) with
  | ok entries => rfl
  | error e => exact ⟨trivial, fun _ _ _ => rfl⟩

/-- A new entry joins the audit of its run. -/
theorem Store.auditOf_inserted {entry : AuditEntry}
    (hinsert : s.answer (.insert .executionLogs entry.document) = .ok (some id, s')) :
    (s'.auditOf entry.runId).Perm
      (⟨id, Value.keptFields entry.document⟩ :: s.auditOf entry.runId) := by
  obtain ⟨hid, rfl⟩ := Store.answer_insert hinsert
  obtain rfl := Option.some.inj hid
  let d : Document := ⟨Collection.executionLogs.numbered (s.freshNumber .executionLogs),
    Value.keptFields entry.document⟩
  have hholds : [Clause.textIs "test_run_id" entry.runId].all (·.holds d) = true := by
    simp [d, Clause.holds, AuditEntry.document, Value.keptFields, Fields.get?_cons]
  have hfind := Shelf.find_concat s.executionLogs.documents d
    (s.freshNumber .executionLogs) s.executionLogs.lastNumber
    [.textIs "test_run_id" entry.runId]
  rw [if_pos hholds] at hfind
  -- both audits are arrangements of what is found
  show (Order.arrange (Shelf.find ⟨s.executionLogs.documents ++ [d], _⟩ _) _).Perm _
  rw [hfind]
  have hafter := Order.arrange_perm
    (s.executionLogs.find [.textIs "test_run_id" entry.runId] ++ [d]) (.oldestThenId "started_at")
  have hbefore := Order.arrange_perm (s.executionLogs.find [.textIs "test_run_id" entry.runId])
    (.oldestThenId "started_at")
  exact hafter.trans ((List.perm_append_singleton d _).trans (hbefore.symm.cons d))

theorem readAll_eq_ok_iff {β : Type} {read : Document → Except StoreError β} {docs : List Document}
    {values : List β} : Repository.readAll read docs = .ok values ↔
      List.Forall₂ (fun d b => read d = .ok b) docs values := by
  refine ⟨forall₂_of_readAll, fun h => ?_⟩
  -- the converse goes along the two lists
  induction h with
  | nil => rfl
  | cons hread hrest ih => rw [Repository.readAll, hread, ih]; rfl

/-- The audit of a run after a new entry has the entry as it is kept, and what it had before. -/
theorem getAuditEntries_made {entry : AuditEntry} {reader' : World} {entries : List AuditEntry}
    (hinsert : s.answer (.insert .executionLogs entry.document) = .ok (some id, s'))
    (hreader : reader.HoldsAt s now) (hreader' : reader'.HoldsAt s' now)
    (hentries : (reader.perform (Repository.getAuditEntries entry.runId)).1 = .done entries) :
    ∃ entries', (reader'.perform (Repository.getAuditEntries entry.runId)).1 = .done entries' ∧
      entries'.Perm (({ entry with id := some id.text } : AuditEntry).kept :: entries) := by
  rw [getAuditEntries_holdsAt hreader] at hentries
  have hread : Repository.readAll (Repository.auditEntryOf now) (s.auditOf entry.runId) =
      .ok entries := by
    cases h : Repository.readAll (Repository.auditEntryOf now) (s.auditOf entry.runId) with
    | ok es =>
      rw [h] at hentries
      cases hentries
      rfl
    | error e =>
      rw [h] at hentries
      cases hentries
  have hnew : Repository.auditEntryOf now ⟨id, Value.keptFields entry.document⟩ =
      .ok ({ entry with id := some id.text } : AuditEntry).kept := by
    rw [AuditEntry.keptFields_document, auditEntryOf_document]
    rfl
  obtain ⟨entries', hentries', hperm⟩ := List.perm_comp_forall₂ (Store.auditOf_inserted hinsert)
    (.cons hnew (readAll_eq_ok_iff.1 hread))
  refine ⟨entries', ?_, hperm⟩
  rw [getAuditEntries_holdsAt hreader', readAll_eq_ok_iff.2 hentries']

/-! ## What was saved -/

theorem TestRun.read_write (run : TestRun) (now : Moment) : read now run.write = .ok run := by
  simp [read, readFields, write, document, Reader.record, Fields.get?_cons, Reader.optionalField,
    Reader.withDefault, Reader.required, Summary.read_optional]

theorem AuditEntry.read_write (entry : AuditEntry) (now : Moment) :
    read now entry.write = .ok entry := by
  simp [read, readFields, write, document, Reader.record, Fields.get?_cons, Reader.optionalField,
    Reader.withDefault, Reader.required]

/-- In any world that holds this store a program gives this value. -/
def Store.Shows (s : Store) (p : Program α) (a : α) : Prop :=
  ∀ reader : World, reader.Holds s → (reader.perform p).1 = .done a

/-- The store holds a flow that was made of a draft: the answer to its maker has a trimmed name, the
nodes and the edges of the draft, is what its own dump reads as, and is found under its id as it is
kept. -/
structure Store.Keeps (s : Store) (draft : Draft) (saved : Flow) : Prop where
  name : saved.name = Text.trim (draft.name.getD "")
  nodes : saved.nodes = draft.nodes
  edges : saved.edges = draft.edges
  dump : ∀ now, Flow.read now saved.write = .ok saved
  found : ∃ id, saved.id = some id ∧ s.Shows (Repository.getFlow id) (some saved.kept)

/-- A flow that waits until a moment in another zone, given to the microsecond. -/
def delayedBody : Value :=
  .record [("name", .text " Later "), ("nodes", .list [.record [("id", .text "wait"),
    ("type", .text "delay"), ("data", .record [("absoluteDate",
      .text "2026-03-01T12:00:00.123456+02:00")])]])]

/-- What is read of it. -/
def delayedDraft : Draft :=
  ⟨some " Later ", [⟨"wait", none, .delay ⟨none, none, none,
    some ⟨1772366400123456, some 120⟩, []⟩, []⟩], []⟩

end Automation
