import Automation.Proofs.Runner.Agreement
import Automation.Proofs.Runner.Outline
import Automation.Proofs.Store.Logbook

/-!
# The audit trail of a run

Somebody who reads the records of a run between two of its requests sees where it stands: the audit
has one entry for each visit that has begun, in the order of the walk, all but the last completed,
and the record of the run names the node of the last entry or the one that is visited next. In this
setting every write succeeds, a client can always be made, and the time never goes back. Others go
on with the store in the meantime, but leave the records of the run alone.

A run is between two visits (`Standing`) or in one (`Visiting`); each request leads from one of
these to the other or leaves them alone, which makes an outline of the run. That the entries are
read back in the order of the visits is what `Store.Logs` is for.
-/

set_option autoImplicit false

namespace Automation

open World (Outcome)
open Program

/-! ## Entries -/

namespace AuditEntry

/-- A visit that is over, and that ended no earlier than it began. -/
def HasEnded (e : AuditEntry) : Prop :=
  ∃ finishedAt, e.finishedAt = some finishedAt ∧ e.startedAt.instant ≤ finishedAt.instant

/-- A visit that ended well. -/
def IsCompleted (e : AuditEntry) : Prop := e.status = completed ∧ e.HasEnded

theorem IsCompleted.ne_started {e : AuditEntry} (h : e.IsCompleted) : e.status ≠ started := by
  rw [h.1]
  decide

theorem IsCompleted.ne_failed {e : AuditEntry} (h : e.IsCompleted) : e.status ≠ failed := by
  rw [h.1]
  decide

theorem isCompleted_of_mem_listing {log : List (ObjectId × AuditEntry)}
    (h : ∀ x ∈ log, x.2.IsCompleted) : ∀ e ∈ listing log, e.IsCompleted :=
  forall_mem_listing (fun _ _ he => he) h

end AuditEntry

/-- The entries of a run are those of a walk from the start of its flow, one for each visit, and all
but the last are completed. The record of the run names the node of the last entry, or the one that
is visited next. -/
structure TestRun.Follows (run : TestRun) (a : Assignment) (visited : List Node)
    (entries : List AuditEntry) : Prop where
  walk : visited = [] ∨ a.flow.Walk (Runner.choice a) visited
  listed : entries.map (fun e => (e.nodeId, e.nodeType)) = Runner.told visited
  completed : ∀ e ∈ entries.dropLast, e.IsCompleted
  current : (∃ n before, visited = n :: before ∧ run.currentNode = some n.id) ∨
    ∃ n, a.flow.Walk (Runner.choice a) (n :: visited) ∧ run.currentNode = some n.id ∧
      ∀ e ∈ entries, e.IsCompleted

/-- What somebody sees of a run who reads its records: the store, and the time. -/
structure Scene where
  store : Store
  clock : Int

namespace Scene

/-- What an exchange does to the store when all goes well, and when the time is told. -/
def Leaves (s s' : Scene) : Exchange → Prop
  | ⟨.query q, x⟩ => ∃ y, s.store.answer q = .ok (y, s'.store) ∧ x = .ok y
  | ⟨.connect, x⟩ => (∃ b, x = .ok b) ∧ s'.store = s.store
  | ⟨.clock, now⟩ => (s.clock ≤ now.instant ∧ now.instant ≤ s'.clock) ∧ s'.store = s.store
  | _ => s'.store = s.store

/-- An exchange leaves the store as it is, but for a query that takes effect. -/
theorem Leaves.effect {s s' : Scene} {e : Exchange} (h : s.Leaves s' e) :
    s'.store = s.store ∨
      ∃ (q : Query) (y : q.Answer), e = ⟨.query q, .ok y⟩ ∧
        s.store.answer q = .ok (y, s'.store) := by
  obtain ⟨r, x⟩ := e
  cases r with
  | query q =>
    obtain ⟨y, hy, rfl⟩ := h
    exact Or.inr ⟨q, y, rfl, hy⟩
  | connect => exact Or.inl h.2
  | clock => exact Or.inl h.2
  | _ => exact Or.inl h

/-- What one exchange of a run may change, as long as there are ids for audit entries. Others go on
with the store after it, and leave the records of the run alone. -/
structure Moves (a : Assignment) (id : ObjectId) (s : Scene) (e : Exchange) (s' : Scene) :
    Prop where
  clock : s.clock ≤ s'.clock
  leaves : ∃ store, s.Leaves ⟨store, s'.clock⟩ e ∧
    store.Evolves (Store.SparesRun a.runId id) s'.store
  room : s'.store.executionLogs.lastNumber < 10 ^ 23

variable {s s' : Scene} {a : Assignment} {id oid : ObjectId} {visited : List Node}
  {log : List (ObjectId × AuditEntry)} {run : TestRun} {e : AuditEntry}

/-- Time has passed, and others have left the records of the run alone. -/
structure Later (a : Assignment) (id : ObjectId) (s s' : Scene) : Prop where
  clock : s.clock ≤ s'.clock
  store : s.store.Evolves (Store.SparesRun a.runId id) s'.store
  room : s'.store.executionLogs.lastNumber < 10 ^ 23

/-- Only queries touch the records of a run. -/
theorem Moves.later {r : Request} {x : r.Answer} (h : s.Moves a id ⟨r, x⟩ s')
    (hr : ∀ q, r ≠ .query q) : s.Later a id s' := by
  obtain ⟨store, hleaves, hevolves⟩ := h.leaves
  obtain rfl : store = s.store := by
    rcases hleaves.effect with hstore | ⟨q, y, he, -⟩
    · exact hstore
    · exact absurd (congrArg Exchange.request he) (hr q)
  exact ⟨h.clock, hevolves, h.room⟩

/-! ## Records -/

/-- The records of a run: the log tells of the nodes that were visited, the last one first. -/
structure Shows (a : Assignment) (id : ObjectId) (s : Scene) (visited : List Node)
    (log : List (ObjectId × AuditEntry)) (run : TestRun) : Prop where
  logs : s.store.Logs a.runId log
  record : s.store.testRuns.findOne [.idIs id] = some ⟨id, run.document⟩
  room : s.store.executionLogs.lastNumber < 10 ^ 23
  past : ∀ x ∈ log, x.2.startedAt.instant ≤ Moment.cutToMillisecond s.clock
  listed : log.map (fun x => (x.2.nodeId, x.2.nodeType)) = visited.map fun n => (n.id, n.type)

/-- What began before a time began before any later one. -/
theorem Shows.past_later (h : s.Shows a id visited log run) (hclock : s.clock ≤ s'.clock) :
    ∀ x ∈ log, x.2.startedAt.instant ≤ Moment.cutToMillisecond s'.clock := fun x hx =>
  Int.le_trans (h.past x hx) (Moment.cutToMillisecond_le hclock)

/-- Others leave the log and the record alone. -/
theorem Shows.later (h : s.Shows a id visited log run) (hlater : s.Later a id s') :
    s'.Shows a id visited log run :=
  ⟨h.logs.evolves hlater.store, Store.findOne_evolves hlater.store h.record, hlater.room,
    h.past_later hlater.clock, h.listed⟩

/-- An update of the record leaves the log alone. -/
theorem Shows.update (h : s.Shows a id visited log run) {changes : Fields} {run' : TestRun}
    {x : Except StoreError Bool}
    (hmoves : s.Moves a id ⟨.query (.update .testRuns id changes), x⟩ s')
    (hrun : run.document.merge (Value.keptFields changes) = run'.document) :
    s'.Shows a id visited log run' := by
  obtain ⟨store, ⟨y, hy, -⟩, hevolves⟩ := hmoves.leaves
  obtain rfl := Store.answer_update hy
  have hrecord : (s.store.testRuns.change id (Value.keptFields changes)).findOne [.idIs id] =
      some ⟨id, run'.document⟩ := by
    rw [Shelf.findOne_change, h.record, Option.map_some, Document.updated, hrun]
  have hlogs : (s.store.withShelf (s.store.testRuns.change id (Value.keptFields changes))
      .testRuns).Logs a.runId log := h.logs.congr rfl
  exact ⟨hlogs.evolves hevolves, Store.findOne_evolves hevolves hrecord, hmoves.room,
    h.past_later hmoves.clock, h.listed⟩

/-- A visit that begins has a new entry. -/
theorem Shows.enter (h : s.Shows a id visited log run) {now : Moment} {n : Node}
    {x : Except StoreError (Option ObjectId)}
    (hmoves : s.Moves a id
      ⟨.query (.insert .executionLogs ((Runner.auditVisit a n).entry now).document), x⟩ s')
    (hpast : ∀ x ∈ log, x.2.startedAt.instant ≤ Moment.cutToMillisecond now.instant)
    (hnow : now.instant ≤ s.clock) :
    ∃ oid, x = .ok (some oid) ∧
      s'.Shows a id (n :: visited)
        ((oid, ((Runner.auditVisit a n).entry now).kept) :: log) run := by
  obtain ⟨store, ⟨y, hy, rfl⟩, hevolves⟩ := hmoves.leaves
  have hafter : ∀ x ∈ log,
      x.2.startedAt.instant ≤ ((Runner.auditVisit a n).entry now).kept.startedAt.instant := by
    intro x hx
    show _ ≤ now.kept.instant
    rw [Moment.instant_kept]
    exact hpast x hx
  obtain ⟨oid, rfl, hruns, hlogs⟩ := h.logs.enter hy rfl hafter
  have hrecord : store.testRuns.findOne [.idIs id] = some ⟨id, run.document⟩ := by
    rw [hruns, h.record]
  refine ⟨oid, rfl, ⟨hlogs.evolves hevolves, Store.findOne_evolves hevolves hrecord, hmoves.room,
    ?_, ?_⟩⟩
  · refine List.forall_mem_cons.2 ⟨?_, h.past_later hmoves.clock⟩
    show now.kept.instant ≤ _
    rw [Moment.instant_kept]
    exact Moment.cutToMillisecond_le (Int.le_trans hnow hmoves.clock)
  · rw [List.map_cons, List.map_cons, h.listed]
    rfl

/-- A visit that ends has the end in its entry. -/
theorem Shows.finish (h : s.Shows a id visited ((oid, e) :: log) run) {now : Moment}
    {status : String} {message : Option String} {x : Except StoreError (Option Document)}
    (hmoves : s.Moves a id ⟨.query (.change .executionLogs oid
      (AuditEntry.finishing now (.text status) (.ofText? message))), x⟩ s') :
    s'.Shows a id visited ((oid, e.finish now.kept status message) :: log) run := by
  obtain ⟨store, ⟨y, hy, rfl⟩, hevolves⟩ := hmoves.leaves
  obtain ⟨hruns, -, hlogs⟩ := h.logs.finish hy
  have hrecord : store.testRuns.findOne [.idIs id] = some ⟨id, run.document⟩ := by
    rw [hruns, h.record]
  have hpast := List.forall_mem_cons.1 (h.past_later hmoves.clock)
  refine ⟨hlogs.evolves hevolves, Store.findOne_evolves hevolves hrecord, hmoves.room,
    List.forall_mem_cons.2 hpast, ?_⟩
  rw [← h.listed]
  rfl

/-! ## Where a run stands -/

/-- The run stands before a node: all visits so far are over and ended well. -/
inductive Standing (a : Assignment) (id : ObjectId)
    (R : List (ObjectId × AuditEntry) → TestRun → Prop) (n : Node) (used : Usage) (s : Scene) : Prop
  | mk (visited : List Node) (log : List (ObjectId × AuditEntry)) (run : TestRun)
      (walk : a.flow.Walk (Runner.choice a) (n :: visited))
      (shows : s.Shows a id visited log run)
      (completed : ∀ x ∈ log, x.2.IsCompleted)
      (steps : used.steps = log.length)
      (current : run.currentNode = some n.id ∨
        ∃ m before, visited = m :: before ∧ run.currentNode = some m.id)
      (remark : R log run)

/-- The run is in the visit of a node: its entry is the last one, and those before it are
completed. -/
inductive Visiting (a : Assignment) (id : ObjectId) (P : ObjectId → AuditEntry → Prop)
    (R : TestRun → Prop) (n : Node) (steps : Int) (s : Scene) : Prop
  | mk (visited : List Node) (oid : ObjectId) (e : AuditEntry)
      (log : List (ObjectId × AuditEntry)) (run : TestRun)
      (walk : a.flow.Walk (Runner.choice a) (n :: visited))
      (shows : s.Shows a id (n :: visited) ((oid, e) :: log) run)
      (completed : ∀ x ∈ log, x.2.IsCompleted)
      (steps : steps = log.length)
      (entry : P oid e)
      (current : run.currentNode = some n.id)
      (remark : R run)

/-- What the records of a run tell at any time. -/
inductive Tells (a : Assignment) (id : ObjectId) (T : List AuditEntry → TestRun → Prop)
    (s : Scene) : Prop
  | mk (visited : List Node) (log : List (ObjectId × AuditEntry)) (run : TestRun)
      (shows : s.Shows a id visited log run)
      (follows : run.Follows a visited (AuditEntry.listing log))
      (remark : T (AuditEntry.listing log) run)

variable {R : List (ObjectId × AuditEntry) → TestRun → Prop} {P : ObjectId → AuditEntry → Prop}
  {S : TestRun → Prop} {T : List AuditEntry → TestRun → Prop} {n : Node} {used : Usage}
  {steps : Int} {entries : List AuditEntry}

theorem Standing.later (h : s.Standing a id R n used) (hlater : s.Later a id s') :
    s'.Standing a id R n used := by
  obtain ⟨visited, log, run, walk, hshows, completed, steps, current, remark⟩ := h
  exact ⟨visited, log, run, walk, hshows.later hlater, completed, steps, current, remark⟩

theorem Visiting.later (h : s.Visiting a id P S n steps) (hlater : s.Later a id s') :
    s'.Visiting a id P S n steps := by
  obtain ⟨visited, oid, e, log, run, walk, hshows, completed, steps, entry, current, remark⟩ := h
  exact ⟨visited, oid, e, log, run, walk, hshows.later hlater, completed, steps, entry,
    current, remark⟩

theorem Visiting.imp {P' : ObjectId → AuditEntry → Prop} (h : s.Visiting a id P S n steps)
    (hP : ∀ oid e, P oid e → P' oid e) : s.Visiting a id P' S n steps := by
  obtain ⟨visited, oid, e, log, run, walk, hshows, completed, steps, entry, current, remark⟩ := h
  exact ⟨visited, oid, e, log, run, walk, hshows, completed, steps, hP oid e entry, current, remark⟩

theorem Tells.later (h : s.Tells a id T) (hlater : s.Later a id s') : s'.Tells a id T := by
  obtain ⟨visited, log, run, hshows, hfollows, remark⟩ := h
  exact ⟨visited, log, run, hshows.later hlater, hfollows, remark⟩

theorem Tells.mono {T' : List AuditEntry → TestRun → Prop} (h : s.Tells a id T)
    (hT : ∀ entries run, T entries run → T' entries run) : s.Tells a id T' := by
  obtain ⟨visited, log, run, hshows, hfollows, remark⟩ := h
  exact ⟨visited, log, run, hshows, hfollows, hT _ run remark⟩

theorem Shows.told (h : s.Shows a id visited log run) :
    (AuditEntry.listing log).map (fun e => (e.nodeId, e.nodeType)) = Runner.told visited := by
  rw [AuditEntry.listing, List.map_map, Runner.told, List.map_reverse, List.map_reverse, ← h.listed]
  rfl

theorem Standing.tells (h : s.Standing a id R n used)
    (hT : ∀ log run, (∀ x ∈ log, x.2.IsCompleted) → used.steps = log.length → R log run →
      T (AuditEntry.listing log) run) : s.Tells a id T := by
  obtain ⟨visited, log, run, walk, hshows, completed, steps, current, remark⟩ := h
  have hall := AuditEntry.isCompleted_of_mem_listing completed
  refine ⟨visited, log, run, hshows, ⟨?_, hshows.told, ?_, ?_⟩, hT log run completed steps remark⟩
  · cases walk with
    | start hs => exact Or.inl rfl
    | step hwalk hm => exact Or.inr hwalk
  · exact fun e he => hall e ((List.dropLast_sublist _).subset he)
  · rcases current with hnext | hlast
    · exact Or.inr ⟨n, walk, hnext, hall⟩
    · exact Or.inl hlast

theorem Visiting.tells (h : s.Visiting a id P S n steps)
    (hT : ∀ oid e log run, (∀ x ∈ log, x.2.IsCompleted) → steps = log.length → P oid e →
      e.nodeType = n.type → S run → T (AuditEntry.listing ((oid, e) :: log)) run) :
    s.Tells a id T := by
  obtain ⟨visited, oid, e, log, run, walk, hshows, completed, steps, entry, current, remark⟩ := h
  have htype : e.nodeType = n.type := congrArg Prod.snd (List.cons.inj hshows.listed).1
  refine ⟨n :: visited, (oid, e) :: log, run, hshows, ⟨Or.inr walk, hshows.told, ?_,
    Or.inl ⟨n, visited, rfl, current⟩⟩, hT oid e log run completed steps entry htype remark⟩
  rw [AuditEntry.listing_cons, List.dropLast_concat]
  exact AuditEntry.isCompleted_of_mem_listing completed

/-! ## The setting -/

/-- The last entry is that of a visit, of a node of a type, that is not over. -/
def InVisitOf (type : String) (entries : List AuditEntry) : Prop :=
  ∃ e, entries.getLast? = some e ∧ e.status = AuditEntry.started ∧ e.nodeType = type

/-- What the entries tell of a request: a message is posted in the visit of an action, and the run
sleeps in the visit of a delay. -/
def Explains (entries : List AuditEntry) : Request → Prop
  | .post _ => InVisitOf "action" entries
  | .sleep _ => InVisitOf "delay" entries
  | _ => True

theorem inVisitOf_cons {type : String} (hstarted : e.status = AuditEntry.started)
    (htype : e.nodeType = type) : InVisitOf type (AuditEntry.listing ((oid, e) :: log)) := by
  rw [AuditEntry.listing_cons]
  exact ⟨_, List.getLast?_concat, hstarted, htype⟩

/-- The records tell where the run stands when it makes a request. -/
def setting (a : Assignment) (id : ObjectId) : Setting Scene where
  fits s r := s.Tells a id fun entries _ => Explains entries r
  moves := Moves a id

theorem not_refuses (s : Scene) : ¬ (setting a id).Refuses s := by
  rintro ⟨before, f, hmoves⟩
  obtain ⟨store, ⟨⟨b, hb⟩, -⟩, -⟩ := hmoves.leaves
  cases hb

/-- Requests that are no queries keep what does not depend on the time. -/
theorem keeps_of_later {kind : Request → Prop} {I : Scene → Prop}
    (hkind : ∀ r, kind r → ∀ q, r ≠ .query q)
    (hfits : ∀ s r, kind r → I s → (setting a id).fits s r)
    (hlater : ∀ s s' : Scene, s.Later a id s' → I s → I s') :
    (setting a id).Keeps kind I := by
  intro s r hr hs
  exact ⟨hfits s r hr hs, fun x s' hmoves => hlater s s' (Moves.later hmoves (hkind r hr)) hs⟩

theorem explains_of_isQuiet {r : Request} (hr : r.IsQuiet) : Explains entries r := by
  cases r <;> first | exact hr.elim | trivial

theorem ne_query_of_isQuiet {r : Request} (hr : r.IsQuiet) (q : Query) : r ≠ .query q := by
  rintro rfl
  exact hr

theorem keeps_tells : (setting a id).Keeps Request.IsQuiet (Tells a id fun _ _ => True) := by
  refine keeps_of_later (fun r hr => ne_query_of_isQuiet hr) (fun s r hr hs => ?_)
    fun s s' hlater hs => hs.later hlater
  exact hs.mono fun _ _ _ => explains_of_isQuiet hr

theorem keeps_standing : (setting a id).Keeps Request.IsQuiet (Standing a id R n used) := by
  refine keeps_of_later (fun r hr => ne_query_of_isQuiet hr) (fun s r hr hs => ?_)
    fun s s' hlater hs => hs.later hlater
  exact hs.tells fun log run _ _ _ => explains_of_isQuiet hr

theorem keeps_visiting : (setting a id).Keeps Request.IsQuiet (Visiting a id P S n steps) := by
  refine keeps_of_later (fun r hr => ne_query_of_isQuiet hr) (fun s r hr hs => ?_)
    fun s s' hlater hs => hs.later hlater
  exact hs.tells fun oid e log run _ _ _ _ _ => explains_of_isQuiet hr

/-- The requests of a visit are explained as long as its entry is started. -/
theorem keeps_visit (hP : ∀ oid e, P oid e → e.status = AuditEntry.started) :
    (setting a id).Keeps (Request.IsOfVisit n) (Visiting a id P S n steps) := by
  refine keeps_of_later (fun r hr q => ?_) (fun s r hr hs => ?_)
    fun s s' hlater hs => hs.later hlater
  · rintro rfl
    exact hr
  · refine hs.tells fun oid e log run _ _ hentry htype _ => ?_
    cases r with
    | post p => exact inVisitOf_cons (hP oid e hentry) (htype.trans hr)
    | sleep ms => exact hr.elim
    | _ => trivial

/-! ## The calls of a run -/

/-- The record of the run is told of the node that is visited next. -/
theorem names_upholds (hid : ObjectId.ofText? a.runId = some id) (hs : s.Standing a id R n used) :
    (Repository.updateTestRun a.runId (TestRun.visiting n.id)).Upholds (setting a id) s fun s o =>
      ∃ b, o = .done b ∧ s.Standing a id (fun _ run => run.currentNode = some n.id) n used := by
  have hwrite : ∀ oid, ObjectId.ofText? a.runId = some oid → ∀ s now, s.Standing a id R n used →
      let q : Query := .update .testRuns oid
        ((TestRun.visiting n.id).insert "updated_at" (.date now))
      (setting a id).fits s (.query q) ∧ ∀ (x : Except StoreError q.Answer) s',
        (setting a id).moves s ⟨.query q, x⟩ s' →
          s'.Standing a id (fun _ run => run.currentNode = some n.id) n used := by
    intro oid hoid s now hs
    obtain rfl : oid = id := Option.some.inj (hoid.symm.trans hid)
    refine ⟨hs.tells fun _ _ _ _ _ => trivial, fun x s' hmoves => ?_⟩
    obtain ⟨visited, log, run, walk, hshows, completed, steps, -, -⟩ := hs
    have hshows' := hshows.update hmoves (TestRun.merge_visiting run now n.id)
    exact ⟨visited, log, _, walk, hshows', completed, steps, Or.inl rfl, rfl⟩
  have hnone : ObjectId.ofText? a.runId = none → ∀ s : Scene, s.Standing a id R n used →
      s.Standing a id (fun _ run => run.currentNode = some n.id) n used := by
    intro hnone
    rw [hid] at hnone
    cases hnone
  refine (updateTestRun_upholds a.runId _
    (J := fun _ s => s.Standing a id (fun _ run => run.currentNode = some n.id) n used)
    keeps_standing keeps_standing hnone hwrite hs).mono ?_
  rintro s o (⟨b, ho, hs⟩ | ⟨-, hrefuses, -⟩)
  · exact ⟨b, ho, hs⟩
  · exact absurd hrefuses (not_refuses s)

/-- The visit of the node begins with an entry of its own. -/
theorem begins_upholds
    (hs : s.Standing a id (fun _ run => run.currentNode = some n.id) n used) :
    (Audit.begin (Runner.auditVisit a n)).Upholds (setting a id) s fun s o =>
      ∃ oid : ObjectId, o = .done (some oid.text) ∧
        s.Visiting a id (fun oid' e => e.status = AuditEntry.started ∧ oid' = oid) (fun _ => True) n
          used.steps := by
  -- once the time was told, every entry began before it
  let J (now : Moment) (s : Scene) : Prop := now.instant ≤ s.clock ∧
    s.Standing a id (fun log run => run.currentNode = some n.id ∧
      ∀ x ∈ log, x.2.startedAt.instant ≤ Moment.cutToMillisecond now.instant) n used
  have hclock : ∀ s : Scene,
      s.Standing a id (fun _ run => run.currentNode = some n.id) n used →
        (setting a id).fits s .clock ∧ ∀ now s', s.Moves a id ⟨.clock, now⟩ s' → J now s' := by
    intro s hs
    refine ⟨hs.tells fun _ _ _ _ _ => trivial, fun now s' hmoves => ?_⟩
    obtain ⟨store, ⟨⟨hbefore, hafter⟩, -⟩, -⟩ := hmoves.leaves
    have hlater := hmoves.later fun q => by rintro ⟨⟩
    obtain ⟨visited, log, run, walk, hshows, completed, steps, current, remark⟩ := hs
    refine ⟨hafter, visited, log, run, walk, hshows.later hlater, completed, steps,
      current, remark, fun x hx => ?_⟩
    exact Int.le_trans (hshows.past x hx) (Moment.cutToMillisecond_le hbefore)
  have hquiet : ∀ now, (setting a id).Keeps Request.IsQuiet (J now) := by
    intro now
    refine keeps_of_later (fun r hr => ne_query_of_isQuiet hr) (fun s r hr hs => ?_)
      fun s s' hlater hs => ⟨Int.le_trans hs.1 hlater.clock, hs.2.later hlater⟩
    exact hs.2.tells fun log run _ _ _ => explains_of_isQuiet hr
  refine begin_enters (K := fun oid s => s.Visiting a id
    (fun oid' e => e.status = AuditEntry.started ∧ oid' = oid) (fun _ => True) n used.steps)
    _ not_refuses hclock hquiet (fun now s hs => ⟨hs.2.tells fun _ _ _ _ _ => trivial, ?_⟩) hs
  intro x s' hmoves
  obtain ⟨hnow, visited, log, run, walk, hshows, completed, steps, -, current, hpast⟩ := hs
  obtain ⟨oid, hx, hshows'⟩ := hshows.enter hmoves hpast hnow
  exact ⟨oid, hx, visited, oid, _, log, run, walk, hshows', completed, steps, ⟨rfl, rfl⟩, current,
    trivial⟩

/-- The visit of the node leaves its entry alone, and stands in it when it pauses. -/
theorem visits_upholds (r : Runner) {used : Usage} (hs : s.Visiting a id
      (fun oid' e => e.status = AuditEntry.started ∧ oid' = oid) (fun _ => True) n used.steps) :
    (r.visit a n used).Upholds (setting a id) s fun s o =>
      (∃ x, o = outcomeOf x ∧ s.Visiting a id
          (fun oid' e => e.status = AuditEntry.started ∧ oid' = oid) (fun _ => True) n used.steps ∧
        ∀ step, x = .ok step → step.used.steps = used.steps ∧
          step.next = a.flow.follow? n (n.outcome a.recipient)) ∨
        o = .cancelled ∧ s.Tells a id fun _ _ => True := by
  refine (Runner.visit_upholds (keeps_visit fun oid e h => h.1) (L := fun s =>
    s.Tells a id fun _ _ => True) (W := fun _ s => s.Visiting a id
      (fun oid' e => e.status = AuditEntry.started ∧ oid' = oid) (fun _ => True) n used.steps)
    ?_ hs).mono fun s o ho => ho.goes
  intro d now ms hdelay hms hguard s hs
  have htype : n.type = "delay" := by rw [Node.type, hdelay]; rfl
  refine ⟨hs.tells fun oid e log run _ _ hentry hnode _ =>
    inVisitOf_cons hentry.1 (hnode.trans htype), fun s' hmoves => ?_, fun s' hmoves => ?_⟩
  · exact hs.later (Moves.later hmoves fun q => by rintro ⟨⟩)
  · have hlater := Moves.later hmoves fun q => by rintro ⟨⟩
    exact (hs.later hlater).tells fun _ _ _ _ _ _ _ _ _ => trivial

/-- The visit of the node ends with the end in its entry. -/
theorem finishes_upholds {entry : Option String} (hentry : entry = some oid.text) (status : String)
    (message : Option String) (hs : s.Visiting a id
      (fun oid' e => e.status = AuditEntry.started ∧ oid' = oid) (fun _ => True) n steps) :
    (Audit.finish entry status message).Upholds (setting a id) s fun s o =>
      o = .done () ∧ s.Visiting a id
        (fun _ e => e.status = status ∧ e.message = message ∧ e.HasEnded) (fun _ => True) n
          steps := by
  -- once the time was told, the visit began before it
  let J (now : Moment) (s : Scene) : Prop := s.Visiting a id (fun oid' e => oid' = oid ∧
    e.startedAt.instant ≤ Moment.cutToMillisecond now.instant) (fun _ => True) n steps
  have hclock : ∀ s : Scene, s.Visiting a id
      (fun oid' e => e.status = AuditEntry.started ∧ oid' = oid) (fun _ => True) n steps →
        (setting a id).fits s .clock ∧ ∀ now s', s.Moves a id ⟨.clock, now⟩ s' → J now s' := by
    intro s hs
    refine ⟨hs.tells fun _ _ _ _ _ _ _ _ _ => trivial, fun now s' hmoves => ?_⟩
    obtain ⟨store, ⟨⟨hbefore, -⟩, -⟩, -⟩ := hmoves.leaves
    have hlater := hmoves.later fun q => by rintro ⟨⟩
    obtain ⟨visited, oid', e, log, run, walk, hshows, completed, steps, ⟨-, hoid⟩, current,
      remark⟩ := hs
    refine ⟨visited, oid', e, log, run, walk, hshows.later hlater, completed, steps,
      ⟨hoid, ?_⟩, current, remark⟩
    exact Int.le_trans (hshows.past _ List.mem_cons_self) (Moment.cutToMillisecond_le hbefore)
  have hoid : ObjectId.ofText? oid.text = some oid := by
    obtain ⟨visited, oid', e, log, run, walk, hshows, completed, steps, ⟨-, rfl⟩, current,
      remark⟩ := hs
    obtain ⟨number, hnumber, hgiven⟩ := hshows.logs.given _ List.mem_cons_self
    rw [show oid' = _ from hgiven]
    exact ObjectId.ofText?_text
      (Collection.numbered_isProper (Nat.lt_of_le_of_lt hnumber hshows.room))
  generalize oid.text = text at hoid hentry
  subst hentry
  refine finish_changes hoid status message not_refuses hclock (fun now => keeps_visiting) ?_
    keeps_visiting hs
  intro now s hs
  refine ⟨hs.tells fun _ _ _ _ _ _ _ _ _ => trivial, fun x s' hmoves => ?_⟩
  obtain ⟨visited, oid', e, log, run, walk, hshows, completed, steps, ⟨rfl, hstarted⟩, current,
    remark⟩ := hs
  refine ⟨visited, oid', _, log, run, walk, hshows.finish hmoves, completed, steps,
    ⟨rfl, rfl, now.kept, rfl, ?_⟩, current, remark⟩
  rw [Moment.instant_kept]
  exact hstarted

/-! ## The end of a run -/

/-- How a walk ended: after a visit that ended well, before a node that the guard rejected, or in a
visit that failed for the same reason. -/
def Ended (a : Assignment) (id : ObjectId) (S : TestRun → Prop) : Ending → Scene → Prop
  | .completed used last, s => ∃ n, n.id = last ∧
      s.Visiting a id (fun _ e => e.IsCompleted) S n (used.steps - 1)
  | .failed used f, s =>
    (∃ n, s.Standing a id (fun _ run => S run) n used ∧ ∃ reason, f = .rejected reason) ∨
      ∃ n, s.Visiting a id (fun _ e => e.status = AuditEntry.failed ∧
        e.message = some f.reason ∧ e.HasEnded) S n used.steps

/-- What the record of a run says once its end was recorded. -/
def Records (run : TestRun) : Ending → Prop
  | .completed used last => run.status = TestRun.completed ∧
      run.summary = some (Ending.completed used last).summary
  | .failed used f => run.status = TestRun.failed ∧ run.error = some f.reason ∧
      run.summary = some (Ending.failed used f).summary

/-- What the entries of a run that has ended tell: no visit is open, the visits that ended well are
the steps of the run, and at most the last one failed, for the reason that the run failed for. -/
structure Settles (entries : List AuditEntry) (run : TestRun) (summary : Summary) : Prop where
  recorded : run.summary = some summary
  ended : ∀ e ∈ entries, e.status ≠ AuditEntry.started ∧ e.HasEnded
  steps : (entries.countP (fun e => e.status = AuditEntry.completed) : Int) = summary.steps
  outcome :
    (run.status = TestRun.completed ∧ ∀ e ∈ entries, e.status ≠ AuditEntry.failed) ∨
    (run.status = TestRun.failed ∧
      ((∃ last, entries.getLast? = some last ∧ last.status = AuditEntry.failed ∧
          last.message = run.error ∧ ∀ e ∈ entries.dropLast, e.status ≠ AuditEntry.failed) ∨
        (∀ e ∈ entries, e.status ≠ AuditEntry.failed) ∧
          ∃ reason, run.error = some (Failure.rejected reason).reason))

/-- Completed entries are counted in full. -/
theorem countP_completed (h : ∀ e ∈ entries, e.IsCompleted) :
    entries.countP (fun e => e.status = AuditEntry.completed) = entries.length :=
  List.countP_eq_length.2 fun e he => decide_eq_true (h e he).1

theorem Ended.later {ending : Ending} (h : Ended a id S ending s) (hlater : s.Later a id s') :
    Ended a id S ending s' := by
  cases ending with
  | completed used last =>
    obtain ⟨n, hn, hs⟩ := h
    exact ⟨n, hn, hs.later hlater⟩
  | failed used f =>
    rcases h with ⟨n, hs, hf⟩ | ⟨n, hs⟩
    · exact Or.inl ⟨n, hs.later hlater, hf⟩
    · exact Or.inr ⟨n, hs.later hlater⟩

theorem Ended.tells {ending : Ending} (h : Ended a id S ending s) :
    s.Tells a id fun _ _ => True := by
  cases ending with
  | completed used last =>
    obtain ⟨n, -, hs⟩ := h
    exact hs.tells fun _ _ _ _ _ _ _ _ _ => trivial
  | failed used f =>
    rcases h with ⟨n, hs, -⟩ | ⟨n, hs⟩
    · exact hs.tells fun _ _ _ _ _ => trivial
    · exact hs.tells fun _ _ _ _ _ _ _ _ _ => trivial

theorem keeps_ended {ending : Ending} :
    (setting a id).Keeps Request.IsQuiet (Ended a id S ending) := by
  refine keeps_of_later (fun r hr => ne_query_of_isQuiet hr) (fun s r hr hs => ?_)
    fun s s' hlater hs => hs.later hlater
  exact hs.tells.mono fun _ _ _ => explains_of_isQuiet hr

/-- The records of a run whose end was recorded are settled. -/
theorem Ended.settles {ending : Ending} (h : Ended a id (fun run => Records run ending) ending s) :
    s.Tells a id fun entries run => Settles entries run ending.summary := by
  cases ending with
  | completed used last =>
    obtain ⟨n, -, hs⟩ := h
    refine hs.tells fun oid e log run hcompleted hsteps hentry _ hrecords => ?_
    have hall : ∀ e' ∈ AuditEntry.listing ((oid, e) :: log), e'.IsCompleted :=
      AuditEntry.isCompleted_of_mem_listing (List.forall_mem_cons.2 ⟨hentry, hcompleted⟩)
    refine ⟨hrecords.2, fun e he => ⟨(hall e he).ne_started, (hall e he).2⟩, ?_,
      Or.inl ⟨hrecords.1, fun e he => (hall e he).ne_failed⟩⟩
    rw [countP_completed hall, AuditEntry.length_listing, List.length_cons]
    show _ = used.steps
    push_cast
    omega
  | failed used f =>
    rcases h with ⟨n, hs, reason, rfl⟩ | ⟨n, hs⟩
    · refine hs.tells fun log run hcompleted hsteps hrecords => ?_
      have hall := AuditEntry.isCompleted_of_mem_listing hcompleted
      refine ⟨hrecords.2.2, fun e he => ⟨(hall e he).ne_started, (hall e he).2⟩, ?_,
        Or.inr ⟨hrecords.1, Or.inr ⟨fun e he => (hall e he).ne_failed, reason, hrecords.2.1⟩⟩⟩
      rw [countP_completed hall, AuditEntry.length_listing]
      exact hsteps.symm
    · refine hs.tells fun oid e log run hcompleted hsteps hentry _ hrecords => ?_
      obtain ⟨hstatus, hmessage, hended⟩ := hentry
      have hall := AuditEntry.isCompleted_of_mem_listing hcompleted
      have hother : ∀ status, status ≠ AuditEntry.failed → e.status ≠ status := by
        rintro status hne rfl
        exact hne hstatus
      rw [AuditEntry.listing_cons]
      refine ⟨hrecords.2.2, fun e' he => ?_, ?_, Or.inr ⟨hrecords.1, Or.inl ⟨_,
        List.getLast?_concat, hstatus, hmessage.trans hrecords.2.1.symm, ?_⟩⟩⟩
      · rcases List.mem_append.1 he with he | he
        · exact ⟨(hall e' he).ne_started, (hall e' he).2⟩
        · rw [List.mem_singleton.1 he]
          exact ⟨hother _ (by decide), hended⟩
      · have hnone : List.countP (fun e : AuditEntry => e.status = AuditEntry.completed)
            [{ e with id := some oid.text }] = 0 :=
          List.countP_eq_zero.2 fun e' he => by
            rw [List.mem_singleton.1 he]
            simpa using hother AuditEntry.completed (by decide)
        rw [List.countP_append, countP_completed hall, hnone, AuditEntry.length_listing]
        exact hsteps.symm
      · rw [List.dropLast_concat]
        exact fun e' he => (hall e' he).ne_failed

/-- The end of a walk is recorded. -/
theorem Ended.record {ending : Ending} {finishedAt now : Moment} {x : Except StoreError Bool}
    (h : Ended a id (fun _ => True) ending s)
    (hmoves : s.Moves a id ⟨.query (.update .testRuns id
      ((ending.change finishedAt).insert "updated_at" (.date now))), x⟩ s') :
    Ended a id (fun run => Records run ending) ending s' := by
  cases ending with
  | completed used last =>
    obtain ⟨n, rfl, visited, oid, e, log, run, walk, hshows, completed, steps, entry, -, -⟩ := h
    have hmerge := TestRun.merge_completing run now finishedAt (some n.id)
      (Ending.completed used n.id).summary
    exact ⟨n, rfl, visited, oid, e, log, _, walk, hshows.update hmoves hmerge, completed, steps,
      entry, rfl, rfl, rfl⟩
  | failed used f =>
    have hmerge := fun run => TestRun.merge_failing run now finishedAt f.reason
      (Ending.failed used f).summary
    rcases h with ⟨n, ⟨visited, log, run, walk, hshows, completed, steps, current, -⟩, hf⟩ |
      ⟨n, visited, oid, e, log, run, walk, hshows, completed, steps, entry, current, -⟩
    · exact Or.inl ⟨n, ⟨visited, log, _, walk, hshows.update hmoves (hmerge run), completed, steps,
        current, rfl, rfl, rfl⟩, hf⟩
    · exact Or.inr ⟨n, visited, oid, e, log, _, walk, hshows.update hmoves (hmerge run), completed,
        steps, entry, current, rfl, rfl, rfl⟩

/-- After a visit that ended well the run may have ended. -/
theorem Visiting.ended (h : s.Visiting a id (fun _ e => e.IsCompleted) S n steps) (delayMs : Int) :
    Ended a id S (.completed ⟨steps + 1, delayMs⟩ n.id) s := by
  refine ⟨n, rfl, ?_⟩
  rwa [Int.add_sub_cancel]

/-- After a visit that ended well the run may stand before the node that follows. -/
theorem Visiting.standing {next : Node}
    (h : s.Visiting a id (fun _ e => e.IsCompleted) S n steps) (delayMs : Int)
    (hfollow : a.flow.follow? n (n.outcome a.recipient) = some next) :
    s.Standing a id (fun _ _ => True) next ⟨steps + 1, delayMs⟩ := by
  obtain ⟨visited, oid, e, log, run, walk, hshows, completed, steps, entry, current, -⟩ := h
  refine ⟨n :: visited, (oid, e) :: log, run, walk.step hfollow, hshows,
    List.forall_mem_cons.2 ⟨entry, completed⟩, ?_, Or.inr ⟨n, visited, rfl, current⟩, trivial⟩
  rw [List.length_cons, steps]
  rfl

theorem records (hid : ObjectId.ofText? a.runId = some id) :
    Runner.Records (setting a id) a (fun ending => Ended a id (fun _ => True) ending)
      fun _ ending => Ended a id (fun run => Records run ending) ending where
  keepsBefore ending := keeps_ended
  keepsAfter _ ending := keeps_ended
  unnamed hnone := by
    rw [hid] at hnone
    cases hnone
  named oid hoid ending s finishedAt now hs := by
    obtain rfl : oid = id := Option.some.inj (hoid.symm.trans hid)
    exact ⟨hs.tells, fun x s' hmoves => hs.record hmoves⟩
  refused s _ _ _ hrefuses := absurd hrefuses (not_refuses s)

/-- The outline of a run: between two visits, or in one. -/
def outline (r : Runner) (a : Assignment) (hid : ObjectId.ofText? a.runId = some id) :
    Outline (setting a id) r a where
  ready n used s := s.Standing a id (fun _ _ => True) n used
  named n used s := s.Standing a id (fun _ run => run.currentNode = some n.id) n used
  begun n used entry s := ∃ oid : ObjectId, entry = some oid.text ∧ s.Visiting a id
    (fun oid' e => e.status = AuditEntry.started ∧ oid' = oid) (fun _ => True) n used.steps
  visited n used entry x s := (∃ oid : ObjectId, entry = some oid.text ∧ s.Visiting a id
    (fun oid' e => e.status = AuditEntry.started ∧ oid' = oid) (fun _ => True) n used.steps) ∧
      ∀ step, x = .ok step →
        step.used.steps = used.steps ∧ step.next = a.flow.follow? n (n.outcome a.recipient)
  ended ending s := Ended a id (fun _ => True) ending s
  lost s := s.Tells a id fun _ _ => True
  rejects hs _ := Or.inl ⟨_, hs, _, rfl⟩
  names hs _ := (names_upholds hid hs).mono fun s o h => Or.inl h
  begins hs := by
    refine (begins_upholds hs).mono ?_
    rintro s o ⟨oid, ho, hs⟩
    exact ⟨_, ho, oid, rfl, hs⟩
  visits := by
    rintro n used entry s ⟨oid, hentry, hs⟩
    refine (visits_upholds r hs).mono ?_
    rintro s o (⟨x, ho, hs, hstep⟩ | hlost)
    · exact Or.inl ⟨x, ho, ⟨oid, hentry, hs⟩, hstep⟩
    · exact Or.inr hlost
  finishes := by
    rintro n used entry step s ⟨⟨oid, hentry, hs⟩, hstep⟩
    obtain ⟨hsteps, hnext⟩ := hstep step rfl
    refine (finishes_upholds hentry AuditEntry.completed (some step.message) hs).mono ?_
    rintro s o ⟨ho, hs⟩
    have hs : s.Visiting a id (fun _ e => e.IsCompleted) (fun _ => True) n step.used.steps := by
      rw [hsteps]
      exact hs.imp fun _ _ h => ⟨h.1, h.2.2⟩
    exact ⟨ho, fun _ => hs.ended _, fun next _ hfollow => hs.standing _ (hnext.symm.trans hfollow)⟩
  fails := by
    rintro n used entry f s ⟨⟨oid, hentry, hs⟩, -⟩
    refine (finishes_upholds hentry AuditEntry.failed (some f.reason) hs).mono ?_
    rintro s o ⟨ho, hs⟩
    exact ⟨ho, Or.inr ⟨n, hs⟩⟩
  remarks hs := report_upholds keeps_tells _ hs

/-- What is known when a run has ended: unless it was cancelled, its records are settled. -/
def Ends (a : Assignment) (id : ObjectId) (s : Scene) : Outcome Summary → Prop
  | .done summary => s.Tells a id fun entries run => Settles entries run summary
  | .failed _ => False
  | .cancelled => s.Tells a id fun _ _ => True

/-- The records of a run tell where it stands whenever it makes a request. -/
theorem run_upholds (r : Runner) (hid : ObjectId.ofText? a.runId = some id) {start : Node}
    (hstart : a.flow.start? = some start) (hs : s.Standing a id (fun _ _ => True) start .zero) :
    (r.run a).Upholds (setting a id) s (Ends a id) := by
  refine (outline r a hid).run keeps_standing ?_ ?_ (fun s hs => hs) hs
  · intro s hs
    rw [hstart]
    exact hs
  · intro ending s hs
    refine (Runner.conclude_upholds (records hid) hs).mono ?_
    rintro s o (⟨b, ending', rfl, hs⟩ | ⟨-, hrefuses⟩)
    · exact hs.settles
    · exact absurd hrefuses (not_refuses s)

/-- What the entries tell of what the run does next. -/
def Notes (entries : List AuditEntry) (run : TestRun) : Program Summary → Prop
  | .ask r _ => Explains entries r
  | .done summary => Settles entries run summary
  | .failed _ => False
  | .cancelled => True

/-- The records of a run can be read. -/
theorem Tells.read (h : s.Tells a id T) : ∃ visited entries run,
    (∀ w : World, w.Holds s.store →
      (w.perform (Repository.getAuditEntries a.runId)).1 = .done entries) ∧
    s.store.testRuns.findOne [.idIs id] = some ⟨id, run.document⟩ ∧
    run.Follows a visited entries ∧ T entries run := by
  obtain ⟨visited, log, run, hshows, hfollows, remark⟩ := h
  exact ⟨visited, _, run, fun w hw => hshows.logs.read hw, hshows.record, hfollows, remark⟩

/-- The audit trail of a run is its path. Take a run whose record names the start of its flow and
that has no audit entries yet, let all writes succeed and the time never go back, let others write
what they like but leave the records of the run alone, and stop at any point between two requests.
The audit entries, as they are then read, are those of a walk from the start, one for each visit,
all but the last completed, and the record names the node of the last entry or the one that is
visited next. A message is posted while the entry of an action is open, and the run sleeps while
that of a delay is. The run never fails; when it has ended, its entries and its record agree on
how. -/
theorem audit_follows_walk (r : Runner) (a : Assignment) {start : Node}
    (hstart : a.flow.start? = some start) {id : ObjectId} (hid : ObjectId.ofText? a.runId = some id)
    {s₀ s : Scene} {run₀ : TestRun}
    (hrecord : s₀.store.testRuns.findOne [.idIs id] = some ⟨id, run₀.document⟩)
    (hnamed : run₀.currentNode = some start.id)
    (hnone : s₀.store.executionLogs.find [.textIs "test_run_id" a.runId] = [])
    (hroom : s₀.store.executionLogs.lastNumber < 10 ^ 23) {p : Program Summary}
    (hway : Leads (Moves a id) s₀ (r.run a) s p) :
    ∃ visited entries run,
      (∀ w : World, w.Holds s.store →
        (w.perform (Repository.getAuditEntries a.runId)).1 = .done entries) ∧
      s.store.testRuns.findOne [.idIs id] = some ⟨id, run.document⟩ ∧
      run.Follows a visited entries ∧ Notes entries run p := by
  have hshows : s₀.Shows a id [] [] run₀ :=
    ⟨⟨hnone, fun _ _ _ h => absurd h List.not_mem_nil, fun _ h => absurd h List.not_mem_nil,
      List.Pairwise.nil⟩, hrecord, hroom, fun _ h => absurd h List.not_mem_nil, rfl⟩
  have hstands : s₀.Standing a id (fun _ _ => True) start .zero :=
    ⟨[], [], run₀, .start hstart, hshows, fun _ h => absurd h List.not_mem_nil, rfl, Or.inl hnamed,
      trivial⟩
  have hupholds := (run_upholds r hid hstart hstands).leads hway
  cases p with
  | ask request next => exact Tells.read hupholds.1
  | done summary => exact Tells.read (T := fun entries run => Settles entries run summary) hupholds
  | failed f => exact False.elim hupholds
  | cancelled =>
    exact Tells.read (T := fun _ _ => True) hupholds

/-! ## Runs that a world performs -/

/-- What there is to see of a world. -/
def ofWorld (w : World) : Scene := ⟨w.database.store, w.clock⟩

/-- A query was answered, or the exchange was none. -/
def answered : Exchange → Bool
  | ⟨.query _, .error _⟩ => false
  | _ => true

/-- Whether a program ends well in a world, has its queries answered, and leaves ids for audit
entries all the way. -/
def goesWell {α : Type} (w : World) : Program α → Bool
  | .ask r next => answered ⟨r, (w.answer r).1⟩ &&
      decide ((w.answer r).2.database.store.executionLogs.lastNumber < 10 ^ 23) &&
        goesWell (w.answer r).2 (next (w.answer r).1)
  | .done _ => true
  | .failed _ => false
  | .cancelled => false

theorem moves_answer {w : World} (hw : w.database.faults = []) {r : Request}
    (hanswered : answered ⟨r, (w.answer r).1⟩ = true)
    (hroom : (w.answer r).2.database.store.executionLogs.lastNumber < 10 ^ 23) :
    (ofWorld w).Moves a id ⟨r, (w.answer r).1⟩ (ofWorld (w.answer r).2) := by
  suffices hleaves : (ofWorld w).Leaves (ofWorld (w.answer r).2) ⟨r, (w.answer r).1⟩ from
    ⟨World.clock_answer_le hw r, ⟨_, hleaves, .refl _⟩, hroom⟩
  have hplain := World.answer_of_plain (q := r) hw
  have hstore : World.IsPlain r → (ofWorld (w.answer r).2).store = (ofWorld w).store :=
    fun hr => congrArg Database.store (hplain hr).1
  cases r with
  | query q =>
    have hdb := World.answer_of_faults_nil hw q
    simp only [World.answer, hdb] at hanswered ⊢
    cases hq : w.database.store.answer q with
    | ok x => exact ⟨x.1, hq, rfl⟩
    | error e =>
      simp only [hq] at hanswered
      cases hanswered
  | connect => exact ⟨World.answer_connect (World.holds_of_faults_nil hw), hstore trivial⟩
  | clock =>
    have hnow : w.now.instant = w.clock := Moment.instant_ofInstant w.clock
    exact ⟨⟨Int.le_of_eq hnow.symm, Int.le_of_eq hnow⟩, rfl⟩
  | post p => rfl
  | sleep ms => rfl
  | _ => exact hstore trivial

/-- A program that goes well in a world without faults has a way to its end. -/
theorem leads_perform {α : Type} {w : World} {p : Program α} (hw : w.database.faults = [])
    (h : goesWell w p = true) : ∃ x w', w.perform p = (.done x, w') ∧ w'.database.faults = [] ∧
      Leads (Moves a id) (ofWorld w) p (ofWorld w') (.done x) := by
  induction p generalizing w with
  | done x => exact ⟨x, w, rfl, hw, .refl _ _⟩
  | failed f => cases h
  | cancelled => cases h
  | ask r next ih =>
    simp only [goesWell, Bool.and_eq_true, decide_eq_true_eq] at h
    obtain ⟨x, w', ho, hfaults, hway⟩ := ih _ (World.faults_answer hw r) h.2
    exact ⟨x, w', ho, hfaults, .step (moves_answer hw h.1.1 h.1.2) hway⟩

/-- A world at the beginning of 1970 that holds nothing but the record of a run, at its start. -/
def begunWorld : World :=
  World.make ⟨"", "", 0, "", "", "", "", "", "", "", "", 0, 0, ""⟩ ⟨.nobody, Runner.defaultSubject⟩
    ⟨⟨.empty, ⟨[⟨⟨1⟩, (TestRun.begin "f" "to@example.com" "start" (.ofInstant 0)).document⟩], 1⟩,
      .empty⟩, []⟩ ⟨[], 0⟩ 0 .info

/-- The flow that waits for a minute, as it is run there. -/
def pause : Assignment := ⟨Runner.pausingFlow, "to@example.com", "000000000000000000000001"⟩

/-- When a run of the flow that waits for a minute has ended, its audit entries are read back, and
agree with its record on how it ended. -/
theorem audit_follows_walk_pausing :
    ∃ summary w, begunWorld.perform (begunWorld.runner.run pause) = (.done summary, w) ∧
      ∃ visited entries run,
        (w.perform (Repository.getAuditEntries pause.runId)).1 = .done entries ∧
        run.Follows pause visited entries ∧ Settles entries run summary := by
  have hgood : goesWell begunWorld (begunWorld.runner.run pause) = true := by decide +kernel
  obtain ⟨summary, w, hperform, hfaults, hway⟩ := leads_perform rfl hgood
  have hstart : pause.flow.start? = some ⟨"start", none, .start [], []⟩ := rfl
  have hid : ObjectId.ofText? pause.runId = some ⟨1⟩ := by decide
  have hrecord : (ofWorld begunWorld).store.testRuns.findOne [.idIs ⟨1⟩] =
      some ⟨⟨1⟩, (TestRun.begin "f" "to@example.com" "start" (.ofInstant 0)).document⟩ := rfl
  obtain ⟨visited, entries, run, hread, -, hfollows, hsettles⟩ :=
    audit_follows_walk begunWorld.runner pause hstart hid hrecord rfl rfl (by decide) hway
  have hread := hread w (World.holds_of_faults_nil hfaults)
  exact ⟨summary, w, hperform, visited, entries, run, hread, hfollows, hsettles⟩

end Scene

end Automation
