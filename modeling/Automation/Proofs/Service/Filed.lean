import Automation.Proofs.Runner.Sketch
import Automation.Proofs.Service.Progress
import Automation.Proofs.Service.Stored
import Automation.Proofs.Store.Filing
import Automation.Proofs.World.Crowd

/-!
# The service files its records

Every program of the service writes its records under written forms of ids, whatever it is answered:
a run that begins has the id of a document that was read, and a run in the background has the id of
its record (`Http.Service.asks_filed_handle`, `Runner.asks_filed_run`). So however many calls are
being answered at once, and whatever else goes on beside them, every record is filed
(`Crowd.Reaches.isFiled`).
-/

set_option autoImplicit false

namespace Automation

open Program
open ObjectId (IsWritten)

-- how ids are written does not matter here, nor how names are trimmed, and both are costly to look
-- at
attribute [local irreducible] ObjectId.text Text.trim

theorem files_searches : Request.Searches Request.Files where
  quiet r h := by cases r <;> trivial
  findFlow _ := trivial
  findOne _ _ := trivial
  find _ _ _ := trivial

theorem files_of_isOfTerminal {r : Request} (h : r.IsOfTerminal) : r.Files := by
  cases r <;> trivial

theorem files_of_isOfNode {r : Request} (h : r.IsOfNode) : r.Files := by
  cases r <;> trivial

/-! ## Beginning runs -/

/-- A flow that was read has the id of its document. -/
theorem id_of_flowOf {now : Moment} {d : Document} {flow : Flow}
    (h : Repository.flowOf now d = .ok flow) : flow.id = some d.id.text := by
  have hnamed : d.named.get? "id" = some (.text d.id.text) := by
    rw [Document.named, Fields.get?_insert, if_pos rfl]
  have hread : ∀ flow, Flow.readFields now d.named = .ok flow → flow.id = some d.id.text := by
    unfold Flow.readFields
    -- the id is read first, and no other field bears on it
    iterate 5 refine Checked.forall_of_seq ?_
    intro g hg
    obtain ⟨id, hid, rfl⟩ := Checked.map_eq_ok.1 hg
    rw [Reader.optionalField, Reader.withDefault, hnamed] at hid
    cases hid
    intros
    rfl
  exact hread flow (Repository.readAs_eq_ok.1 h)

/-- A flow that exists has the written form of an id. -/
theorem yields_existing (id : String) :
    (Editor.existing id).Yields fun flow => ∃ oid : ObjectId, flow.id = some oid.text := by
  have hread : ∀ (operation : String) (d : Option Document),
      (Repository.flowOf? operation d).Yields fun found =>
        ∀ flow ∈ found, ∃ oid : ObjectId, flow.id = some oid.text := by
    intro operation d
    cases d with
    | none => exact yields_done nofun
    | some d =>
      refine yields_bind fun now => ?_
      cases hflow : Repository.flowOf now d with
      | error e => exact yields_bind fun _ => yields_failed
      | ok flow =>
        refine yields_done ?_
        rintro flow' ⟨⟩
        exact ⟨d.id, id_of_flowOf hflow⟩
  have hfound : (Repository.getFlow id).Yields fun found =>
      ∀ flow ∈ found, ∃ oid : ObjectId, flow.id = some oid.text := by
    unfold Repository.getFlow
    cases ObjectId.ofText? id with
    | none => exact yields_done nofun
    | some oid =>
      refine yields_bind fun _ => yields_bind fun x => ?_
      match x with
      | .ok d => exact hread _ d
      | .error e => exact yields_bind fun _ => yields_failed
  refine hfound.bind fun found h => ?_
  cases found with
  | none => exact yields_failed
  | some flow => exact yields_done (h flow rfl)

/-- A flow that is admitted is run under its own id. -/
theorem yields_admission (flow : Flow) :
    (Runner.admission flow).Yields fun admitted => flow.id = some admitted.1 := by
  refine yields_bind fun _ => ?_
  split
  · exact yields_failed
  · exact yields_failed
  · exact yields_failed
  · exact yields_failed
  · rename_i hid _
    exact yields_done hid

/-- A test run that was saved has the written form of an id. -/
theorem yields_createTestRun (run : TestRun) :
    (Repository.createTestRun run).Yields fun saved =>
      ∀ run ∈ saved, ∃ oid : ObjectId, run.id = some oid.text := by
  refine yields_bind fun _ => yields_bind fun x => ?_
  match x with
  | .ok (some oid) =>
    refine yields_done ?_
    rintro run' ⟨⟩
    exact ⟨oid, rfl⟩
  | .ok none =>
    exact yields_bind fun _ => yields_done fun run h => absurd h (Option.not_mem_none run)
  | .error e =>
    exact yields_bind fun _ => yields_done fun run h => absurd h (Option.not_mem_none run)

/-- A run that begins is recorded under the written form of the id of its flow, and goes on under
that of its own. -/
theorem asks_filed_start (id recipient : String) :
    (RunDesk.start id recipient).Asks Request.Files := by
  have h := files_searches
  refine h.asks_foreseen _ _ ((h.asks_existing id).bind_yields (yields_existing id) ?_)
  rintro flow ⟨oid, hflow⟩
  refine ((Runner.asks_admission flow).mono h.quiet).bind_yields (yields_admission flow) ?_
  rintro ⟨flowId, node⟩ hid
  obtain rfl : flowId = oid.text := Option.some.inj (hid.symm.trans hflow)
  refine ⟨trivial, fun now => ?_⟩
  have hbegin : Fields.FilesRun (TestRun.begin oid.text recipient node.id now).document :=
    ⟨_, rfl, oid.isWritten_text⟩
  refine (Asks.createTestRun h.quiet hbegin).bind_yields (yields_createTestRun _) ?_
  rintro (_ | run) hsaved
  · trivial
  · obtain ⟨runOid, hrun⟩ := hsaved run rfl
    refine ⟨?_, fun _ => ⟨trivial, fun _ => trivial⟩⟩
    show IsWritten (run.id.getD "")
    rw [hrun]
    exact runOid.isWritten_text

/-! ## Calls and scripts -/

theorem Http.Service.asks_filed_handle (allowed : String) (call : Call) :
    (handle allowed call).Asks Request.Files :=
  files_searches.asks_handle allowed fun route _ =>
    asks_serve_of files_searches (fun _ _ _ _ _ _ => trivial) (fun _ _ _ _ _ _ _ => trivial)
      (fun _ => trivial) asks_filed_start route

theorem Script.asks_filed_importSample : importSample.Asks Request.Files :=
  asks_importSample files_searches.toReads (fun _ => files_of_isOfTerminal) fun _ => trivial

namespace Sweep

theorem asks_filed_mark (ownsRuns : Bool) (now : Option Moment) (run : TestRun) :
    (mark ownsRuns now run).Asks Request.Files := by
  have hunowned : (mark false now run).Asks Request.Files := by
    refine ⟨trivial, fun clock => ?_⟩
    show Asks _ (Repository.updateTestRun (run.id.getD "") (TestRun.failing
      (now.getD clock) reason (summaryOf run)) >>= _)
    refine (Asks.updateTestRun files_searches.quiet _ fun oid now' =>
      ⟨.fail _ reason (summaryOf run), now', rfl⟩).bind fun marked => ?_
    cases marked <;> exact ⟨trivial, fun _ => trivial⟩
  cases ownsRuns with
  | false => exact hunowned
  | true =>
    refine ⟨trivial, fun active => ?_⟩
    cases active with
    | true => trivial
    | false => exact hunowned

theorem asks_filed_markAll (ownsRuns : Bool) (now : Option Moment) (runs : List TestRun) :
    (markAll ownsRuns now runs).Asks Request.Files := by
  induction runs with
  | nil => trivial
  | cons run rest ih =>
    exact (asks_filed_mark ownsRuns now run).bind fun _ => ih.bind fun _ => trivial

theorem asks_filed_run (ownsRuns : Bool) (graceSeconds : Int) (now : Option Moment) :
    (run ownsRuns graceSeconds now).Asks Request.Files := by
  refine ⟨trivial, fun clock => ?_⟩
  show Asks _ (ofExcept ((cutoff graceSeconds (now.getD clock)).mapError .span) >>= _)
  cases cutoff graceSeconds (now.getD clock) with
  | error e => trivial
  | ok before =>
    show Asks _ (Repository.getStaleTestRuns before >>= _)
    refine (Asks.getStaleTestRuns files_searches.quiet before trivial).bind fun stale => ?_
    cases stale with
    | nil => trivial
    | cons run rest => exact ⟨trivial, fun _ => asks_filed_markAll ownsRuns now (run :: rest)⟩

theorem asks_filed_cycle (graceSeconds intervalSeconds : Int) :
    (cycle graceSeconds intervalSeconds).Asks Request.Files := by
  refine (asks_filed_run true graceSeconds none).attempt.bind fun x => ?_
  cases x with
  | ok ids => exact ⟨trivial, fun wake => by cases wake <;> trivial⟩
  | error f =>
    refine ⟨trivial, fun _ => ⟨trivial, fun _ => ⟨trivial, fun wake => ?_⟩⟩⟩
    cases wake <;> trivial

end Sweep

theorem Script.asks_filed_reconcile (graceSeconds : Int) :
    (reconcile graceSeconds).Asks Request.Files := by
  refine asks_asScript (fun _ => files_of_isOfTerminal) (Asks.ensuring ?_
    (asks_close.mono fun _ => files_of_isOfTerminal))
  refine ⟨trivial, fun now => ?_⟩
  show Asks _ (ofExcept ((Sweep.cutoff graceSeconds now).mapError .span) >>= _)
  cases Sweep.cutoff graceSeconds now with
  | error e => trivial
  | ok before =>
    refine ⟨trivial, fun _ => (Sweep.asks_filed_run false graceSeconds none).bind fun marked => ?_⟩
    exact (asks_sayAll _).mono fun _ => files_of_isOfTerminal

/-! ## Runs in the background -/

namespace Program

variable {α : Type} {kind : Request → Prop}

theorem Asks.onCancel {p : Program α} {last : Program Unit} (h : p.Asks kind)
    (hlast : last.Asks kind) : (p.onCancel last).Asks kind := by
  induction p with
  | done a => trivial
  | failed f => trivial
  | cancelled => exact hlast.bind fun _ => trivial
  | ask r next ih => exact ⟨h.1, fun x => ih x (h.2 x)⟩

end Program

namespace Runner

variable {r : Runner} {a : Assignment} {n : Node} {used : Usage}

/-- A visit is entered under the id of its run. -/
theorem asks_filed_auditedVisit (h : IsWritten a.runId) :
    (r.auditedVisit a n used).Asks Request.Files := by
  have hfinish : ∀ entry status message, (Audit.finish entry status message).Asks Request.Files :=
    fun entry status message => Asks.finish files_searches.quiet entry status message
      fun _ now => ⟨now, status, message, rfl⟩
  have hentry : ∀ now, Fields.FilesEntry ((auditVisit a n).entry now).document :=
    fun _ => ⟨_, rfl, h⟩
  refine (Asks.begin files_searches.quiet _ hentry).bind fun entry => ?_
  refine ((r.asks_visit a n used).mono fun _ => files_of_isOfNode).attempt.bind fun x => ?_
  cases x with
  | ok step => exact (hfinish _ _ _).bind fun _ => trivial
  | error f => exact (hfinish _ _ _).bind fun _ => trivial

theorem asks_filed_advance (h : IsWritten a.runId) :
    (r.advance a n used).Asks Request.Files := by
  have hguard : (passGuard (Guard.check used 0)).Asks Request.Files := by
    unfold passGuard
    split <;> trivial
  refine hguard.bind fun _ => ?_
  refine (Asks.updateTestRun files_searches.quiet _ fun oid now =>
    ⟨.visit n.id, now, rfl⟩).bind fun _ => ?_
  exact (asks_filed_auditedVisit h).onCancel ⟨trivial, fun _ => trivial⟩

theorem asks_filed_walk (h : IsWritten a.runId) (steps : Nat) :
    (r.walk a steps n used).Asks Request.Files := by
  induction steps generalizing n used with
  | zero => trivial
  | succ steps ih =>
    refine (asks_filed_advance h).attempt.bind fun x => ?_
    cases x with
    | error f => trivial
    | ok step =>
      show Asks _ (if n.isEnd = true then _ else _)
      split
      · trivial
      · cases step.next with
        | none => trivial
        | some next => exact ih

/-- A run in the background files the audit of its visits. -/
theorem asks_filed_run (h : IsWritten a.runId) : (r.run a).Asks Request.Files := by
  have hwalk : (r.walkFromStart a).Asks Request.Files := by
    unfold walkFromStart
    split
    · trivial
    · exact asks_filed_walk h _
  refine ⟨trivial, fun _ => hwalk.bind fun ending => ?_⟩
  refine Asks.conclude files_searches.quiet a ending fun ending t _ now => ?_
  cases ending with
  | completed used last => exact ⟨.complete t (some last) _, now, rfl⟩
  | failed used f => exact ⟨.fail t f.reason _, now, rfl⟩

end Runner

/-! ## Worlds -/

/-- A task that goes on to file its records, however it is woken. -/
def TaskState.Files : TaskState → Prop
  | .ready p => p.Asks Request.Files
  | .asleep _ _ next => ∀ wake, (next wake).Asks Request.Files

namespace World

/-- A world in which every record is filed, now and as its tasks go on. -/
structure IsFiled (w : World) : Prop where
  store : w.database.store.IsFiled
  tasks : ∀ t ∈ w.tasks, t.state.Files

variable {α : Type} {w w' : World} {t : Task} {number : Nat}

/-- The world in which nothing was recorded yet. -/
theorem isFiled_of_nil (hruns : w.database.store.testRuns.documents = [])
    (hentries : w.database.store.executionLogs.documents = []) (htasks : w.tasks = []) :
    w.IsFiled where
  store := by
    constructor
    · rw [hruns]
      exact fun _ hd => absurd hd List.not_mem_nil
    · rw [hentries]
      exact fun _ hd => absurd hd List.not_mem_nil
  tasks := by
    rw [htasks]
    exact fun _ ht => absurd ht List.not_mem_nil

/-- A world with the store and the tasks of another one. -/
theorem IsFiled.congr (h : w.IsFiled) (hstore : w'.database.store = w.database.store)
    (htasks : w'.tasks = w.tasks) : w'.IsFiled :=
  ⟨by rw [hstore]; exact h.store, by rw [htasks]; exact h.tasks⟩

theorem IsFiled.report (h : w.IsFiled) (e : Journal.Entry) : (w.report e).IsFiled := by
  unfold World.report
  split
  · exact h.congr rfl rfl
  · exact h

theorem IsFiled.begin (h : w.IsFiled) (owner : Owner) {p : Program Unit}
    (hp : p.Asks Request.Files) : (w.begin owner p).IsFiled where
  store := h.store
  tasks t ht := by
    rcases List.mem_append.1 ht with ht | ht
    · exact h.tasks t ht
    · rw [List.mem_singleton.1 ht]
      exact hp

/-- A request that files what it writes leaves every record filed. -/
theorem IsFiled.answer (h : w.IsFiled) {r : Request} (hr : r.Files) :
    (w.answer r).2.IsFiled := by
  by_cases hlaunch : r.LaunchesNone
  · refine ⟨?_, ?_⟩
    · rcases w.store_answer r with hsame | ⟨q, y, rfl, hy⟩
      · rw [hsame]
        exact h.store
      · exact h.store.answer hr hy
    · rw [(tasks_answer w hlaunch).1]
      exact h.tasks
  · cases r with
    | launch flow recipient run =>
      have hrun := w.runner.asks_filed_run (a := ⟨flow, recipient, run⟩) hr
      exact h.begin _ (hrun.bind fun _ => trivial)
    | _ => exact absurd trivial hlaunch

theorem IsFiled.perform (h : w.IsFiled) {p : Program α} (hp : p.Asks Request.Files) :
    (w.perform p).2.IsFiled :=
  perform_upholds (hp.keeps (setting_keeps fun _ _ hr hw => hw.answer hr) h)

theorem IsFiled.setTask (h : w.IsFiled) {state : Option TaskState}
    (hstate : ∀ s ∈ state, s.Files) : (w.setTask number state).IsFiled where
  store := h.store
  tasks t ht := by
    cases state with
    | none => exact h.tasks t (mem_tasks_setTask_none.1 ht).1
    | some state =>
      obtain ⟨t', ht', rfl⟩ := mem_tasks_setTask_some.1 ht
      split
      · exact hstate state rfl
      · exact h.tasks t' ht'

theorem IsFiled.finish (h : w.IsFiled) : (w.setTask number none).IsFiled := h.setTask nofun

theorem IsFiled.ready (h : w.IsFiled) {p : Program Unit} (hp : p.Asks Request.Files) :
    (w.setTask number (some (.ready p))).IsFiled :=
  h.setTask fun s hs => by
    cases hs
    exact hp

theorem IsFiled.putToSleep (h : w.IsFiled) {due : Int} {next : Wake → Program Unit}
    (hnext : ∀ wake, (next wake).Asks Request.Files) : (w.putToSleep number due next).IsFiled := by
  have hasleep : (w.setTask number (some (.asleep due w.turns next))).IsFiled :=
    h.setTask fun s hs => by
      cases hs
      exact hnext
  exact hasleep.congr rfl rfl

/-! ## Tasks that go on -/

/-- What a task goes on with after a pause files its records too. -/
theorem IsFiled.carryOn (h : w.IsFiled) {p : Program Unit} (hp : p.Asks Request.Files) :
    (w.carryOn p).2.IsFiled ∧ ∀ due next, (w.carryOn p).1 = .asleep due next →
      ∀ wake, (next wake).Asks Request.Files := by
  induction p generalizing w with
  | done a => exact ⟨h, nofun⟩
  | failed f => exact ⟨h, nofun⟩
  | cancelled => exact ⟨h, nofun⟩
  | ask r next ih =>
    have hrest := ih (w.answer r).1 (h.answer hp.1) (hp.2 _)
    cases r with
    | sleep ms =>
      unfold World.carryOn
      split
      · refine ⟨h, ?_⟩
        rintro due next' ⟨⟩
        exact hp.2
      · exact ih .elapsed h (hp.2 _)
    | _ => exact hrest

theorem IsFiled.goOn (h : w.IsFiled) (t : Task) {p : Program Unit} (hp : p.Asks Request.Files) :
    (w.goOn t p).IsFiled := by
  have hcarried := h.carryOn hp
  unfold World.goOn
  generalize w.carryOn p = carried at hcarried ⊢
  obtain ⟨pause, w'⟩ := carried
  obtain ⟨h', hnext⟩ := hcarried
  cases pause with
  | asleep due next => exact h'.putToSleep (hnext due next rfl)
  | ended =>
    cases t.owner with
    | run id => exact h'.finish
    | sweeper =>
      -- the sweeper is begun anew
      have hcarried := h'.carryOn (p := w'.sweeperCycle) (Sweep.asks_filed_cycle _ _)
      dsimp only
      generalize w'.carryOn w'.sweeperCycle = carried at hcarried ⊢
      obtain ⟨pause, w''⟩ := carried
      obtain ⟨h'', hnext⟩ := hcarried
      cases pause with
      | asleep due next => exact h''.putToSleep (hnext due next rfl)
      | ended => exact h''.finish

theorem IsFiled.settle (h : w.IsFiled) : w.settle.IsFiled := by
  unfold World.settle
  have hall : ∀ (tasks : List Task) {w : World}, (∀ t ∈ tasks, t.state.Files) → w.IsFiled →
      (tasks.foldl (fun w t =>
        match t.state with
        | .ready p => w.goOn t p
        | .asleep .. => w) w).IsFiled := by
    intro tasks
    induction tasks with
    | nil => exact fun _ h => h
    | cons t rest ih =>
      intro w htasks h
      have ht := htasks t List.mem_cons_self
      refine ih (fun t' ht' => htasks t' (List.mem_cons_of_mem _ ht')) ?_
      dsimp only
      cases hstate : t.state with
      | ready p =>
        rw [hstate] at ht
        exact h.goOn t ht
      | asleep due turn next => exact h
  exact hall w.tasks h.tasks h

theorem earliest?_mem {sleepers : List Sleeper} {s : Sleeper} (h : earliest? sleepers = some s) :
    s ∈ sleepers := by
  induction sleepers generalizing s with
  | nil => cases h
  | cons first rest ih =>
    unfold earliest? at h
    cases hrest : earliest? rest with
    | none =>
      rw [hrest] at h
      cases h
      exact List.mem_cons_self
    | some t =>
      rw [hrest] at h
      dsimp only at h
      split at h <;> cases h
      · exact List.mem_cons_of_mem _ (ih hrest)
      · exact List.mem_cons_self

theorem IsFiled.wakeUpTo (h : w.IsFiled) (target : Int) (fuel : Nat) :
    (wakeUpTo target fuel w).IsFiled := by
  induction fuel generalizing w with
  | zero => exact h
  | succ fuel ih =>
    unfold World.wakeUpTo
    split
    · exact h
    · rename_i s hs
      have hsleeper := (List.mem_filter.1 (earliest?_mem hs)).1
      obtain ⟨t, ht, hstate⟩ := List.mem_filterMap.1 hsleeper
      have hfiles := h.tasks t ht
      cases htask : t.state with
      | ready p =>
        rw [htask] at hstate
        cases hstate
      | asleep due turn next =>
        rw [htask] at hstate hfiles
        cases hstate
        refine ih (IsFiled.settle (IsFiled.goOn ?_ _ (hfiles .elapsed)))
        exact h.congr rfl rfl

theorem IsFiled.advance (h : w.IsFiled) (micros : Int) : (w.advance micros).IsFiled :=
  (h.wakeUpTo _ _).congr rfl rfl

theorem IsFiled.startUp (h : w.IsFiled) : w.startUp.IsFiled := by
  have h := h.report ⟨.info, speaker, "Application startup complete"⟩
  unfold World.startUp World.startSweeper
  split
  · exact h.report _
  · refine IsFiled.report (IsFiled.begin ?_ _ (Sweep.asks_filed_cycle _ _)) _
    exact h.congr rfl rfl

theorem IsFiled.cancelRuns (h : w.IsFiled) : w.cancelRuns.IsFiled := by
  have hcancel : ∀ {w : World} {t : Task}, w.IsFiled → t.state.Files → (w.cancel t).IsFiled := by
    intro w t h ht
    unfold World.cancel
    cases hstate : t.state with
    | ready p => exact h.finish
    | asleep due turn next =>
      rw [hstate] at ht
      exact (h.carryOn (ht .cancelled)).1.finish
  have hall : ∀ (tasks : List Task) {w : World}, (∀ t ∈ tasks, t.state.Files) → w.IsFiled →
      (tasks.foldl World.cancel w).IsFiled := by
    intro tasks
    induction tasks with
    | nil => exact fun _ h => h
    | cons t rest ih =>
      exact fun htasks h => ih (fun t' ht' => htasks t' (List.mem_cons_of_mem _ ht'))
        (hcancel h (htasks t List.mem_cons_self))
  have hcancelled := hall (w.tasks.filter Task.isRun)
    (fun t ht => h.tasks t (List.mem_filter.1 ht).1) h
  unfold World.cancelRuns
  dsimp only
  split
  · exact hcancelled
  · exact hcancelled.report _

theorem IsFiled.shutDown (h : w.IsFiled) : w.shutDown.IsFiled := by
  have hstopped : { w with
      sweeping := false, tasks := w.tasks.filter fun t => t.owner != Owner.sweeper }.IsFiled :=
    ⟨h.store, fun t ht => h.tasks t (List.mem_filter.1 ht).1⟩
  have hclose := Script.asks_close.mono fun _ => files_of_isOfTerminal
  exact ((hstopped.report _).cancelRuns.perform hclose).report _

theorem IsFiled.runScript (h : w.IsFiled) {p : Program (Option Int)} (hp : p.Asks Request.Files) :
    (w.runScript p).2.2.IsFiled := by
  have hbefore : { w with connected := false, lines := [] }.IsFiled := h.congr rfl rfl
  have hafter := hbefore.perform hp
  unfold World.runScript
  generalize World.perform _ p = performed at hafter ⊢
  exact hafter.congr rfl rfl

/-! ## Whatever happens -/

/-- What happens beside the calls that are being answered: tasks go on, fall asleep, are woken and
end; time passes; the service starts and stops; a script is run, or a sweep; the store begins to
fail, or to work again. -/
inductive Passes (w : World) : World → Prop
  /-- A task makes a request and is ready to go on with the answer. -/
  | request {t : Task} {r : Request} {next : r.Answer → Program Unit} (ht : t ∈ w.tasks)
      (hstate : t.state = .ready (.ask r next)) :
      Passes w ((w.answer r).2.setTask t.number (some (.ready (next (w.answer r).1))))
  | fallAsleep {t : Task} {ms : Int} {next : Wake → Program Unit} (ht : t ∈ w.tasks)
      (hstate : t.state = .ready (.ask (.sleep ms) next)) (due : Int) :
      Passes w (w.putToSleep t.number due next)
  | wake {t : Task} {due : Int} {turn : Nat} {next : Wake → Program Unit} (ht : t ∈ w.tasks)
      (hstate : t.state = .asleep due turn next) (wake : Wake) :
      Passes w (w.setTask t.number (some (.ready (next wake))))
  | finish (number : Nat) : Passes w (w.setTask number none)
  | settle : Passes w w.settle
  | tick (clock : Int) : Passes w { w with clock }
  | advance (micros : Int) : Passes w (w.advance micros)
  | startUp : Passes w w.startUp
  | shutDown : Passes w w.shutDown
  | importSample : Passes w (w.runScript Script.importSample).2.2
  | reconcile (graceSeconds : Int) : Passes w (w.runScript (Script.reconcile graceSeconds)).2.2
  | sweep (now : Option Moment) : Passes w (w.sweep now).2
  | faults (faults : List Fault) : Passes w (w.withFaults faults)

/-- Whatever happens beside the calls leaves every record filed. -/
theorem IsFiled.passes (h : w.IsFiled) (hpasses : w.Passes w') : w'.IsFiled := by
  cases hpasses with
  | request ht hstate =>
    have hfiles := h.tasks _ ht
    rw [hstate] at hfiles
    exact (h.answer hfiles.1).ready (hfiles.2 _)
  | fallAsleep ht hstate due =>
    have hfiles := h.tasks _ ht
    rw [hstate] at hfiles
    exact h.putToSleep hfiles.2
  | wake ht hstate wake =>
    have hfiles := h.tasks _ ht
    rw [hstate] at hfiles
    exact h.ready (hfiles wake)
  | finish number => exact h.finish
  | settle => exact h.settle
  | tick clock => exact h.congr rfl rfl
  | advance micros => exact h.advance micros
  | startUp => exact h.startUp
  | shutDown => exact h.shutDown
  | importSample => exact h.runScript Script.asks_filed_importSample
  | reconcile graceSeconds => exact h.runScript (Script.asks_filed_reconcile graceSeconds)
  | sweep now => exact h.perform (Sweep.asks_filed_run true _ now)
  | faults faults => exact h.congr rfl rfl

end World

/-! ## Calls that are answered together -/

namespace Crowd

variable {ι α : Type} [DecidableEq ι] {c c' : Crowd ι α}

/-- Programs that go on to file their records, in a world in which every record is filed. -/
structure IsFiled (c : Crowd ι α) : Prop where
  world : c.world.IsFiled
  left : ∀ i, (c.left i).Asks Request.Files

/-- One step leaves every record filed. -/
theorem IsFiled.step (h : c.IsFiled) (hstep : Step World.Passes c c') : c'.IsFiled := by
  cases hstep with
  | @turn i r next hleft =>
    have hasks := h.left i
    rw [hleft] at hasks
    refine ⟨h.world.answer hasks.1, fun j => ?_⟩
    by_cases hj : j = i
    · subst hj
      rw [left_asked_self]
      exact hasks.2 _
    · rw [left_asked_of_ne hj]
      exact h.left j
  | aside hpasses => exact ⟨h.world.passes hpasses, h.left⟩

/-- In whatever order programs go on, every record is filed. -/
theorem Reaches.isFiled (hreaches : Reaches World.Passes c c') (h : c.IsFiled) : c'.IsFiled := by
  induction hreaches with
  | refl => exact h
  | tail _ hstep ih => exact ih.step hstep

end Crowd

end Automation
