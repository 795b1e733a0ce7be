import Automation.Proofs.Runner.Interruption
import Automation.Proofs.Service.Finality
import Automation.Proofs.Sweep.Marked
import Automation.World.Session

/-!
# Shutdown and the sweeps after it

A service that shuts down cancels its runs, each of which has not begun or is suspended in a delay
(`World.InFlight`). Nothing is left in the background, the store and what was posted stay as they
are, and so does what the records of the runs tell. Each of these runs is marked as failed by the
first sweep afterwards that catches it, and by no other (`World.interrupted_runs_swept_once`).
-/

set_option autoImplicit false

namespace Automation

open World (Outcome)
open Program

/-! ## Runs in flight -/

namespace World

/-- Where the run of a task stands: it has not begun, or it is suspended in a delay. All its writes
have succeeded, and others have left its records alone. -/
inductive Flight (w : World) (a : Assignment) (id : ObjectId) (began : Moment) : TaskState → Prop
  | waiting (hfresh : (Scene.ofWorld w).Fresh a id began) :
      Flight w a id began (.ready (w.runTask a.flow a.recipient a.runId))
  | suspended {s₀ : Scene} {ms due : Int} {turn : Nat} {next : Wake → Program Summary}
      (hfresh : s₀.Fresh a id began)
      (hway : Leads (Scene.Moves a id) s₀ (w.runner.run a) (Scene.ofWorld w)
        (.ask (.sleep ms) next)) :
      Flight w a id began (.asleep due turn fun wake => (next wake).bind fun _ => .done ())

/-- A task is a run in flight, under a record that was made at a moment. -/
structure InFlight (w : World) (t : Task) (a : Assignment) (id : ObjectId) (began : Moment) :
    Prop where
  owner : t.owner = .run a.runId
  named : a.runId = id.text
  proper : id.IsProper
  flight : w.Flight a id began t.state

/-- What the audit tells of a run that was interrupted: nothing if it had not begun, and else the
nodes up to the delay, whose entry is left started. -/
def LeavesTrail (a : Assignment) (entries : List AuditEntry) : TaskState → Prop
  | .ready _ => entries = []
  | .asleep .. => ∃ delay before, AuditEntry.StandIn a delay before entries

variable {w : World} {t : Task} {a : Assignment} {id : ObjectId} {began : Moment} {store : Store}

theorem InFlight.ofText? (h : w.InFlight t a id began) : ObjectId.ofText? a.runId = some id := by
  rw [h.named]
  exact ObjectId.ofText?_text h.proper

/-- The record of a run in flight says nothing of an end. -/
theorem Flight.unended {state : TaskState} (h : w.Flight a id began state)
    (hid : ObjectId.ofText? a.runId = some id) : (Scene.ofWorld w).Unended id began := by
  cases h with
  | waiting hfresh => exact hfresh.unended
  | suspended hfresh hway => exact Scene.record_at_pause hid hfresh hway

/-- The audit of a run in flight has entries for the nodes up to the delay that it is in. -/
theorem Flight.trail {state : TaskState} (h : w.Flight a id began state)
    (hid : ObjectId.ofText? a.runId = some id) :
    ∃ entries, LeavesTrail a entries state ∧ ∀ w' : World, w'.Holds w.database.store →
      (w'.perform (Repository.getAuditEntries a.runId)).1 = .done entries := by
  cases h with
  | waiting hfresh => exact ⟨[], rfl, fun w' hw' => hfresh.read hw'⟩
  | suspended hfresh hway =>
    obtain ⟨delay, before, entries, hstands, hread⟩ := Scene.trail_at_pause hid hfresh hway
    exact ⟨entries, ⟨delay, before, hstands⟩, hread⟩

/-- A task that is cancelled at the point where a run in flight stands does nothing that lasts. -/
theorem Flight.upholds {state : TaskState} (h : w.Flight a id began state)
    (hid : ObjectId.ofText? a.runId = some id) : ∃ stage, state.Upholds id stage := by
  cases h with
  | waiting hfresh => exact ⟨.underway, Stage.runTask_upholds w a.flow a.recipient hid⟩
  | suspended hfresh hway =>
    obtain ⟨stage, hway'⟩ := Scene.stage_leads hway .underway
    have hpause := Stage.asTask ((Stage.run_upholds _ a hid).leads hway')
    exact ⟨stage, upholds_of_sleep hpause _ _⟩

/-! ## Shutdown -/

/-- A world with the store, the tasks and the posts of another one. -/
structure Stays (w w' : World) : Prop where
  database : w'.database = w.database
  tasks : w'.tasks = w.tasks
  posts : w'.posts = w.posts

theorem Stays.refl (w : World) : w.Stays w := ⟨rfl, rfl, rfl⟩

theorem Stays.trans {w' w'' : World} (h : w.Stays w') (h' : w'.Stays w'') : w.Stays w'' :=
  ⟨h'.database.trans h.database, h'.tasks.trans h.tasks, h'.posts.trans h.posts⟩

/-- A plain request that begins no run changes nothing that lasts, where the store has no faults. -/
theorem Stays.answer (hfaults : w.database.faults = []) {r : Request} (hplain : IsPlain r)
    (hlaunch : r.LaunchesNone) : w.Stays (w.answer r).2 := by
  obtain ⟨hdatabase, hface⟩ := answer_of_plain hfaults hplain
  exact ⟨hdatabase, (tasks_answer w hlaunch).1, congrArg Face.posts hface⟩

/-- Such requests keep what lasts of a world. -/
theorem keeps_stays (hfaults : w.database.faults = []) :
    setting.Keeps (fun r => IsPlain r ∧ r.LaunchesNone) w.Stays := by
  refine setting_keeps fun w' r hr hstays => hstays.trans (Stays.answer ?_ hr.1 hr.2)
  rw [hstays.database, hfaults]

/-- A run that is cancelled posts nothing more. -/
theorem posts_cancel {oid : ObjectId} {stage : Stage} (h : t.state.Upholds oid stage)
    (hfaults : w.database.faults = []) : (w.cancel t).posts = w.posts := by
  unfold cancel
  cases hstate : t.state with
  | ready p => rfl
  | asleep due turn next =>
    rw [hstate] at h
    have hkeeps : setting.Keeps Request.IsQuiet w.Stays := fun w' r hr =>
      keeps_stays hfaults w' r ⟨isPlain_of_isQuiet hr, hr.launchesNone⟩
    have hholds := holds_of_faults_nil hfaults
    exact (carryOn_cancelled_keeps (I := w.Stays) h.2 hkeeps hholds (Stays.refl w)).posts

theorem posts_foldl_cancel (runs : List Task)
    (h : ∀ t ∈ runs, ∃ oid stage, t.state.Upholds oid stage) (hfaults : w.database.faults = []) :
    (runs.foldl cancel w).posts = w.posts := by
  induction runs generalizing w with
  | nil => rfl
  | cons first rest ih =>
    obtain ⟨oid, stage, hfirst⟩ := h first List.mem_cons_self
    have hdatabase := (cancel_eq hfirst (holds_of_faults_nil hfaults)).1
    have hrest := ih (fun t ht => h t (List.mem_cons_of_mem _ ht)) (by rw [hdatabase, hfaults])
    exact hrest.trans (posts_cancel hfirst hfaults)

theorem Stays.report (w : World) (e : Journal.Entry) : w.Stays (w.report e) := by
  unfold World.report
  split <;> exact ⟨rfl, rfl, rfl⟩

/-- When the sweeper stops it is in the background no longer. -/
theorem stopSweeper_eq (w : World) : w.stopSweeper.database = w.database ∧
    w.stopSweeper.posts = w.posts ∧
      w.stopSweeper.tasks = w.tasks.filter fun t => t.owner != Owner.sweeper := by
  unfold stopSweeper World.report
  split <;> exact ⟨rfl, rfl, rfl⟩

/-- When all runs are cancelled nothing is posted. -/
theorem posts_cancelRuns (h : ∀ t ∈ w.tasks, Task.isRun t = true ∧
    ∃ oid stage, t.state.Upholds oid stage) (hfaults : w.database.faults = []) :
    w.cancelRuns.posts = w.posts := by
  have hposts := posts_foldl_cancel (w.tasks.filter Task.isRun)
    (fun t ht => (h t (List.mem_filter.1 ht).1).2) hfaults
  unfold cancelRuns
  simp only
  split
  · exact hposts
  · exact (Stays.report _ _).posts.trans hposts

/-- When the client of a store without faults is closed, nothing that lasts changes. -/
theorem closeStore_stays (hfaults : w.database.faults = []) : w.Stays w.closeStore := by
  have hasks : Repository.close.Asks fun r => IsPlain r ∧ r.LaunchesNone := by
    refine ⟨⟨trivial, trivial⟩, fun x => ?_⟩
    cases x with
    | error f => exact ⟨⟨trivial, trivial⟩, fun _ => ⟨⟨trivial, trivial⟩, fun _ => trivial⟩⟩
    | ok u => exact ⟨⟨trivial, trivial⟩, fun _ => trivial⟩
  exact perform_upholds (Q := fun w' _ => w.Stays w')
    (hasks.keeps (keeps_stays hfaults) (Stays.refl w))

/-- A shutdown leaves nothing in the background, and the store and what was posted as they are. -/
theorem shutDown_eq (hfaults : w.database.faults = [])
    (hruns : ∀ t ∈ w.tasks, Task.isRun t = true → ∃ oid stage, t.state.Upholds oid stage) :
    w.shutDown.tasks = [] ∧ w.shutDown.database = w.database ∧ w.shutDown.posts = w.posts := by
  obtain ⟨hdatabase, hposts, hfilter⟩ := w.stopSweeper_eq
  have htasks : ∀ t ∈ w.stopSweeper.tasks, t ∈ w.tasks ∧ Task.isRun t = true := by
    intro t ht
    rw [hfilter] at ht
    obtain ⟨hmem, howner⟩ := List.mem_filter.1 ht
    refine ⟨hmem, ?_⟩
    unfold Task.isRun
    cases hown : t.owner with
    | run id => rfl
    | sweeper => simp [hown] at howner
  have hnone : w.stopSweeper.database.faults = [] := by rw [hdatabase, hfaults]
  have hsound : ∀ t ∈ w.stopSweeper.tasks, Task.isRun t = true ∧
      ∃ oid stage, t.state.Upholds oid stage :=
    fun t ht => ⟨(htasks t ht).2, hruns t (htasks t ht).1 (htasks t ht).2⟩
  obtain ⟨hempty, hsame⟩ := cancelRuns_eq (holds_of_faults_nil hnone) hsound
  have hquiet := posts_cancelRuns hsound hnone
  have hclosed : w.stopSweeper.cancelRuns.Stays w.shutDown :=
    (closeStore_stays (by rw [hsame, hnone])).trans (Stays.report _ _)
  exact ⟨hclosed.tasks.trans hempty, hclosed.database.trans (hsame.trans hdatabase),
    hclosed.posts.trans (hquiet.trans hposts)⟩

/-- Where nothing is in the background, time passes and that is all. -/
theorem advance_eq (h : w.tasks = []) (micros : Int) :
    w.advance micros = { w with clock := w.clock + micros } := by
  have hnone : w.sleepers = [] := by rw [sleepers, h, List.filterMap_nil]
  have hwake : ∀ fuel, wakeUpTo (w.clock + micros) fuel w = w := by
    intro fuel
    cases fuel with
    | zero => rfl
    | succ fuel => rw [wakeUpTo, hnone, List.filter_nil, earliest?]
  rw [advance, hwake]

/-- A shutdown interrupts runs cleanly, and sweeps finish each of them once. A service whose store
does not fail, and whose test runs are in order, shuts down while its runs have not begun or are
suspended in a delay. Nothing is in the background any more, and whatever time passes nothing is
posted or written. Each run is still recorded as running, with the moment at which it began and
without an end, an error or a summary; its audit entries are those of the nodes up to the delay,
whose entry is left started, or there are none if it had not begun. Of any sweeps afterwards, in any
order and by any process, exactly the first marks it as failed whose cutoff is later than the moment
at which it began, both cut to the millisecond, and after that its record stays as it is. -/
theorem interrupted_runs_swept_once (hfaults : w.database.faults = [])
    (hregister : w.shelf.IsRegister) (hroom : w.shelf.lastNumber < ids)
    (hflight : ∀ t ∈ w.tasks, Task.isRun t = true → ∃ a id began, w.InFlight t a id began) :
    w.shutDown.tasks = [] ∧
    (∀ micros, (w.shutDown.advance micros).posts = w.posts ∧
      (w.shutDown.advance micros).database = w.database) ∧
    ∀ t ∈ w.tasks, ∀ a id began, w.InFlight t a id began → ∃ (run : TestRun) (entries : _),
      w.shutDown.shelf.findOne [.idIs id] = some ⟨id, run.document⟩ ∧
      run.IsUnended ∧ run.startedAt = began.kept ∧
      (w.shutDown.perform (Repository.getAuditEntries a.runId)).1 = .done entries ∧
      LeavesTrail a entries t.state ∧
      ∀ xs : List Round, (∀ x ∈ xs, x.IsKept) →
        (w.shutDown.sweepAll xs).shelf.findOne [.idIs id] = some ⟨id,
          ((xs.find? fun x => x.catches began).elim run fun x => x.marked run).document⟩ ∧
        ∀ ys x zs, xs = ys ++ x :: zs →
          (a.runId ∈ ((w.shutDown.sweepAll ys).sweepAt x).1 ↔
            x.catches began = true ∧ ∀ y ∈ ys, y.catches began = false) := by
  have hruns : ∀ t ∈ w.tasks, Task.isRun t = true → ∃ oid stage, t.state.Upholds oid stage := by
    intro t ht hrun
    obtain ⟨a, id, began, h⟩ := hflight t ht hrun
    obtain ⟨stage, hstate⟩ := h.flight.upholds h.ofText?
    exact ⟨id, stage, hstate⟩
  obtain ⟨hnone, hdatabase, hposts⟩ := shutDown_eq hfaults hruns
  have hshelf : w.shutDown.shelf = w.shelf := congrArg (fun db => db.store.testRuns) hdatabase
  refine ⟨hnone, fun micros => ?_, fun t ht a id began h => ?_⟩
  · rw [advance_eq hnone]
    exact ⟨hposts, hdatabase⟩
  · obtain ⟨run, hrecord, hunended, hbegan⟩ := h.flight.unended h.ofText?
    obtain ⟨entries, htrail, hread⟩ := h.flight.trail h.ofText?
    have hholds : w.shutDown.HoldsRun id run := by
      have hrests : w.shutDown.database = ⟨w.shutDown.database.store, []⟩ := by
        rw [hdatabase, ← hfaults]
      exact ⟨⟨_, hrests, hnone, rfl⟩, by rw [hshelf]; exact hregister, by rw [hshelf]; exact hroom,
        by rw [hshelf]; exact hrecord⟩
    refine ⟨run, entries, by rw [hshelf]; exact hrecord, hunended, hbegan, hread _ ?_, htrail, ?_⟩
    · rw [← hdatabase]
      exact holds_of_faults_nil (by rw [hdatabase, hfaults])
    · intro xs hkept
      refine ⟨(hholds.sweepAll hbegan hunended.status hkept).record, ?_⟩
      rintro ys x zs rfl
      rw [h.named]
      exact hholds.marked_iff hbegan hunended.status
        (fun y hy => hkept y (List.mem_append_left _ hy))
        (hkept x (List.mem_append_right _ List.mem_cons_self))

end World

/-! ## Runs that a world suspends -/

namespace Scene

variable {α : Type} {a : Assignment} {id : ObjectId}

/-- Whether a program comes to a pause in a world, has its queries answered, begins no run, and
leaves ids for audit entries up to there. -/
def pausesWell (w : World) : Program α → Bool
  | .ask (.sleep ms) _ => decide (0 < ms)
  | .ask (.launch ..) _ => false
  | .ask r next => answered ⟨r, (w.answer r).1⟩ &&
      decide ((w.answer r).2.database.store.executionLogs.lastNumber < 10 ^ 23) &&
        pausesWell (w.answer r).2 (next (w.answer r).1)
  | _ => false

theorem runner_answer (w : World) (r : Request) : (w.answer r).2.runner = w.runner := by
  cases r with
  | report e =>
    simp only [World.answer, World.report]
    split <;> rfl
  | connect =>
    simp only [World.answer]
    split
    · rfl
    · split <;> rfl
  | disconnect =>
    simp only [World.answer]
    split <;> rfl
  | _ => rfl

/-- A program has come to a pause in a world, and has changed no tasks on its way. -/
structure ComesTo (a : Assignment) (id : ObjectId) (w : World) (p : Program α) (w' : World)
    (ms : Int) (next : Wake → Program α) : Prop where
  faults : w'.database.faults = []
  tasks : w'.tasks = w.tasks
  runner : w'.runner = w.runner
  way : Leads (Moves a id) (ofWorld w) p (ofWorld w') (.ask (.sleep ms) next)

/-- A program that pauses well in a world without faults has a way to its first pause. -/
theorem leads_carryOn (a : Assignment) (id : ObjectId) {w : World} {p : Program α}
    (k : α → Program Unit)
    (hw : w.database.faults = []) (h : pausesWell w p = true) :
    ∃ ms next w', ComesTo a id w p w' ms next ∧ w.carryOn (p >>= k) =
      (.asleep (w'.clock + World.microseconds ms) fun wake => next wake >>= k, w') := by
  induction p generalizing w with
  | done x => cases h
  | failed f => cases h
  | cancelled => cases h
  | ask r next ih =>
    -- all requests but a pause are answered, and the program goes on
    have hstep : (answered ⟨r, (w.answer r).1⟩ &&
        decide ((w.answer r).2.database.store.executionLogs.lastNumber < 10 ^ 23) &&
          pausesWell (w.answer r).2 (next (w.answer r).1)) = true → r.LaunchesNone →
        ∃ ms next' w', ComesTo a id w (.ask r next) w' ms next' ∧
          (w.answer r).2.carryOn (next (w.answer r).1 >>= k) =
            (.asleep (w'.clock + World.microseconds ms) fun wake => next' wake >>= k, w') := by
      intro hgood hlaunch
      simp only [Bool.and_eq_true, decide_eq_true_eq] at hgood
      obtain ⟨ms, next', w', hcomes, hcarry⟩ := ih _ (World.faults_answer hw r) hgood.2
      refine ⟨ms, next', w', ⟨hcomes.faults, ?_, ?_, ?_⟩, hcarry⟩
      · exact hcomes.tasks.trans (World.tasks_answer w hlaunch).1
      · exact hcomes.runner.trans (runner_answer w r)
      · exact .step (moves_answer hw hgood.1.1 hgood.1.2) hcomes.way
    cases r with
    | sleep ms =>
      have hms : 0 < ms := of_decide_eq_true h
      refine ⟨ms, next, w, ⟨hw, rfl, rfl, .refl _ _⟩, ?_⟩
      show (if 0 < ms then _ else _) = _
      rw [if_pos hms]
      rfl
    | launch flow recipient run => cases h
    | _ => exact hstep h trivial

end Scene

namespace World

/-- The flow that waits for a minute, saved under an id. -/
def savedPause : Flow := { Runner.pausingFlow with id := some "p" }

/-- A run of it, under the first id that the store gives. -/
def pauseRun : Assignment := ⟨savedPause, "to@example.com", (Collection.testRuns.numbered 1).text⟩

/-- A world at the beginning of 1970 in which the run was begun. -/
def startedPause : World := (idleWorld.perform (Runner.start savedPause "to@example.com")).2

/-- The task of the run before its first step. -/
def pauseTask : Task :=
  ⟨0, .run pauseRun.runId,
    .ready (startedPause.runTask pauseRun.flow pauseRun.recipient pauseRun.runId)⟩

/-- The world in which the run has come to its delay. -/
@[irreducible] def pausedWorld : World :=
  startedPause.goOn pauseTask
    (startedPause.runTask pauseRun.flow pauseRun.recipient pauseRun.runId)

/-- A sweep of another process with an hour of grace, some seconds after the beginning of 1970. -/
def sweepAfter (seconds : Int) : Round := ⟨seconds * 1000000, false, 3600, none⟩

/-- The paused world holds one run in flight, and its test runs are in order. -/
theorem pausedWorld_inFlight : ∃ t, pausedWorld.tasks = [t] ∧
    pausedWorld.InFlight t pauseRun (Collection.testRuns.numbered 1) (.ofInstant 0) ∧
    (∃ due turn next, t.state = .asleep due turn next) ∧
    pausedWorld.database.faults = [] ∧ pausedWorld.shelf.IsRegister := by
  have hgood : Scene.pausesWell startedPause (startedPause.runner.run pauseRun) = true := by
    decide +kernel
  have hfresh : (Scene.ofWorld startedPause).Fresh pauseRun (Collection.testRuns.numbered 1)
      (.ofInstant 0) :=
    ⟨⟨"p", ⟨"start", none, .start [], []⟩, rfl, rfl⟩, rfl, by decide +kernel⟩
  obtain ⟨ms, next, w, hcomes, hcarry⟩ := Scene.leads_carryOn pauseRun
    (Collection.testRuns.numbered 1) (fun _ => .done ()) rfl hgood
  have hworld : pausedWorld = w.putToSleep 0 (w.clock + microseconds ms) fun wake =>
      (next wake).bind fun _ => .done () := by
    unfold pausedWorld goOn
    rw [show startedPause.carryOn (startedPause.runTask pauseRun.flow pauseRun.recipient
      pauseRun.runId) = _ from hcarry]
    rfl
  have hids : pausedWorld.shelf.documents.map Document.id = [Collection.testRuns.numbered 1] := by
    decide +kernel
  have hlast : pausedWorld.shelf.lastNumber = 1 := by decide +kernel
  have htasks : pausedWorld.tasks = [⟨0, .run pauseRun.runId, .asleep
      (w.clock + microseconds ms) w.turns fun wake => (next wake).bind fun _ => .done ()⟩] := by
    have hstarted : startedPause.tasks = [pauseTask] := rfl
    rw [hworld, putToSleep, setTask, hcomes.tasks, hstarted]
    rfl
  have hway : Leads (Scene.Moves pauseRun (Collection.testRuns.numbered 1))
      (Scene.ofWorld startedPause) (pausedWorld.runner.run pauseRun) (Scene.ofWorld pausedWorld)
      (.ask (.sleep ms) next) := by
    have hrunner : pausedWorld.runner = startedPause.runner := by
      rw [hworld]
      exact hcomes.runner
    rw [hrunner, hworld]
    exact hcomes.way
  have hflight : pausedWorld.InFlight ⟨0, .run pauseRun.runId, .asleep
      (w.clock + microseconds ms) w.turns fun wake => (next wake).bind fun _ => .done ()⟩ pauseRun
        (Collection.testRuns.numbered 1) (.ofInstant 0) :=
    ⟨rfl, rfl, Collection.numbered_isProper (by decide), .suspended hfresh hway⟩
  refine ⟨_, htasks, hflight, ⟨_, _, _, rfl⟩, ?_, ?_⟩
  · rw [hworld]
    exact hcomes.faults
  · -- the only record is that of the run
    obtain ⟨run, hrecord, hunended, -⟩ := hflight.flight.unended hflight.ofText?
    obtain ⟨d, hdocuments, hid⟩ := List.map_eq_singleton_iff.1 hids
    have hmem : (⟨Collection.testRuns.numbered 1, run.document⟩ : Document) ∈
        pausedWorld.shelf.documents := List.mem_of_find?_eq_some hrecord
    rw [hdocuments, List.mem_singleton] at hmem
    subst hmem
    refine ⟨fun d hd => ?_, by rw [hids]; exact List.nodup_singleton _, fun d hd => ?_⟩
    · rw [hdocuments, List.mem_singleton] at hd
      subst hd
      exact ⟨run, rfl, Or.inl ⟨hunended.status, hunended.finishedAt, hunended.error,
        hunended.summary⟩⟩
    · rw [hdocuments, List.mem_singleton] at hd
      subst hd
      exact ⟨1, by rw [hlast], rfl⟩

/-- A run that is suspended in its delay at the beginning of 1970 leaves an open entry. A sweep a
day later leaves it alone, one after two days marks it, and one after three days does not. -/
theorem interrupted_runs_swept_once_paused :
    pausedWorld.shutDown.tasks = [] ∧ ∃ (entries : List AuditEntry) (delay : Node) (before : _),
      (pausedWorld.shutDown.perform (Repository.getAuditEntries pauseRun.runId)).1 = .done entries ∧
      AuditEntry.StandIn pauseRun delay before entries ∧
      pauseRun.runId ∉ (pausedWorld.shutDown.sweepAt (sweepAfter 86400)).1 ∧
      pauseRun.runId ∈ ((pausedWorld.shutDown.sweepAll [sweepAfter 86400]).sweepAt
        (sweepAfter 172800)).1 ∧
      pauseRun.runId ∉ ((pausedWorld.shutDown.sweepAll [sweepAfter 86400,
        sweepAfter 172800]).sweepAt (sweepAfter 259200)).1 := by
  obtain ⟨t, htasks, hflight, ⟨due, turn, next, hstate⟩, hfaults, hregister⟩ :=
    pausedWorld_inFlight
  have hroom : pausedWorld.shelf.lastNumber < ids := by decide +kernel
  have ht : t ∈ pausedWorld.tasks := by
    rw [htasks]
    exact List.mem_singleton_self t
  obtain ⟨hnone, -, hruns⟩ := interrupted_runs_swept_once hfaults hregister hroom (by
    intro t' ht' _
    rw [htasks, List.mem_singleton] at ht'
    subst ht'
    exact ⟨_, _, _, hflight⟩)
  obtain ⟨run, entries, -, -, -, hread, htrail, hsweeps⟩ := hruns t ht _ _ _ hflight
  rw [hstate] at htrail
  obtain ⟨delay, before, hstands⟩ := htrail
  have hkept : ∀ x ∈ [sweepAfter 86400, sweepAfter 172800, sweepAfter 259200], x.IsKept := by
    intro x hx
    simp only [List.mem_cons, List.not_mem_nil, or_false] at hx
    rcases hx with rfl | rfl | rfl <;> refine ⟨by decide, by decide, fun before hbefore => ?_⟩ <;>
      rw [Moment.isSome_stored?, Sweep.instant_of_cutoff hbefore] <;> decide
  have hmarks := (hsweeps _ hkept).2
  refine ⟨hnone, entries, delay, before, hread, hstands, ?_, ?_, ?_⟩
  · have hmark := hmarks [] (sweepAfter 86400) _ rfl
    exact fun hmem => absurd (hmark.1 hmem).1 (by decide)
  · exact (hmarks [sweepAfter 86400] (sweepAfter 172800) _ rfl).2 (by decide)
  · have hmark := hmarks [sweepAfter 86400, sweepAfter 172800] (sweepAfter 259200) _ rfl
    exact fun hmem => absurd (hmark.1 hmem).2 (by decide)

end World

end Automation
