import Automation.Proofs.Service.Stages
import Automation.Proofs.World.Performance
import Automation.World.Schedule

/-!
# The service step by step

The service goes on by steps: a flow is tested, one run makes one request, falls asleep, wakes or is
over, the time passes, updates of test runs begin or cease to fail, a sweep goes through, or the
service shuts down. Between any two steps of one run others may take theirs. A step tells of which
runs the record is left behind: those that are cancelled, and those whose end could not be written.

`World.InOrder` is the invariant: the records are coherent, each run in the background has one of
its own, which counts as running as long as the run is under way, and each record that counts as
running has a run in the background, unless it was left behind.
-/

set_option autoImplicit false

namespace Automation

open Program

/-- A run whose record is left behind. -/
inductive Event where
  | cancelled (run : String)
  | unrecorded (run : String)
  deriving DecidableEq, Repr

/-- An exchange leaves the record of its run behind if it was to write the end and did not. -/
def Exchange.losses (run : String) : Exchange → List Event
  | ⟨.query (.update .testRuns _ changes), answer⟩ =>
    if changes.endsRun then
      match answer with
      | .ok true => []
      | _ => [.unrecorded run]
    else []
  | _ => []

/-- A program that is over. -/
def Program.IsOver {α : Type} : Program α → Prop
  | .ask .. => False
  | _ => True

/-- The run that a task is for. -/
def Task.run? (t : Task) : Option String :=
  match t.owner with
  | .run id => some id
  | .sweeper => none

namespace World

/-- The test runs of a world. -/
def shelf (w : World) : Shelf := w.database.store.testRuns

/-- One step of the service, and the runs whose records it leaves behind. -/
inductive Step : World → List Event → World → Prop
  /-- A flow is tested. -/
  | start (w : World) (flow : Flow) (recipient : String) :
      Step w [] (w.perform (Runner.start flow recipient)).2
  /-- A run makes a request and is ready to go on with the answer. -/
  | request {w : World} {t : Task} {run : String} {r : Request} {next : r.Answer → Program Unit}
      (ht : t ∈ w.tasks) (howner : t.owner = .run run) (hstate : t.state = .ready (.ask r next))
      (hr : ∀ ms, r ≠ .sleep ms) :
      Step w (Exchange.losses run ⟨r, (w.answer r).1⟩)
        ((w.answer r).2.setTask t.number (some (.ready (next (w.answer r).1))))
  | fallAsleep {w : World} {t : Task} {ms : Int} {next : Wake → Program Unit} (ht : t ∈ w.tasks)
      (hstate : t.state = .ready (.ask (.sleep ms) next)) (hms : 0 < ms) :
      Step w [] (w.putToSleep t.number (w.clock + microseconds ms) next)
  /-- A pause that is not positive is over at once. -/
  | skip {w : World} {t : Task} {ms : Int} {next : Wake → Program Unit} (ht : t ∈ w.tasks)
      (hstate : t.state = .ready (.ask (.sleep ms) next)) (hms : ms ≤ 0) :
      Step w [] (w.setTask t.number (some (.ready (next .elapsed))))
  | wake {w : World} {t : Task} {due : Int} {turn : Nat} {next : Wake → Program Unit}
      (ht : t ∈ w.tasks) (hstate : t.state = .asleep due turn next) (hdue : due ≤ w.clock) :
      Step w [] (w.setTask t.number (some (.ready (next .elapsed))))
  /-- A run that is over is in the background no longer. -/
  | finish {w : World} {t : Task} {p : Program Unit} (ht : t ∈ w.tasks)
      (hstate : t.state = .ready p) (hp : p.IsOver) : Step w [] (w.setTask t.number none)
  /-- Time passes. -/
  | tick {w : World} {clock : Int} (hclock : w.clock ≤ clock) : Step w [] { w with clock }
  /-- From now on some updates of test runs fail, and no others. -/
  | fault {w : World} {faults : List Fault} (hfaults : ∀ f ∈ faults, f.IsOfUpdates) :
      Step w [] { w with database := ⟨w.database.store, faults⟩ }
  /-- A sweep that spares the runs in the background. -/
  | sweep (w : World) (graceSeconds : Int) (now : Option Moment) :
      Step w [] (w.perform (Sweep.run true graceSeconds now)).2
  /-- Every run is cancelled. -/
  | shutdown (w : World) : Step w ((w.tasks.filterMap Task.run?).map Event.cancelled) w.cancelRuns

/-- The service on its way, step by step, and the runs whose records were left behind. -/
inductive Steps : World → List Event → World → Prop
  | refl (w : World) : Steps w [] w
  | step {w w' w'' : World} {es es' : List Event} (hsteps : Steps w es w')
      (hstep : Step w' es' w'') : Steps w (es ++ es') w''

end World

/-! ## The invariant -/

/-- What a stage tells of the record of a run. -/
def Stage.Tells (s : Shelf) (es : List Event) (oid : ObjectId) : Stage → Prop
  | .underway => ∀ d ∈ s.documents, d.id = oid → d.IsRunning
  | .concluded =>
    (∀ d ∈ s.documents, d.id = oid → ¬ d.IsRunning) ∨ Event.unrecorded oid.text ∈ es
  | .cancelled => False

/-- What a task goes on with, if it is for a run at a stage. -/
def TaskState.Upholds (oid : ObjectId) (stage : Stage) : TaskState → Prop
  | .ready p => p.Upholds (Stage.setting oid) stage Stage.Ends
  | .asleep _ _ next =>
    (next .elapsed).Upholds (Stage.setting oid) stage Stage.Ends ∧
      (next .cancelled).Upholds (Stage.setting oid) .cancelled Stage.Ends

/-- A task is for a run with a record, and goes on as its stage allows. -/
def Task.IsSound (s : Shelf) (es : List Event) (t : Task) : Prop :=
  ∃ oid stage, t.owner = .run oid.text ∧ oid.IsProper ∧ (∃ d ∈ s.documents, d.id = oid) ∧
    t.state.Upholds oid stage ∧ stage.Tells s es oid

namespace World

/-- More numbers than any collection gives out as ids of twenty-four digits. -/
def ids : Nat := 10 ^ 23

/-- The records and the runs in the background fit together. -/
structure InOrder (w : World) (es : List Event) : Prop where
  faults : ∀ f ∈ w.database.faults, f.IsOfUpdates
  register : w.shelf.IsRegister
  room : w.shelf.lastNumber < ids
  numbers : (w.tasks.map Task.number).Nodup
  turns : ∀ t ∈ w.tasks, t.number < w.turns
  owners : (w.tasks.map Task.owner).Nodup
  tasks : ∀ t ∈ w.tasks, t.IsSound w.shelf es
  live : ∀ d ∈ w.shelf.documents, d.IsRunning →
    w.isActive d.id.text = true ∨ Event.cancelled d.id.text ∈ es ∨
      Event.unrecorded d.id.text ∈ es

variable {w w' : World} {es es' : List Event} {t t' : Task} {oid : ObjectId} {number : Nat}

theorem InOrder.isProper (h : w.InOrder es) {d : Document} (hd : d ∈ w.shelf.documents) :
    d.id.IsProper := by
  obtain ⟨n, hn, hid⟩ := h.register.given d hd
  rw [hid]
  exact Collection.numbered_isProper (Nat.lt_of_le_of_lt hn h.room)

/-- A run under a number above every one that was given out has no record. -/
theorem InOrder.numbered_ne (h : w.InOrder es) {n : Nat} (hn : w.shelf.lastNumber < n)
    (hroom : n < ids) {d : Document} (hd : d ∈ w.shelf.documents) :
    (Collection.testRuns.numbered n).text ≠ d.id.text := fun htext =>
  h.register.isNumbered.id_ne hn d hd
    (ObjectId.text_inj (Collection.numbered_isProper hroom) (h.isProper hd) htext).symm

theorem InOrder.holds (h : w.InOrder es) : w.Holds w.database.store := ⟨rfl, h.faults⟩

theorem isActive_iff {run : String} :
    w.isActive run = true ↔ ∃ t ∈ w.tasks, t.owner = .run run := by
  simp [isActive]

/-- A task stays sound when no record of its run was touched. -/
theorem isSound_mono {s s' : Shelf} (h : t.IsSound s es) (hes : ∀ e ∈ es, e ∈ es')
    (hprecedes : s.Precedes s')
    (hsame : ∀ oid, t.owner = .run oid.text → oid.IsProper → ∀ d ∈ s'.documents, d.id = oid →
      d ∈ s.documents) : t.IsSound s' es' := by
  obtain ⟨oid, stage, howner, hproper, ⟨d, hd, hid⟩, hstate, htells⟩ := h
  obtain ⟨d', hd', hid', -⟩ := hprecedes.documents d hd
  refine ⟨oid, stage, howner, hproper, ⟨d', hd', hid'.trans hid⟩, hstate, ?_⟩
  have hback := hsame oid howner hproper
  cases stage with
  | underway => exact fun d hd hid => htells d (hback d hd hid) hid
  | concluded =>
    rcases htells with hended | hlost
    · exact Or.inl fun d hd hid => hended d (hback d hd hid) hid
    · exact Or.inr (hes _ hlost)
  | cancelled => exact htells

/-- What does not touch the test runs and the tasks leaves a world in order. -/
theorem InOrder.congr (h : w.InOrder es) (hshelf : w'.shelf = w.shelf)
    (hfaults : ∀ f ∈ w'.database.faults, f.IsOfUpdates) (htasks : w'.tasks = w.tasks)
    (hturns : w.turns ≤ w'.turns) : w'.InOrder es where
  faults := hfaults
  register := by rw [hshelf]; exact h.register
  room := by rw [hshelf]; exact h.room
  numbers := by rw [htasks]; exact h.numbers
  turns t ht := Nat.lt_of_lt_of_le (h.turns t (by rwa [htasks] at ht)) hturns
  owners := by rw [htasks]; exact h.owners
  tasks := by rw [htasks, hshelf]; exact h.tasks
  live := by
    unfold isActive
    rw [htasks, hshelf]
    exact h.live

/-! ## Tasks -/

theorem mem_tasks_setTask_some {state : TaskState} :
    t' ∈ (w.setTask number (some state)).tasks ↔
      ∃ t ∈ w.tasks, t' = if t.number = number then { t with state } else t := by
  simp only [setTask, List.mem_filterMap, Option.map_some]
  refine exists_congr fun t => and_congr_right fun _ => ?_
  split <;> simp [eq_comm]

theorem mem_tasks_setTask_none :
    t' ∈ (w.setTask number none).tasks ↔ t' ∈ w.tasks ∧ t'.number ≠ number := by
  simp only [setTask, List.mem_filterMap, Option.map_none]
  constructor
  · rintro ⟨t, ht, hstate⟩
    split at hstate
    · cases hstate
    · rename_i hne
      cases hstate
      exact ⟨ht, hne⟩
  · rintro ⟨ht, hne⟩
    exact ⟨t', ht, if_neg hne⟩

/-- A task in another state has the number and the owner that it had. -/
theorem map_tasks_setTask_some {β : Type} (f : Task → β) {state : TaskState}
    (hf : ∀ t : Task, f { t with state } = f t) :
    (w.setTask number (some state)).tasks.map f = w.tasks.map f := by
  have hsome : (w.setTask number (some state)).tasks =
      w.tasks.map fun t => if t.number = number then { t with state } else t := by
    rw [← List.filterMap_eq_map]
    refine List.filterMap_congr fun t _ => ?_
    by_cases hnumber : t.number = number <;> simp [hnumber]
  rw [hsome, List.map_map]
  refine List.map_congr_left fun t _ => ?_
  show f (if t.number = number then { t with state } else t) = f t
  split
  · exact hf t
  · rfl

theorem tasks_setTask_none_sublist : (w.setTask number none).tasks.Sublist w.tasks := by
  have hfilter : (w.setTask number none).tasks = w.tasks.filter fun t => t.number ≠ number := by
    rw [← List.filterMap_eq_filter]
    refine List.filterMap_congr fun t _ => ?_
    by_cases hnumber : t.number = number <;> simp [hnumber, Option.guard]
  rw [hfilter]
  exact List.filter_sublist

theorem isActive_setTask_some {state : TaskState} {run : String} :
    (w.setTask number (some state)).isActive run = w.isActive run := by
  have howners : (w.setTask number (some state)).tasks.map Task.owner = w.tasks.map Task.owner :=
    map_tasks_setTask_some Task.owner fun _ => rfl
  have hany : ∀ tasks : List Task, (tasks.any fun t => t.owner == Owner.run run) =
      (tasks.map Task.owner).any (· == Owner.run run) := by
    intro tasks
    rw [List.any_map]
    rfl
  unfold isActive
  rw [hany, howners, ← hany]

theorem InOrder.eq_of_number_eq (h : w.InOrder es) (ht : t ∈ w.tasks) (ht' : t' ∈ w.tasks)
    (hnumber : t.number = t'.number) : t = t' :=
  List.inj_on_of_nodup_map h.numbers ht ht' hnumber

theorem InOrder.eq_of_owner_eq (h : w.InOrder es) (ht : t ∈ w.tasks) (ht' : t' ∈ w.tasks)
    (howner : t.owner = t'.owner) : t = t' :=
  List.inj_on_of_nodup_map h.owners ht ht' howner

/-- A task goes on: the world stays in order if what it goes on with fits its new stage, nothing
happened but to the record of its run, and that record was left behind if it counts as running
without need. -/
theorem InOrder.goOn (h : w.InOrder es) {stage : Stage} {state : TaskState} (ht : t ∈ w.tasks)
    (howner : t.owner = .run oid.text) (hproper : oid.IsProper)
    (hfaults : ∀ f ∈ w'.database.faults, f.IsOfUpdates) (htasks : w'.tasks = w.tasks)
    (hturns : w.turns ≤ w'.turns) (hregister : w'.shelf.IsRegister)
    (hroom : w'.shelf.lastNumber < ids) (hprecedes : w.shelf.Precedes w'.shelf)
    (hothers : ∀ d ∈ w'.shelf.documents, d.id ≠ oid → d ∈ w.shelf.documents)
    (hstate : state.Upholds oid stage) (htells : stage.Tells w'.shelf (es ++ es') oid) :
    (w'.setTask t.number (some state)).InOrder (es ++ es') := by
  have hactive : ∀ run, (w'.setTask t.number (some state)).isActive run = w.isActive run := by
    intro run
    rw [isActive_setTask_some]
    unfold isActive
    rw [htasks]
  refine ⟨hfaults, hregister, hroom, ?_, ?_, ?_, ?_, ?_⟩
  · rw [map_tasks_setTask_some Task.number fun _ => rfl, htasks]
    exact h.numbers
  · intro t' ht'
    obtain ⟨t'', ht'', rfl⟩ := mem_tasks_setTask_some.1 ht'
    rw [htasks] at ht''
    have hturn : t''.number < w'.turns := Nat.lt_of_lt_of_le (h.turns t'' ht'') hturns
    split <;> exact hturn
  · rw [map_tasks_setTask_some Task.owner fun _ => rfl, htasks]
    exact h.owners
  · intro t' ht'
    obtain ⟨t'', ht'', rfl⟩ := mem_tasks_setTask_some.1 ht'
    rw [htasks] at ht''
    split
    · -- the task itself
      rename_i hnumber
      obtain rfl := h.eq_of_number_eq ht'' ht hnumber
      obtain ⟨oid', stage', howner', hproper', ⟨d, hd, hid⟩, -⟩ := h.tasks t'' ht
      rw [howner, Owner.run.injEq] at howner'
      obtain rfl := ObjectId.text_inj hproper hproper' howner'
      obtain ⟨d', hd', hid', -⟩ := hprecedes.documents d hd
      exact ⟨oid, stage, howner, hproper, ⟨d', hd', hid'.trans hid⟩, hstate, htells⟩
    · -- any other task is for another run
      rename_i hnumber
      refine isSound_mono (h.tasks t'' ht'') (fun e he => List.mem_append_left _ he) hprecedes ?_
      intro oid' howner' hproper' d hd hid
      refine hothers d hd fun hsame => ?_
      rw [← hid, hsame] at howner'
      exact hnumber (congrArg Task.number (h.eq_of_owner_eq ht'' ht (howner'.trans howner.symm)))
  · intro d hd hrunning
    rw [hactive]
    by_cases hid : d.id = oid
    · exact Or.inl (isActive_iff.2 ⟨t, ht, by rw [hid]; exact howner⟩)
    · rcases h.live d (hothers d hd hid) hrunning with hlive | hlost | hlost
      · exact Or.inl hlive
      · exact Or.inr (Or.inl (List.mem_append_left _ hlost))
      · exact Or.inr (Or.inr (List.mem_append_left _ hlost))

end World

end Automation
