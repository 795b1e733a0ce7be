import Automation.Sweep
import Automation.World.Basic

/-!
# Background tasks

Tasks go on one after the other, each until it ends or falls asleep, in the order in which they were
begun. Time passes from one due task to the next: the earliest is woken, all tasks go on until they
sleep again, and so forth up to the moment that was asked for. The sweeper is begun anew whenever
its cycle is over.
-/

set_option autoImplicit false

namespace Automation.World

/-- One cycle of the sweeper. -/
def sweeperCycle (w : World) : Program Unit :=
  Sweep.cycle w.graceSeconds w.settings.checkIntervalSeconds

/-- The world with a task in another state, or without it. -/
def setTask (w : World) (number : Nat) (state : Option TaskState) : World :=
  { w with tasks := w.tasks.filterMap fun t =>
      if t.number = number then state.map fun s => { t with state := s } else some t }

/-- The world in which a task has fallen asleep. -/
def putToSleep (w : World) (number : Nat) (due : Int) (next : Wake → Program Unit) : World :=
  { w.setTask number (some (.asleep due w.turns next)) with turns := w.turns + 1 }

/-- The world after a task went on with a program. -/
def goOn (w : World) (t : Task) (p : Program Unit) : World :=
  match w.carryOn p with
  | (.asleep due next, w) => w.putToSleep t.number due next
  | (.ended, w) =>
    match t.owner with
    | .run _ => w.setTask t.number none
    | .sweeper =>
      match w.carryOn w.sweeperCycle with
      | (.asleep due next, w) => w.putToSleep t.number due next
      | (.ended, w) => w.setTask t.number none

/-- The world after every task that was ready went on. -/
def settle (w : World) : World :=
  w.tasks.foldl (fun w t =>
    match t.state with
    | .ready p => w.goOn t p
    | .asleep .. => w) w

/-! ## Time -/

/-- A sleeping task with its due time, its turn and what it goes on with. -/
structure Sleeper where
  task : Task
  due : Int
  turn : Nat
  next : Wake → Program Unit

/-- The tasks that are asleep. -/
def sleepers (w : World) : List Sleeper :=
  w.tasks.filterMap fun t =>
    match t.state with
    | .asleep due turn next => some ⟨t, due, turn, next⟩
    | .ready _ => none

/-- Whether a sleeper is woken before another. -/
def Sleeper.isBefore (a b : Sleeper) : Bool :=
  a.due < b.due || (a.due == b.due && a.turn < b.turn)

/-- The sleeper that is woken first. -/
def earliest? : List Sleeper → Option Sleeper
  | [] => none
  | s :: rest =>
    match earliest? rest with
    | none => some s
    | some t => if t.isBefore s then some t else some s

/-- The world after a sleeper was woken at its time and all tasks went on. -/
def wake (w : World) (s : Sleeper) : World :=
  ({ w with clock := s.due }.goOn s.task (s.next .elapsed)).settle

/-- The world in which everything that is due up to an instant has happened, in at most `fuel`
wakings. -/
def wakeUpTo (target : Int) : (fuel : Nat) → World → World
  | 0, w => w
  | fuel + 1, w =>
    match earliest? (w.sleepers.filter fun s => s.due ≤ target) with
    | none => w
    | some s => wakeUpTo target fuel (w.wake s)

/-- More wakings than can be due in a span: a run sleeps at most once in each of its steps, and the
sweeper once in each of its intervals. -/
def wakings (w : World) (micros : Int) : Nat :=
  let interval := max 1 (w.settings.checkIntervalSeconds * 1000000)
  (Guard.maxSteps.toNat + 1) * (w.tasks.length + 1) +
    ((micros + interval + w.sleepers.foldl (fun lag s => lag + (w.clock - s.due).natAbs) 0) /
      interval).toNat

/-- The world after some microseconds. -/
def advance (w : World) (micros : Int) : World :=
  let target := w.clock + micros
  { wakeUpTo target (w.wakings micros) w with clock := target }

/-! ## Beginning and ending -/

/-- The world in which the sweeper has begun. One that is at work already is left alone. -/
def startSweeper (w : World) : World :=
  if w.sweeping then w.report ⟨.warning, Sweep.speaker, "Reconciler is already running"⟩
  else
    let w := { w with sweeping := true }.begin .sweeper w.sweeperCycle
    w.report ⟨.info, Sweep.speaker,
      "Stale run reconciler started, checking every " ++
        toString w.settings.checkIntervalSeconds ++ " seconds"⟩

/-- The world in which the sweeper has stopped. -/
def stopSweeper (w : World) : World :=
  { w with sweeping := false, tasks := w.tasks.filter fun t => t.owner != Owner.sweeper }.report
    ⟨.info, Sweep.speaker, "Stale run reconciler stopped"⟩

/-- Whether a task is a run. -/
def Task.isRun (t : Task) : Bool :=
  match t.owner with
  | .run _ => true
  | .sweeper => false

/-- The world after a run was cancelled. One that had not begun leaves no trace. -/
def cancel (w : World) (t : Task) : World :=
  match t.state with
  | .ready _ => w.setTask t.number none
  | .asleep _ _ next => (w.carryOn (next .cancelled)).2.setTask t.number none

/-- The world in which every run was cancelled. -/
def cancelRuns (w : World) : World :=
  let runs := w.tasks.filter Task.isRun
  let w := runs.foldl cancel w
  if runs.isEmpty then w
  else
    w.report ⟨.warning, Runner.speaker,
      "Cancelled " ++ toString runs.length ++ " in-flight test run(s) on shutdown"⟩

end Automation.World
