import Automation.Guard
import Automation.Repository.TestRuns

/-!
# Sweeping up stale runs

A run can wait for a day altogether, so one that still counts as running after a day and some grace
has nobody behind it. A sweep marks such runs as failed, except those that are active in this
process. The sweep is repeated in the background, and a sweep that fails is told to the journal and
tried again after the same interval.
-/

set_option autoImplicit false

namespace Automation.Sweep

/-- The part of the service that speaks of sweeps. -/
def speaker : String := "StaleRunReconcilerService"

/-- The reason that a stale run is given. -/
def reason : String :=
  "Run interrupted before completion (no progress within the maximum run window)"

/-- How long a run may count as running: the longest time waited altogether, and the grace, in
microseconds. -/
def windowMicros (graceSeconds : Int) : Int := Guard.maxTotalMs * 1000 + graceSeconds * 1000000

/-- The span of the window, if it can be stated in days. -/
def window? (graceSeconds : Int) : Except SpanDefect Int :=
  let micros := windowMicros graceSeconds
  let days := micros / Moment.day
  if days < -2147483648 ∨ 2147483648 ≤ days then .error .daysSize
  else if 999999999 < days.natAbs then .error (.daysRange days)
  else .ok micros

/-- The moment before which a run must have begun to be stale now. -/
def cutoff (graceSeconds : Int) (now : Moment) : Except SpanDefect Moment :=
  match window? graceSeconds with
  | .error e => .error e
  | .ok micros =>
    match now.plus? (-micros) with
    | some m => .ok m
    | none => .error .dateRange

/-- The summary of a stale run: what it used so far, and the reason. -/
def summaryOf (run : TestRun) : Summary :=
  { run.summary.getD .zero with failureReason := some reason }

/-- Marks one run as failed, unless it is active here. The result is its id, if it was marked. -/
def mark (ownsRuns : Bool) (now : Option Moment) (run : TestRun) : Program (Option String) := do
  let id := run.id.getD ""
  let active ← if ownsRuns then Program.ask (.isActive id) .done else pure false
  if active then pure none
  else
    let clock ← Program.now
    let finishedAt := now.getD clock
    if ← Repository.updateTestRun id (TestRun.failing finishedAt reason (summaryOf run)) then
      Program.warning speaker
        ("Test run " ++ id ++ " (flow " ++ run.flowId ++ ") marked as failed: " ++ reason)
      pure (some id)
    else
      Program.error speaker ("Failed to mark stale test run " ++ id ++ " as failed")
      pure none

/-- Marks runs as failed, one after the other. The result is the ids of those that were marked. -/
def markAll (ownsRuns : Bool) (now : Option Moment) : List TestRun → Program (List String)
  | [] => .done []
  | run :: rest => do
    let id ← mark ownsRuns now run
    let ids ← markAll ownsRuns now rest
    pure (id.toList ++ ids)

/-- One sweep, at the given moment or now. A process that owns runs spares those that are active. -/
def run (ownsRuns : Bool) (graceSeconds : Int) (now : Option Moment) : Program (List String) := do
  let clock ← Program.now
  let before ← Program.ofExcept ((cutoff graceSeconds (now.getD clock)).mapError .span)
  match ← Repository.getStaleTestRuns before with
  | [] => pure []
  | stale => do
    Program.info speaker
      ("Found " ++ toString stale.length ++ " stale test run(s) to reconcile")
    markAll ownsRuns now stale

/-- One sweep in the background, whose failure goes no further than the journal, and the pause until
the next. -/
def cycle (graceSeconds intervalSeconds : Int) : Program Unit := do
  match ← (run true graceSeconds none).attempt with
  | .ok _ => pure ()
  | .error f => do
    Program.error speaker ("Error in reconcile loop: " ++ f.message)
    Program.error speaker "Traceback: <masked>"
  .ask (.sleep (intervalSeconds * 1000)) fun wake =>
    match wake with
    | .elapsed => .done ()
    | .cancelled => .cancelled

end Automation.Sweep
