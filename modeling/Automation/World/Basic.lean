import Automation.Program.Basic
import Automation.Runner
import Automation.Settings

/-!
# A world for programs

A world answers the requests of programs all by itself: it keeps the documents in memory, answers
posts from a script of replies, and has a clock that moves only when it is told to. The same program
in the same world always does the same, so a world shows what the service does without any service
around it.
-/

set_option autoImplicit false

namespace Automation

/-- What the delivery service will reply, in order. After the script, and for an entry that is left
open, it accepts the message under a number counted from one. -/
structure MailScript where
  replies : List (Option (Except Mail.TransportFault Mail.Reply))
  answered : Nat

namespace MailScript

/-- The reply that accepts a message under a number. -/
def accepting (n : Nat) : Mail.Reply :=
  let body := Value.record [("messageId", .text ("m-" ++ toString n))]
  ⟨200, some "application/json", Text.utf8Bytes (Json.write body)⟩

/-- The next reply, and the script after it. -/
def next (s : MailScript) : Except Mail.TransportFault Mail.Reply × MailScript :=
  let n := s.answered + 1
  let reply := (s.replies.head?.join).getD (.ok (accepting n))
  (reply, ⟨s.replies.tail, n⟩)

end MailScript

/-- What a task is for. -/
inductive Owner where
  | run (id : String)
  | sweeper
  deriving DecidableEq, Repr

/-- Where a task stands: about to go on, or asleep until an instant. Of two tasks that are due at
the same instant the one that fell asleep first is woken first. -/
inductive TaskState where
  | ready (p : Program Unit)
  | asleep (due : Int) (turn : Nat) (next : Wake → Program Unit)

/-- A program in the background. -/
structure Task where
  number : Nat
  owner : Owner
  state : TaskState

/-- The state of a world. -/
structure World where
  settings : Settings
  runner : Runner
  database : Database
  mail : MailScript
  /-- Microseconds since the beginning of 1970. -/
  clock : Int
  /-- Whether there is a client of the store now. -/
  connected : Bool
  /-- How many clients were ever made. -/
  clients : Nat
  threshold : Journal.Level
  journal : List Journal.Entry
  posts : List Mail.Post
  sleeps : List Int
  lines : List String
  tasks : List Task
  /-- How many tasks were ever begun and how often one fell asleep. -/
  turns : Nat
  /-- Whether the sweeper is meant to go on. -/
  sweeping : Bool
  graceSeconds : Int

namespace World

/-- A world in which nothing has happened yet. -/
def make (settings : Settings) (runner : Runner) (database : Database) (mail : MailScript)
    (clock : Int) (threshold : Journal.Level) : World where
  settings := settings
  runner := runner
  database := database
  mail := mail
  clock := clock
  connected := false
  clients := 0
  threshold := threshold
  journal := []
  posts := []
  sleeps := []
  lines := []
  tasks := []
  turns := 0
  sweeping := false
  graceSeconds := settings.graceSeconds

/-- The time in a world. -/
def now (w : World) : Moment := Moment.ofInstant w.clock

/-- The world with an entry in its journal, if the journal keeps it. -/
def report (w : World) (e : Journal.Entry) : World :=
  if Journal.keeps w.threshold e then { w with journal := w.journal ++ [e] } else w

/-- Whether a run is in the background. -/
def isActive (w : World) (run : String) : Bool := w.tasks.any fun t => t.owner == .run run

/-- The world with another task. -/
def begin (w : World) (owner : Owner) (p : Program Unit) : World :=
  { w with tasks := w.tasks ++ [⟨w.turns, owner, .ready p⟩], turns := w.turns + 1 }

/-- The task of a run. Nobody waits for its summary. -/
def runTask (w : World) (flow : Flow) (recipient run : String) : Program Unit :=
  (w.runner.run ⟨flow, recipient, run⟩).bind fun _ => .done ()

/-- The microseconds of some milliseconds. -/
def microseconds (ms : Int) : Int := ms * 1000

/-- The answer to a request, and the world after it. A sleep takes its time at once. -/
def answer (w : World) : (r : Request) → r.Answer × World
  | .clock => (w.now, w)
  | .report e => ((), w.report e)
  | .connect =>
    if w.connected then (.ok false, w)
    else
      match w.database.touch "connect" with
      | (.ok (), database) =>
        (.ok true, { w with database, connected := true, clients := w.clients + 1 })
      | (.error f, database) => (.error f, { w with database })
  | .disconnect =>
    if w.connected then
      let (outcome, database) := w.database.touch "close"
      (outcome, { w with database, connected := false })
    else (.ok (), w)
  | .query q =>
    let (outcome, database) := w.database.answer q
    (outcome, { w with database })
  | .post p =>
    let (reply, mail) := w.mail.next
    (reply, { w with mail, posts := w.posts ++ [p] })
  | .sleep ms =>
    (.elapsed, { w with
      clock := if 0 < ms then w.clock + microseconds ms else w.clock
      sleeps := w.sleeps ++ [ms] })
  | .launch flow recipient run => ((), w.begin (.run run) (w.runTask flow recipient run))
  | .isActive run => (w.isActive run, w)
  | .say line => ((), { w with lines := w.lines ++ [line] })

/-- How a program ended. -/
inductive Outcome (α : Type) where
  | done (a : α)
  | failed (f : Failure)
  | cancelled

/-- The value or the failure of an outcome, if it has one. -/
def Outcome.result? {α : Type} : Outcome α → Option (Except Failure α)
  | .done a => some (.ok a)
  | .failed f => some (.error f)
  | .cancelled => none

/-- A program carried out to its end, and the world after it. -/
def perform {α : Type} (w : World) : Program α → Outcome α × World
  | .done a => (.done a, w)
  | .failed f => (.failed f, w)
  | .cancelled => (.cancelled, w)
  | .ask r next => (w.answer r).2.perform (next (w.answer r).1)

/-- Where a task stands after it went on: at its end, or asleep. -/
inductive Pause where
  | ended
  | asleep (due : Int) (next : Wake → Program Unit)

/-- A task carried on until it ends or falls asleep, and the world after that. A pause that is not
positive is over at once. -/
def carryOn (w : World) : Program Unit → Pause × World
  | .done () => (.ended, w)
  | .failed _ => (.ended, w)
  | .cancelled => (.ended, w)
  | .ask (.sleep ms) next =>
    if 0 < ms then (.asleep (w.clock + microseconds ms) next, w)
    else w.carryOn (next .elapsed)
  | .ask r next => (w.answer r).2.carryOn (next (w.answer r).1)

end World

end Automation
