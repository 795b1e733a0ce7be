import Automation.Journal
import Automation.Mail.Message
import Automation.Mail.Reply
import Automation.Store.Fault

/-!
# Programs

What the service does is a `Program`: it ends with a value, ends in a failure, ends because it was
cancelled, or asks its world for one thing and goes on with the answer. The world answers each
request in one step, so that between two requests of a program others may go on; a program that
sleeps may be woken by the clock or by a cancellation.
-/

set_option autoImplicit false

namespace Automation

/-- How a sleep ended. -/
inductive Wake where
  | elapsed
  | cancelled
  deriving DecidableEq, Repr

/-- What a program can ask of its world. -/
inductive Request where
  /-- The time. -/
  | clock
  /-- An entry for the journal. -/
  | report (e : Journal.Entry)
  /-- A client of the store. The answer tells whether it is a new one. -/
  | connect
  /-- The end of the client, if there is one. -/
  | disconnect
  /-- A query to the store. -/
  | query (q : Query)
  /-- A request to the delivery service. -/
  | post (p : Mail.Post)
  /-- A pause of some milliseconds. -/
  | sleep (ms : Int)
  /-- A run of a flow in the background. -/
  | launch (flow : Flow) (recipient run : String)
  /-- Whether a run is in the background. -/
  | isActive (run : String)
  /-- A line for the person at the terminal. -/
  | say (line : String)

/-- The type of the answer to a request. -/
@[reducible] def Request.Answer : Request → Type
  | .clock => Moment
  | .report _ => Unit
  | .connect => Except StoreFault Bool
  | .disconnect => Except StoreFault Unit
  | .query q => Except StoreError q.Answer
  | .post _ => Except Mail.TransportFault Mail.Reply
  | .sleep _ => Wake
  | .launch .. => Unit
  | .isActive _ => Bool
  | .say _ => Unit

/-- A program that ends with a value of type `α`. -/
inductive Program (α : Type) where
  | done (a : α)
  | failed (f : Failure)
  | cancelled
  | ask (r : Request) (next : r.Answer → Program α)

namespace Program

variable {α β : Type}

/-- One program after another. -/
def bind : Program α → (α → Program β) → Program β
  | done a, k => k a
  | failed f, _ => failed f
  | cancelled, _ => cancelled
  | ask r next, k => ask r fun a => (next a).bind k

instance : Monad Program where
  pure := done
  bind := bind

/-- A program that always ends with a value, a failure being one. A cancellation passes. -/
def attempt : Program α → Program (Except Failure α)
  | done a => done (.ok a)
  | failed f => done (.error f)
  | cancelled => cancelled
  | ask r next => ask r fun a => (next a).attempt

/-- A program with something to be done if it is cancelled. -/
def onCancel : Program α → Program Unit → Program α
  | done a, _ => done a
  | failed f, _ => failed f
  | cancelled, last => last.bind fun _ => cancelled
  | ask r next, last => ask r fun a => (next a).onCancel last

/-- A program with something to be done after it, however it ends. -/
def ensuring (p : Program α) (last : Program Unit) : Program α :=
  match p with
  | done a => last.bind fun _ => done a
  | failed f => last.bind fun _ => failed f
  | cancelled => last.bind fun _ => cancelled
  | ask r next => ask r fun a => (next a).ensuring last

/-- The value or the failure of a pure computation. -/
def ofExcept : Except Failure α → Program α
  | .ok a => done a
  | .error f => failed f

/-- The time. -/
def now : Program Moment := ask .clock done

/-- An entry for the journal. -/
def report (e : Journal.Entry) : Program Unit := ask (.report e) done

/-- An entry at the level of information. -/
def info (speaker message : String) : Program Unit := report ⟨.info, speaker, message⟩

/-- An entry at the level of warnings. -/
def warning (speaker message : String) : Program Unit := report ⟨.warning, speaker, message⟩

/-- An entry at the level of errors. -/
def error (speaker message : String) : Program Unit := report ⟨.error, speaker, message⟩

/-- Several entries, one after the other. -/
def reportAll : List Journal.Entry → Program Unit
  | [] => done ()
  | e :: rest => (report e).bind fun _ => reportAll rest

/-- The answer to a query. -/
def query (q : Query) : Program (Except StoreError q.Answer) := ask (.query q) done

/-- A line for the person at the terminal. -/
def say (line : String) : Program Unit := ask (.say line) done

end Program

end Automation
