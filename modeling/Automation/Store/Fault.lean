import Automation.Failure.Basic
import Automation.Store.Basic

/-!
# A store that can fail

A fault makes calls of one operation fail: after `skip` calls that still work, the next `times`
calls either raise an error or find nothing. Of several faults for the same operation the first
with calls left is consulted, and a fault strikes before the call does anything.
-/

set_option autoImplicit false

namespace Automation

/-- A fault of one operation of a collection, or of the client as a whole. -/
structure Fault where
  place : String
  method : String
  /-- The error that a struck call raises; without one it finds nothing. -/
  error : Option StoreFault
  times : Int
  skip : Int
  deriving DecidableEq, Repr

namespace Fault

/-- The place of the operations on the client. -/
def client : String := "client"

/-- Whether a fault has calls left for an operation. -/
def applies (place method : String) (f : Fault) : Bool :=
  f.place == place && f.method == method && 0 < f.times

/-- What the faults do to one call of an operation: nothing, or the strike of a fault; and the
faults after the call. -/
def strike (place method : String) : List Fault → Option (Option StoreFault) × List Fault
  | [] => (none, [])
  | f :: rest =>
    if f.applies place method then
      if 0 < f.skip then (none, { f with skip := f.skip - 1 } :: rest)
      else (some f.error, { f with times := f.times - 1 } :: rest)
    else
      let (struck, rest) := strike place method rest
      (struck, f :: rest)

end Fault

/-- A store with its faults. -/
structure Database where
  store : Store
  faults : List Fault

namespace Database

/-- A store without documents and without faults. -/
def empty : Database := ⟨.empty, []⟩

/-- The answer to a query, and the database after it. -/
def answer (db : Database) (q : Query) : Except StoreError q.Answer × Database :=
  match Fault.strike q.collection.name q.method db.faults with
  | (some (some f), faults) => (.error (.fault f), { db with faults })
  | (some none, faults) => (.ok q.nothing, { db with faults })
  | (none, faults) =>
    match db.store.answer q with
    | .ok (a, store) => (.ok a, ⟨store, faults⟩)
    | .error e => (.error (.unstorable e), { db with faults })

/-- The outcome of an operation on the client itself. -/
def touch (db : Database) (method : String) : Except StoreFault Unit × Database :=
  match Fault.strike Fault.client method db.faults with
  | (some (some f), faults) => (.error f, { db with faults })
  | (_, faults) => (.ok (), { db with faults })

end Database

end Automation
