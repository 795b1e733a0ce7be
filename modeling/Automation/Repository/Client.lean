import Automation.Program.Basic

/-!
# The client of the store

The client is made when it is first needed, and kept until the repository is closed. A client that
cannot be made fails the whole operation, before any of the care that an operation takes of its own
errors.
-/

set_option autoImplicit false

namespace Automation.Repository

/-- The part of the service that speaks of the store. -/
def speaker : String := "FlowDB"

/-- How a client is made: it keeps up to fifty connections, none before they are needed, and gives
up on a call after ten seconds. -/
def clientOptions : Fields :=
  [("tz_aware", .bool true), ("maxPoolSize", .int 50), ("minPoolSize", .int 0),
    ("maxIdleTimeMS", .int 30000), ("waitQueueTimeoutMS", .int 10000),
    ("connectTimeoutMS", .int 10000), ("serverSelectionTimeoutMS", .int 10000),
    ("socketTimeoutMS", .int 10000), ("retryWrites", .bool true), ("retryReads", .bool true)]

/-- A client of the store, made if there is none. -/
def connect : Program Unit :=
  .ask .connect fun answer =>
    match answer with
    | .error f => .failed (.store f)
    | .ok true =>
      Program.info speaker
        "MongoDB client initialized for event loop <id> (lazy initialization)"
    | .ok false => .done ()

/-- The end of the client. A client that does not close well is forgotten all the same. -/
def close : Program Unit :=
  .ask .disconnect fun answer => do
    match answer with
    | .error f => Program.warning speaker ("Error closing client for loop <id>: " ++ f.message)
    | .ok () => pure ()
    Program.info speaker "All MongoDB clients closed"

/-- A client outside of any event loop. -/
def connectOutside : Program Unit := .failed .noEventLoop

/-- The failure of an operation on the store, told to the journal under its name. -/
def fail {α : Type} (operation : String) (e : StoreError) : Program α := do
  Program.error speaker
    ((if e.isConnection then "Database connection error in " else "Error in ") ++ operation ++
      ": " ++ e.message)
  .failed (.database e)

/-- A value that was read from a document, or the error that it does not read. -/
def readAs {α : Type} (type : String) (c : Checked α) : Except StoreError α :=
  c.toExcept.mapError (.malformed type)

/-- The documents of an answer, all read. The first that does not read is the error. -/
def readAll {α : Type} (read : Document → Except StoreError α) :
    List Document → Except StoreError (List α)
  | [] => .ok []
  | d :: rest =>
    match read d with
    | .error e => .error e
    | .ok a => (readAll read rest).map (a :: ·)

/-- The written form of the id of a new document. -/
def newId (id : Option ObjectId) : String := (id.map ObjectId.text).getD "None"

end Automation.Repository
