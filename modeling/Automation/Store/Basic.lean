import Automation.Store.Query
import Automation.Value.Stored

/-!
# The store

The documents of every collection, in the order of their insertion, and the answer to each query. A
document is kept as `Value.stored?` gives it, and a query whose values cannot be kept changes
nothing. New documents are numbered within their collection, and a number that is in use is passed
over.
-/

set_option autoImplicit false

namespace Automation

/-- The documents of one collection, and the number of the last one that was named. -/
structure Shelf where
  documents : List Document
  lastNumber : Nat
  deriving Repr

namespace Shelf

/-- A collection without documents. -/
def empty : Shelf := ⟨[], 0⟩

/-- Whether an id is in use. -/
def uses (s : Shelf) (id : ObjectId) : Bool := s.documents.any fun d => d.id == id

/-- The first document that satisfies all conditions. -/
def findOne (s : Shelf) (filter : List Clause) : Option Document :=
  s.documents.find? fun d => filter.all fun c => c.holds d

/-- The documents that satisfy all conditions. -/
def find (s : Shelf) (filter : List Clause) : List Document :=
  s.documents.filter fun d => filter.all fun c => c.holds d

/-- The collection with changed fields of one document. -/
def change (s : Shelf) (id : ObjectId) (changes : Fields) : Shelf :=
  { s with documents := s.documents.map fun d => if d.id = id then d.updated changes else d }

/-- The collection without one document. -/
def delete (s : Shelf) (id : ObjectId) : Shelf :=
  { s with documents := s.documents.filter fun d => d.id != id }

end Shelf

/-- The digits of a number in base ten read as digits in base sixteen. -/
def decimalAsHex (n : Nat) : Nat :=
  (Nat.toDigits 10 n).foldl (fun acc c => 16 * acc + (c.toNat - '0'.toNat)) 0

namespace Collection

/-- The first digit of the ids of a collection. -/
def letter : Collection → Nat
  | .flows => 10
  | .testRuns => 11
  | .executionLogs => 12

/-- The id with a number: the letter of the collection and the number in decimal digits. -/
def numbered (c : Collection) (n : Nat) : ObjectId := ⟨c.letter * Nat.pow 16 23 + decimalAsHex n⟩

end Collection

/-- The three collections. -/
structure Store where
  flows : Shelf
  testRuns : Shelf
  executionLogs : Shelf
  deriving Repr

namespace Store

/-- A store without documents. -/
def empty : Store := ⟨.empty, .empty, .empty⟩

/-- One collection of the store. -/
def shelf (s : Store) : Collection → Shelf
  | .flows => s.flows
  | .testRuns => s.testRuns
  | .executionLogs => s.executionLogs

/-- The store with one collection replaced. -/
def withShelf (s : Store) (shelf : Shelf) : Collection → Store
  | .flows => { s with flows := shelf }
  | .testRuns => { s with testRuns := shelf }
  | .executionLogs => { s with executionLogs := shelf }

/-- The first number after the last one whose id is not in use: among one more numbers than there
are documents, one is free. -/
def freshNumber (s : Store) (c : Collection) : Nat :=
  let shelf := s.shelf c
  let candidates := (List.range (shelf.documents.length + 1)).map (shelf.lastNumber + 1 + ·)
  (candidates.find? fun n => !shelf.uses (c.numbered n)).getD (shelf.lastNumber + 1)

/-- The store with a new document. -/
def insertNew (s : Store) (c : Collection) (fields : Fields) : ObjectId × Store :=
  let n := s.freshNumber c
  let id := c.numbered n
  (id, s.withShelf ⟨(s.shelf c).documents ++ [⟨id, fields⟩], n⟩ c)

/-- The store with a document that brings its own id. -/
def insertNamed (s : Store) (c : Collection) (d : Document) : Store :=
  s.withShelf { s.shelf c with documents := (s.shelf c).documents ++ [d] } c

/-- A condition with its date as a document would keep it. -/
def storedClause? : Clause → Except StorageDefect Clause
  | .before field m =>
    match m.stored? with
    | some m => .ok (.before field m)
    | none => .error .dateRange
  | c => .ok c

/-- The answer to a query, and the store after it. -/
def answer (s : Store) : (q : Query) → Except StorageDefect (q.Answer × Store)
  | .insert c fields =>
    match Value.storedFields? fields with
    | .error e => .error e
    | .ok fields =>
      let (id, s) := s.insertNew c fields
      .ok (some id, s)
  | .findOne c filter =>
    match filter.mapM storedClause? with
    | .error e => .error e
    | .ok filter => .ok ((s.shelf c).findOne filter, s)
  | .find c filter order =>
    match filter.mapM storedClause? with
    | .error e => .error e
    | .ok filter => .ok (order.arrange ((s.shelf c).find filter), s)
  | .change c id changes =>
    match Value.storedFields? changes with
    | .error e => .error e
    | .ok changes =>
      let shelf := (s.shelf c).change id changes
      .ok (shelf.findOne [.idIs id], s.withShelf shelf c)
  | .update c id changes =>
    match Value.storedFields? changes with
    | .error e => .error e
    | .ok changes => .ok ((s.shelf c).uses id, s.withShelf ((s.shelf c).change id changes) c)
  | .delete c id => .ok ((s.shelf c).uses id, s.withShelf ((s.shelf c).delete id) c)

end Store

end Automation
