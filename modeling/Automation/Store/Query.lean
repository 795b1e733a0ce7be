import Automation.Value.ObjectId

/-!
# Documents and queries

The store keeps three collections of documents. A document is a record with an id; a query names a
collection and is answered in one step. `Query.Answer` is the type of the answer, and
`Query.nothing` the answer of a collection without a fitting document.
-/

set_option autoImplicit false

namespace Automation

/-- The collections of the store. -/
inductive Collection where
  | flows
  | testRuns
  | executionLogs
  deriving DecidableEq, Repr

namespace Collection

/-- The name of a collection. -/
def name : Collection → String
  | .flows => "flows"
  | .testRuns => "test_runs"
  | .executionLogs => "execution_logs"

/-- The collection of a name. -/
def ofName? (s : String) : Option Collection :=
  [flows, testRuns, executionLogs].find? fun c => c.name == s

end Collection

/-- A record of a collection. -/
structure Document where
  id : ObjectId
  fields : Fields
  deriving Repr

namespace Document

/-- A document as a record with its id. -/
def write (d : Document) : Value := .record (("_id", .oid d.id) :: d.fields)

/-- The fields of a document with its id, and with the written id as a field of its own. -/
def named (d : Document) : Fields :=
  Fields.insert "id" (.text d.id.text) (("_id", .oid d.id) :: d.fields)

/-- A document with changed fields. -/
def updated (d : Document) (changes : Fields) : Document := ⟨d.id, d.fields.merge changes⟩

end Document

/-- One condition of a search. -/
inductive Clause where
  | idIs (id : ObjectId)
  | idIsNot (id : ObjectId)
  | textIs (field s : String)
  | before (field : String) (m : Moment)
  deriving DecidableEq, Repr

/-- Whether a document satisfies a condition. Only a date can lie before another. -/
def Clause.holds (d : Document) : Clause → Bool
  | .idIs id => d.id == id
  | .idIsNot id => d.id != id
  | .textIs field s =>
    match d.fields.get? field with
    | some (.text t) => t == s
    | _ => false
  | .before field m =>
    match d.fields.get? field with
    | some (.date t) => t.instant < m.instant
    | _ => false

/-- The order in which a search lists what it finds. Documents of equal date stay in the order of
their insertion, or are listed by id. -/
inductive Order where
  | insertion
  | newestFirst (field : String)
  | oldestThenId (field : String)
  deriving DecidableEq, Repr

namespace Order

/-- The instant by which a document is sorted; one without a date comes before all dates. -/
def key (field : String) (d : Document) : Option Int :=
  match d.fields.get? field with
  | some (.date m) => some m.instant
  | _ => none

/-- Whether one key may stand before another in increasing order. -/
def atMost : Option Int → Option Int → Bool
  | none, _ => true
  | some _, none => false
  | some a, some b => a ≤ b

/-- The documents in an order. -/
def arrange (docs : List Document) : Order → List Document
  | .insertion => docs
  | .newestFirst field => docs.mergeSort fun a b => atMost (key field b) (key field a)
  | .oldestThenId field => docs.mergeSort fun a b =>
    let before := atMost (key field a) (key field b)
    if before && atMost (key field b) (key field a) then a.id.number ≤ b.id.number else before

end Order

/-- What can be asked of the store. -/
inductive Query where
  | insert (c : Collection) (fields : Fields)
  | findOne (c : Collection) (filter : List Clause)
  | find (c : Collection) (filter : List Clause) (order : Order)
  /-- Set fields of a document and return it as it is afterwards. -/
  | change (c : Collection) (id : ObjectId) (changes : Fields)
  /-- Set fields of a document and tell whether there was one. -/
  | update (c : Collection) (id : ObjectId) (changes : Fields)
  | delete (c : Collection) (id : ObjectId)

namespace Query

/-- The type of the answer to a query. -/
@[reducible] def Answer : Query → Type
  | .insert .. => Option ObjectId
  | .findOne .. => Option Document
  | .find .. => List Document
  | .change .. => Option Document
  | .update .. => Bool
  | .delete .. => Bool

/-- The collection of a query. -/
def collection : Query → Collection
  | .insert c _ | .findOne c _ | .find c _ _ | .change c _ _ | .update c _ _ | .delete c _ => c

/-- The name of the operation that a query asks for. -/
def method : Query → String
  | .insert .. => "insert_one"
  | .findOne .. => "find_one"
  | .find .. => "find"
  | .change .. => "find_one_and_update"
  | .update .. => "update_one"
  | .delete .. => "delete_one"

/-- The answer when nothing is found and nothing is done. -/
def nothing : (q : Query) → q.Answer
  | .insert .. => none
  | .findOne .. => none
  | .find .. => []
  | .change .. => none
  | .update .. => false
  | .delete .. => false

end Query

end Automation
