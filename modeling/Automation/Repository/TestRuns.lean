import Automation.Repository.Client
import Automation.TestRun

/-!
# Saved test runs

Test runs in the store. An update that fails is told to the journal and answered as not done, so a
run goes on without it.
-/

set_option autoImplicit false

namespace Automation.Repository

/-- The test run of a document. -/
def testRunOf (now : Moment) (d : Document) : Except StoreError TestRun :=
  readAs TestRun.typeName (TestRun.readFields now d.named)

/-- A new test run, or nothing when it could not be saved. -/
def createTestRun (run : TestRun) : Program (Option TestRun) := do
  connect
  match ← Program.query (.insert .testRuns run.document) with
  | .ok (some id) => pure (some { run with id := some id.text })
  | .ok none => do
    Program.error speaker "Failed to save test run"
    pure none
  | .error e => do
    Program.error speaker ("Error creating test run: " ++ e.message)
    pure none

/-- The test run with an id. -/
def getTestRun (id : String) : Program (Option TestRun) :=
  match ObjectId.ofText? id with
  | none => .done none
  | some id => do
    connect
    match ← Program.query (.findOne .testRuns [.idIs id]) with
    | .ok none => pure none
    | .ok (some d) =>
      match testRunOf (← Program.now) d with
      | .ok run => pure (some run)
      | .error e => fail "get_test_run" e
    | .error e => fail "get_test_run" e

/-- Sets some fields of a test run, and tells whether there was one and it could be changed. -/
def updateTestRun (id : String) (changes : Fields) : Program Bool :=
  match ObjectId.ofText? id with
  | none => .done false
  | some oid => do
    connect
    let now ← Program.now
    match ← Program.query (.update .testRuns oid (changes.insert "updated_at" (.date now))) with
    | .ok matched => pure matched
    | .error e => do
      Program.error speaker ("Error updating test run " ++ id ++ ": " ++ e.message)
      pure false

/-- The test runs of a flow, the newest first. -/
def getTestRunsByFlow (flowId : String) : Program (List TestRun) := do
  connect
  match ← Program.query
      (.find .testRuns [.textIs "flow_id" flowId] (.newestFirst "created_at")) with
  | .ok docs =>
    match readAll (testRunOf (← Program.now)) docs with
    | .ok runs => pure runs
    | .error e => fail "get_test_runs_by_flow" e
  | .error e => fail "get_test_runs_by_flow" e

/-- The search for runs that still count as running and began before a moment. -/
def staleFilter (startedBefore : Moment) : List Clause :=
  [.textIs "status" TestRun.running, .before "started_at" startedBefore]

/-- The runs that still count as running and began before a moment; none when they cannot be
found. -/
def getStaleTestRuns (startedBefore : Moment) : Program (List TestRun) := do
  connect
  let found ← Program.query (.find .testRuns (staleFilter startedBefore) .insertion)
  match found.bind (readAll (testRunOf (← Program.now))) with
  | .ok runs => pure runs
  | .error e => do
    Program.error speaker ("Error getting stale test runs: " ++ e.message)
    pure []

end Automation.Repository
