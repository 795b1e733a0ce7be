import Automation.Http.Target

/-!
# Routes

What a method and a path ask for. Routes are tried in order, and the first whose path and method fit
is taken. A path that fits only with another method is refused as such, and one that fits without
the slashes at its end is sent there.
-/

set_option autoImplicit false

namespace Automation.Http

/-- What a request asks for. -/
inductive Route where
  | createFlow
  | listFlows
  | validateFlow
  | flow (id : String)
  | updateFlow (id : String)
  | deleteFlow (id : String)
  | startRun (flowId : String)
  | run (id : String)
  | runsOfFlow (flowId : String)
  | audit (runId : String)
  | overview (runId : String)
  | health
  /-- A page that describes the service. -/
  | page
  deriving DecidableEq, Repr

/-- One segment of a pattern. -/
inductive Segment where
  | word (s : String)
  | id
  deriving DecidableEq, Repr

/-- Methods and a pattern of paths, and what they ask for with the id in the path. -/
structure Entry where
  methods : List String
  pattern : List Segment
  route : String → Route

/-- The segments under which flows are found. -/
def flowsWord : Segment := .word "automations"

/-- The segments under which test runs are found. -/
def runsWord : Segment := .word "automations-test"

/-- A page under some words. -/
def page (words : List String) : Entry := ⟨["GET", "HEAD"], words.map .word, fun _ => .page⟩

/-- All routes, in the order in which they are tried. -/
def entries : List Entry :=
  [page ["openapi.json"], page ["docs"], page ["docs", "oauth2-redirect"], page ["redoc"],
    ⟨["POST"], [flowsWord], fun _ => .createFlow⟩,
    ⟨["GET"], [flowsWord], fun _ => .listFlows⟩,
    ⟨["POST"], [flowsWord, .word "validate"], fun _ => .validateFlow⟩,
    ⟨["GET"], [flowsWord, .id], .flow⟩,
    ⟨["PUT"], [flowsWord, .id], .updateFlow⟩,
    ⟨["DELETE"], [flowsWord, .id], .deleteFlow⟩,
    ⟨["POST"], [runsWord, .id, .word "test"], .startRun⟩,
    ⟨["GET"], [runsWord, .id], .run⟩,
    ⟨["GET"], [runsWord, .id, .word "test-runs"], .runsOfFlow⟩,
    ⟨["GET"], [runsWord, .id, .word "logs"], .audit⟩,
    ⟨["GET"], [runsWord, .id, .word "summary"], .overview⟩,
    ⟨["GET"], [.word "health"], fun _ => .health⟩]

/-- The id in the segments of a path that fits a pattern, empty when the pattern has none. A line
feed after the last word of a pattern is passed over. -/
def fit? : List Segment → List String → Option String
  | [], [] => some ""
  | [.word w], [s] => if s = w ∨ s = w ++ "\n" then some "" else none
  | .word w :: pattern, s :: rest => if s = w then fit? pattern rest else none
  | .id :: pattern, s :: rest => if s.isEmpty then none else (fit? pattern rest).map fun _ => s
  | _, _ => none

/-- The segments of a path. -/
def segments? (path : String) : Option (List String) :=
  match path.splitOn "/" with
  | "" :: rest => some rest
  | _ => none

/-- The id in a path that fits the pattern of an entry. -/
def Entry.fits? (e : Entry) (path : String) : Option String :=
  (segments? path).bind (fit? e.pattern)

/-- What becomes of a request. -/
inductive Direction where
  | to (route : Route)
  | otherMethod
  | elsewhere (path : String)
  | nowhere
  deriving DecidableEq, Repr

/-- A path without the slashes at its end. -/
def withoutSlashes (path : String) : String :=
  String.ofList (path.toList.reverse.dropWhile (· == '/')).reverse

/-- Whether a path fits any route. -/
def isKnown (path : String) : Bool := entries.any fun e => (e.fits? path).isSome

/-- What becomes of a request with a method and a path. -/
def direct (method path : String) : Direction :=
  let taken := entries.findSome? fun e =>
    if e.methods.contains method then (e.fits? path).map e.route else none
  match taken with
  | some route => .to route
  | none =>
    if isKnown path then .otherMethod
    else if path.endsWith "/" && path != "/" && isKnown (withoutSlashes path) then
      .elsewhere (withoutSlashes path)
    else .nowhere

end Automation.Http
