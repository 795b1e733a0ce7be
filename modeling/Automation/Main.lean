import Automation.World.Session

/-!
# The command line

The service at a terminal, with its documents in memory. `serve` answers one request for each line
of the input, a method, a path and perhaps a JSON body, and lets time pass for a line such as
`advance 60`. The other commands run a script. The settings come from the environment, and the
journal goes to the error stream.
-/

set_option autoImplicit false

namespace Automation.CommandLine

/-- The names of the settings. -/
def settingNames : List String :=
  ["APP_ENV", "HOST", "PORT", "ORG_ID", "LOKI_URL", "MONGO_URI", "MONGO_DB_NAME",
    "EMAIL_SERVICE_API_URL", "EMAIL_SOURCE_ADDRESS", "EMAIL_SUBJECT", "CORS_ORIGIN",
    "STALE_RUN_CHECK_INTERVAL_SECONDS", "STALE_RUN_GRACE_SECONDS", "DEBUG"]

/-- The settings that the environment gives. -/
def environment : IO Environment :=
  settingNames.filterMapM fun name => do
    return (← IO.getEnv name).map (name, ·)

/-- What a line of the input asks for. -/
inductive Order where
  | call (c : Http.Call)
  | advance (seconds : Int)
  | unclear (reason : String)

/-- The parts of a line: two words and the rest. -/
def parts (line : String) : List String :=
  match (Text.trim line).splitOn " " with
  | a :: b :: rest => [a, b, Text.trim (String.intercalate " " rest)]
  | words => words

/-- What is said about a line that orders nothing. -/
def advice : String := "A line is a method and a path, or advance and a number of seconds."

/-- The order that a line gives. -/
def orderOf (line : String) : Order :=
  match parts line with
  | ["advance", seconds, _] =>
    match Literal.integer seconds with
    | .ok n => .advance n
    | .error _ => .unclear advice
  | [method, path, body] =>
    match Http.Call.make method path (Json.read? body) none with
    | .ok c => .call c
    | .error f => .unclear f.message
  | _ => .unclear advice

/-- A line for the result of a request. -/
def replyLine (r : Http.Reply) : String := toString r.status ++ " " ++ Json.write r.body

/-- What is printed for an order, and the world after it. -/
def carryOut (w : World) : Order → String × World
  | .unclear reason => (reason, w)
  | .advance seconds =>
    let w := w.advance (seconds * 1000000)
    (w.now.isoText, w)
  | .call c =>
    match w.call c with
    | (.done r, w) => (replyLine r, w)
    | (.failed f, w) => (f.reason, w)
    | (.cancelled, w) => ("", w)

/-- A line for an entry of the journal. -/
def entryLine (e : Journal.Entry) : String :=
  "[" ++ e.level.word ++ "] " ++ e.speaker ++ ": " ++ e.message

/-- Prints what the journal holds, and empties it. -/
def flushJournal (w : World) : IO World := do
  let (log, _, w) := w.takeReports
  for e in log do
    IO.eprintln (entryLine e)
  return w

/-- Answers the lines of the input until it ends. -/
partial def answerLines (input : IO.FS.Stream) (w : World) : IO World := do
  let w ← flushJournal w.settle
  let line ← input.getLine
  if line.isEmpty then return w
  let (text, w) := carryOut w (orderOf line)
  IO.println text
  answerLines input w

/-- Serves requests from the input. -/
def serve (w : World) : IO UInt32 := do
  IO.println (About.title ++ " " ++ About.version ++ " on " ++ w.settings.host ++ ":" ++
    toString w.settings.port)
  let w ← answerLines (← IO.getStdin) w.startUp
  let _ ← flushJournal w.shutDown
  return 0

/-- Runs a script. -/
def runScript (w : World) (p : Program (Option Int)) : IO UInt32 := do
  let (lines, code, w) := w.runScript p
  let _ ← flushJournal w
  for line in lines do
    IO.println line
  return if code.isSome then 1 else 0

/-- What is printed when no command is given. -/
def usage : String := "usage: serve | import_sample_flow | reconcile_stale_test_runs"

/-- Carries out a command. -/
def run (w : World) (command : String) : IO UInt32 :=
  if command == "serve" then serve w
  else
    match w.script? command with
    | some p => runScript w p
    | none => do
      IO.eprintln usage
      return 2

end Automation.CommandLine

open Automation CommandLine in
/-- The command line of the service. -/
def main (args : List String) : IO UInt32 := do
  match World.ofEnvironment (← environment) 0 ⟨[], 0⟩ with
  | .error f => do
    IO.eprintln f.message
    return 1
  | .ok w => CommandLine.run w (args.headD "serve")
