import Automation.Text.LetterCase
import Automation.Value.Basic

/-!
# The journal

What the service reports about its own work: entries with a level, the part of the service that
speaks, and a message. The journal keeps entries from a threshold on, which the environment lowers
to debugging. Its handlers write to the console and, when there is an address for it, to a remote
collector, which takes only entries whose tags all have a value.
-/

set_option autoImplicit false

namespace Automation

/-- Named texts from outside the program. -/
abbrev Environment := List (String × String)

namespace Environment

/-- The text of a name. -/
def get? (env : Environment) (name : String) : Option String := List.lookup name env

/-- The text of a name, or another one when there is none. -/
def getD (env : Environment) (name default : String) : String := (env.get? name).getD default

end Environment

namespace Journal

/-- How urgent an entry is. -/
inductive Level where
  | debug
  | info
  | warning
  | error
  deriving DecidableEq, Repr

namespace Level

/-- The word for a level. -/
def word : Level → String
  | .debug => "debug"
  | .info => "info"
  | .warning => "warning"
  | .error => "error"

/-- The rank of a level. -/
def rank : Level → Nat
  | .debug => 10
  | .info => 20
  | .warning => 30
  | .error => 40

/-- The level of a word. -/
def ofWord? (s : String) : Option Level :=
  [debug, info, warning, error].find? fun level => level.word == s

end Level

/-- A report of one part of the service. -/
structure Entry where
  level : Level
  speaker : String
  message : String
  deriving DecidableEq, Repr

/-- The name of the service, as its collector knows it. -/
def application : String := "automation_flow_service"

/-- Whether the environment asks for debugging. -/
def debugging (env : Environment) : Bool :=
  Text.lower (env.getD "DEBUG" "false") == "true"

/-- The least urgent level that the journal keeps. -/
def threshold (env : Environment) : Level := if debugging env then .debug else .info

/-- Whether a journal with a threshold keeps an entry. -/
def keeps (threshold : Level) (e : Entry) : Bool := threshold.rank ≤ e.level.rank

/-- A remote collector of entries: its address and the tags of every entry. -/
structure Collector where
  url : String
  tags : List (String × String)
  deriving DecidableEq, Repr

/-- Where entries are written. -/
inductive Handler where
  | remote (collector : Collector)
  | console
  deriving DecidableEq, Repr

/-- The collector that the environment names. -/
def collector? (env : Environment) : Option Collector :=
  let url := env.getD "LOKI_URL" ""
  if url.isEmpty then none
  else
    some ⟨url, [("application", application), ("environment", env.getD "APP_ENV" "production"),
      ("org_id", env.getD "ORG_ID" "AutomationFlow")]⟩

/-- The handlers of the journal, however often it is set up. -/
def handlers (env : Environment) : List Handler :=
  (collector? env).toList.map .remote ++ [.console]

/-- The least rank that a handler writes. -/
def Handler.rank : Handler → Nat
  | .remote _ => 0
  | .console => Level.debug.rank

/-- Whether a collector takes an entry with these tags: none of them is null or empty. -/
def takesTags (tags : Option Fields) : Bool :=
  (tags.getD []).all fun tag =>
    match tag.2 with
    | .null => false
    | .text s => !s.isEmpty
    | _ => true

end Journal

end Automation
