import Automation.Failure.Basic
import Automation.Journal
import Automation.Number.Literal

/-!
# Settings

The settings of the service, each taken from the environment or else from its default. Three of them
are integers, and an environment with any other text for one of these makes no settings at all.
-/

set_option autoImplicit false

namespace Automation

/-- The settings of the service. -/
structure Settings where
  appEnvironment : String
  host : String
  port : Int
  organisation : String
  collectorUrl : String
  storeUri : String
  storeName : String
  mailUrl : String
  mailSource : String
  mailSubject : String
  allowedOrigins : String
  checkIntervalSeconds : Int
  graceSeconds : Int
  debug : String
  deriving DecidableEq, Repr

namespace Settings

/-- An integer setting. -/
def integer (env : Environment) (name default : String) : Except Failure Int :=
  let text := env.getD name default
  (Literal.integer text).mapError (.settingNotInteger text)

/-- The settings of an environment. -/
def ofEnvironment (env : Environment) : Except Failure Settings := do
  let port ← integer env "PORT" "5000"
  let interval ← integer env "STALE_RUN_CHECK_INTERVAL_SECONDS" "300"
  let grace ← integer env "STALE_RUN_GRACE_SECONDS" "3600"
  return {
    appEnvironment := env.getD "APP_ENV" "production"
    host := env.getD "HOST" "0.0.0.0"
    port
    organisation := env.getD "ORG_ID" "AutomationFlow"
    collectorUrl := env.getD "LOKI_URL" ""
    storeUri := env.getD "MONGO_URI" "mongodb://localhost:27017"
    storeName := env.getD "MONGO_DB_NAME" "automation_flow_db"
    mailUrl := env.getD "EMAIL_SERVICE_API_URL" "http://localhost:8019/emails/send"
    mailSource := env.getD "EMAIL_SOURCE_ADDRESS" "noreply@automation.local"
    mailSubject := env.getD "EMAIL_SUBJECT" "Automation Test"
    allowedOrigins := env.getD "CORS_ORIGIN" "http://localhost:3000"
    checkIntervalSeconds := interval
    graceSeconds := grace
    debug := env.getD "DEBUG" "false"
  }

/-- The settings under their names. -/
def entries (s : Settings) : Fields :=
  [("APP_ENV", .text s.appEnvironment), ("HOST", .text s.host), ("PORT", .int s.port),
    ("ORG_ID", .text s.organisation), ("LOKI_URL", .text s.collectorUrl),
    ("MONGO_URI", .text s.storeUri), ("MONGO_DB_NAME", .text s.storeName),
    ("EMAIL_SERVICE_API_URL", .text s.mailUrl), ("EMAIL_SOURCE_ADDRESS", .text s.mailSource),
    ("EMAIL_SUBJECT", .text s.mailSubject), ("CORS_ORIGIN", .text s.allowedOrigins),
    ("STALE_RUN_CHECK_INTERVAL_SECONDS", .int s.checkIntervalSeconds),
    ("STALE_RUN_GRACE_SECONDS", .int s.graceSeconds), ("DEBUG", .text s.debug)]

/-- The setting of a name. -/
def lookup (s : Settings) (name : String) : Except Failure Value :=
  match s.entries.get? name with
  | some v => .ok v
  | none => .error (.settingUnknown name)

/-- What the journal is told about a name that is no setting. -/
def lookupRemarks (s : Settings) (name : String) : List Journal.Entry :=
  match s.lookup name with
  | .ok _ => []
  | .error f => [⟨.error, "EnvironmentUtils", f.message⟩]

end Settings

end Automation
