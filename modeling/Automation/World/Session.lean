import Automation.Http.Service
import Automation.Script.Import
import Automation.Script.Reconcile
import Automation.World.Schedule

/-!
# A service at work

A world in which the service is set up from an environment, and what can happen to it: it starts and
stops, it answers requests, time passes, scripts are run beside it, and its sweeper is used by hand.
-/

set_option autoImplicit false

namespace Automation

namespace About

/-- The name of the service. -/
def title : String := "automation flow service"

/-- What the service is for. -/
def description : String := "Email automation flows with background test runs"

/-- The version of the service. -/
def version : String := "1.0.0"

end About

namespace World

/-- The part of the service that speaks of it as a whole. -/
def speaker : String := Http.Service.speaker

/-- A world with the service of an environment. -/
def ofEnvironment (env : Environment) (clock : Int) (mail : MailScript) : Except Failure World := do
  let s ← Settings.ofEnvironment env
  let runner : Runner := ⟨.mailer (Mailer.make none s.mailUrl s.mailSource), s.mailSubject⟩
  return make s runner .empty mail clock (Journal.threshold env)

/-- The world after the service has started. -/
def startUp (w : World) : World :=
  (w.report ⟨.info, speaker, "Application startup complete"⟩).startSweeper

/-- The world after the client of the store was closed. -/
def closeStore (w : World) : World := (w.perform Repository.close).2

/-- The world after the service has stopped: the sweeper first, then the runs, then the client. -/
def shutDown (w : World) : World :=
  w.stopSweeper.cancelRuns.closeStore.report
    ⟨.info, speaker, "Application shutdown complete"⟩

/-- The answer to a request, and the world after it. -/
def call (w : World) (c : Http.Call) : Outcome Http.Reply × World :=
  w.perform (Http.Service.handle w.settings.allowedOrigins c)

/-- A sweep by the service's own sweeper. -/
def sweep (w : World) (now : Option Moment) : Outcome (List String) × World :=
  w.perform (Sweep.run true w.graceSeconds now)

/-- The script of a name. -/
def script? (w : World) (name : String) : Option (Program (Option Int)) :=
  match name with
  | "import_sample_flow" => some Script.importSample
  | "reconcile_stale_test_runs" => some (Script.reconcile w.settings.graceSeconds)
  | _ => none

/-- What a script said and its code for the terminal, and the world after it. A script has a client
of its own. -/
def runScript (w : World) (p : Program (Option Int)) : List String × Option Int × World :=
  let (outcome, after) := { w with connected := false, lines := [] }.perform p
  let code := match outcome with
    | .done code => code
    | _ => some 1
  (after.lines, code, { after with connected := w.connected, lines := w.lines })

/-- What the journal kept and what was posted since the last time, and the world without them. -/
def takeReports (w : World) : List Journal.Entry × List Mail.Post × World :=
  (w.journal, w.posts, { w with journal := [], posts := [] })

end World

end Automation
