import Automation.Script.Basic
import Automation.Sweep

/-!
# Sweeping up by hand

A script that sweeps once and reports what it marked. It owns no runs, so no stale run is spared.
-/

set_option autoImplicit false

namespace Automation.Script

/-- One sweep and its report. -/
def sweepOnce (graceSeconds : Int) : Program Unit := do
  let now ← Program.now
  let before ← Program.ofExcept ((Sweep.cutoff graceSeconds now).mapError .span)
  Program.say ("Cutoff: runs started before " ++ before.isoText)
  let marked ← Sweep.run false graceSeconds none
  sayAll (reportLines "RECONCILIATION SUMMARY"
    (("  Test runs marked as failed: " ++ toString marked.length) ::
      marked.map fun id => "    - " ++ id))

/-- The sweep, with the client closed at its end. -/
def reconcile (graceSeconds : Int) : Program (Option Int) :=
  asScript (Program.ensuring (sweepOnce graceSeconds) Repository.close)

end Automation.Script
