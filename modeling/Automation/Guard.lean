import Automation.Number.Binary64
import Automation.Value.Reading

/-!
# Limits of a run

The guard is asked before every visit of a node and before every wait. It allows at most `100`
visits, at most six hours at once and at most twenty-four hours of waiting altogether.
-/

set_option autoImplicit false

namespace Automation

/-- What a run has used so far: visits that were completed and milliseconds that were waited. -/
structure Usage where
  steps : Int
  delayMs : Int
  deriving DecidableEq, Repr

namespace Usage

/-- The usage of a run that has just begun. -/
def zero : Usage := ⟨0, 0⟩

open Reader in
/-- A usage; a missing total is zero. -/
def read : Reader Usage :=
  record "ExecutionStats" fun fields =>
    Usage.mk <$> withDefault "step_count" 0 integer fields <*>
      withDefault "total_delay_ms" 0 integer fields

end Usage

namespace Guard

/-- The greatest number of visits. -/
def maxSteps : Int := 100

/-- The longest single wait, in milliseconds. -/
def maxSingleMs : Int := 6 * 60 * 60 * 1000

/-- The longest time waited altogether, in milliseconds. -/
def maxTotalMs : Int := 24 * 60 * 60 * 1000

/-- Why a run may not go on. -/
inductive Rejection where
  | steps
  /-- A single wait of about this many hours. -/
  | single (hours : Int)
  | total
  deriving DecidableEq, Repr

/-- The wording of a rejection. -/
def Rejection.message : Rejection → String
  | .steps => "Execution exceeded maximum limit of " ++ toString maxSteps ++ " steps"
  | .single hours => "Single delay of " ++ toString hours ++ "h exceeds maximum limit of 6h"
  | .total => "Total execution delay exceeds maximum limit of 24 hours"

/-- The verdict of the guard. -/
inductive Verdict where
  | allowed
  | rejected (r : Rejection)
  /-- The wait is too long to be stated in hours. -/
  | unstated
  deriving DecidableEq, Repr

/-- A time in hours: the quotient in double precision, rounded to the nearest integer, a half to the
even one. -/
def hours? (ms : Int) : Option Int :=
  match Binary64.ofIntRatio ms 3600000 with
  | .infinite _ => none
  | x => some x.nearestInt

/-- Whether a run that has used this much may go on and wait this many milliseconds. -/
def check (used : Usage) (waitMs : Int) : Verdict :=
  if maxSteps ≤ used.steps then .rejected .steps
  else if maxSingleMs < waitMs then
    match hours? waitMs with
    | some hours => .rejected (.single hours)
    | none => .unstated
  else if maxTotalMs < used.delayMs + waitMs then .rejected .total
  else .allowed

end Guard

end Automation
