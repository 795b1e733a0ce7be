import Automation.Flow.Basic
import Automation.Number.Binary64
import Automation.Time.Moment
import Automation.Value.Quoted

/-!
# Delays

How many milliseconds a delay waits. A relative delay is its amount times the length of its unit,
and a day is always twenty-four hours. An absolute delay lasts from now until its target; the time
left is taken as a number of seconds in double precision and cut to whole milliseconds. A target
that lies before now by any amount is an error, and one that is now is a delay of zero.
-/

set_option autoImplicit false

namespace Automation

/-- Why a delay has no length. -/
inductive DelayFault where
  | incomplete
  | noTarget
  | unknownKind (kind : Option String)
  | unknownUnit (unit : Option String)
  /-- The unit is a value of a kind that can name nothing. -/
  | unitKind (kindName : String)
  | pastTarget
  deriving DecidableEq, Repr

/-- The wording of a fault. -/
def DelayFault.message : DelayFault → String
  | .incomplete => "Relative delay value or unit not provided"
  | .noTarget => "Absolute date not provided"
  | .unknownKind kind => "Unknown delay type: " ++ Value.optionWord kind
  | .unknownUnit unit => "Unknown time unit: " ++ Value.optionWord unit
  | .unitKind kindName => "unhashable type: '" ++ kindName ++ "'"
  | .pastTarget => "Target date is in the past"

namespace Delay

/-- The units of a relative delay with their lengths in milliseconds. -/
def units : List (String × Int) :=
  [("minutes", 60000), ("hours", 3600000), ("days", 86400000)]

/-- The length of a unit in milliseconds. -/
def unitLength? (unit : String) : Option Int :=
  (units.find? fun entry => entry.1 == unit).map Prod.snd

/-- The length of an amount of a unit. -/
def relative (amount : Int) (unit : Option String) : Except DelayFault Int :=
  match unit.bind unitLength? with
  | some length => .ok (amount * length)
  | none => .error (.unknownUnit unit)

/-- The length of an amount of a unit that is given as any value. Only a text names a unit. -/
def relativeTo (amount : Int) (unit : Value) : Except DelayFault Int :=
  match unit with
  | .text s => relative amount (some s)
  | .list _ | .record _ => .error (.unitKind unit.kindName)
  | v => .error (.unknownUnit (some v.shown))

/-- A number of microseconds in milliseconds: as seconds, times a thousand, both rounded to double
precision, and cut to an integer. -/
def wholeMilliseconds (micros : Int) : Int :=
  ((Binary64.ofIntRatio micros 1000000).scale 1000).truncate

/-- The time from now until a target, in milliseconds. -/
def remaining (target now : Moment) : Except DelayFault Int :=
  let micros := target.instant - now.instant
  if micros < 0 then .error .pastTarget else .ok (wholeMilliseconds micros)

/-- Whether a relative delay waits by an amount. -/
def isRelative (d : Delay) : Bool := d.kind == some "relative"

/-- Whether a delay waits until a date. -/
def isAbsolute (d : Delay) : Bool := d.kind == some "absolute"

/-- The amount and the unit of a relative delay, when both are given. -/
def amountAndUnit? (d : Delay) : Option (Int × String) :=
  match d.amount, d.unit with
  | some amount, some unit => if amount = 0 ∨ unit.isEmpty then none else some (amount, unit)
  | _, _ => none

/-- How many milliseconds a delay that begins now waits. -/
def milliseconds (d : Delay) (now : Moment) : Except DelayFault Int :=
  if d.isRelative then
    match d.amountAndUnit? with
    | some (amount, unit) => relative amount (some unit)
    | none => .error .incomplete
  else if d.isAbsolute then
    match d.target with
    | some target => remaining target now
    | none => .error .noTarget
  else .error (.unknownKind d.kind)

/-- A delay in words. -/
def describe (d : Delay) : String :=
  if d.isRelative then
    ((d.amount.map fun n : Int => toString n).getD "None") ++ " " ++ Value.optionWord d.unit
  else
    match d.target with
    | some target => "until " ++ target.asUtc.isoText
    | none => "until an unspecified date"

/-- A delay in words after the word for waiting. -/
def waitingFor (d : Delay) : String := if d.isRelative then "for " ++ d.describe else d.describe

end Delay

end Automation
