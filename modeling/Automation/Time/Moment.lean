import Automation.Number.Binary64
import Automation.Text.Digit
import Automation.Time.Calendar

/-!
# Moments

A `Moment` is what a clock on the wall shows, to the microsecond, together with the offset of that
clock from UTC. A moment without an offset is read as UTC. Two moments may show different walls and
be the same `instant`. `isoText` writes a moment with its offset as digits, `jsonText` writes an
offset of zero as `Z`, and `stored` is the form a document keeps: UTC, cut to the millisecond.
-/

set_option autoImplicit false

namespace Automation

open Automation.Text

/-- A reading of a clock: microseconds of wall time since the beginning of 1970, and the minutes by
which the clock is ahead of UTC, if that is known. -/
structure Moment where
  wall : Int
  offset : Option Int
  deriving DecidableEq, Repr, Inhabited

namespace Moment

/-- Microseconds of a minute. -/
def minute : Int := 60000000

/-- Microseconds of a day. -/
def day : Int := 86400000000

/-- The beginning of year 1. -/
def earliest : Int := Date.toDays ⟨1, 1, 1⟩ * day

/-- The beginning of year 10000, which no moment reaches. -/
def horizon : Int := Date.toDays ⟨10000, 1, 1⟩ * day

/-- Whether a wall time lies in the years 1 to 9999. -/
def inRange (wall : Int) : Bool := earliest ≤ wall && wall < horizon

/-- Microseconds of UTC since the beginning of 1970. -/
def instant (m : Moment) : Int := m.wall - m.offset.getD 0 * minute

/-- The moment in UTC at an instant. -/
def ofInstant (t : Int) : Moment := ⟨t, some 0⟩

/-- The moment with its offset; without one it is UTC. -/
def asUtc (m : Moment) : Moment := ⟨m.wall, some (m.offset.getD 0)⟩

/-- The moment in UTC, if its year lies in the calendar. -/
def toUtc? (m : Moment) : Option Moment :=
  if inRange m.instant then some (ofInstant m.instant) else none

/-- The moment later by some microseconds on the same clock, if its year lies in the calendar. -/
def plus? (m : Moment) (micros : Int) : Option Moment :=
  if inRange (m.wall + micros) then some ⟨m.wall + micros, m.offset⟩ else none

/-- The microseconds of some seconds, a half going to the even one. The whole seconds are taken
exactly, and the rest is scaled in double precision. -/
def microsOfSeconds (seconds : Binary64) : Int :=
  seconds.truncate * 1000000 + (seconds.fraction.scale 1000000).nearestInt

/-- An instant cut down to the millisecond. -/
def cutToMillisecond (t : Int) : Int := t / 1000 * 1000

/-- The form in which a document keeps a moment, if its year lies in the calendar. -/
def stored? (m : Moment) : Option Moment :=
  m.toUtc?.map fun u => ofInstant (cutToMillisecond u.instant)

/-- The date on the wall. -/
def date (m : Moment) : Date := Date.ofDays (m.wall / day)

/-- Microseconds of wall time since midnight. -/
def timeOfDay (m : Moment) : Nat := (m.wall % day).toNat

/-- Hours and minutes of an offset, with its sign. -/
def offsetText (minutes : Int) : String :=
  let n := minutes.natAbs
  (if minutes < 0 then "-" else "+") ++ padded 2 (n / 60) ++ ":" ++ padded 2 (n % 60)

/-- Date and time of day; microseconds are written when there are any. -/
def wallText (m : Moment) : String :=
  let d := m.date
  let t := m.timeOfDay
  let micros := t % 1000000
  padded 4 d.year.toNat ++ "-" ++ padded 2 d.month ++ "-" ++ padded 2 d.day ++ "T" ++
    padded 2 (t / 3600000000) ++ ":" ++ padded 2 (t / 60000000 % 60) ++ ":" ++
    padded 2 (t / 1000000 % 60) ++ (if micros = 0 then "" else "." ++ padded 6 micros)

/-- The moment with its offset in digits. -/
def isoText (m : Moment) : String :=
  m.wallText ++ (m.offset.map offsetText).getD ""

/-- The moment with an offset of zero written as `Z`. -/
def jsonText (m : Moment) : String :=
  m.wallText ++ (m.offset.map fun o => if o = 0 then "Z" else offsetText o).getD ""

end Moment

end Automation
