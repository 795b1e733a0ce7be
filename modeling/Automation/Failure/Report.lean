import Automation.Failure.Kind
import Automation.Flow.Delay

/-!
# Reports of failures

A failure of the service can be reported by hand: its kind says which parts the report has, and
which of them may be left out. `Report.make` puts the parts given in order into a report, and
refuses too few or too many of them and a message that is no text.
-/

set_option autoImplicit false

namespace Automation

/-- A part of a report, with the value it has when it is left out. -/
structure ReportPart where
  name : String
  fallback : Option Value
  deriving Repr

/-- The parts of a report of a kind. -/
def FailureKind.parts : FailureKind → List ReportPart
  | .flow => [⟨"message", none⟩, ⟨"status_code", none⟩]
  | .database => [⟨"message", none⟩, ⟨"status_code", some (.int 500)⟩]
  | .unknownUnit => [⟨"unit", none⟩]
  | .pastTarget => [⟨"message", some (.text DelayFault.pastTarget.message)⟩]
  | _ => [⟨"message", none⟩]

/-- Why parts do not make a report. -/
inductive ReportDefect where
  | missing (kind : FailureKind) (names : List String)
  | surplus (kind : FailureKind) (given : Nat)
  /-- The message is a value of another kind. -/
  | notText (kindName : String)
  deriving DecidableEq, Repr

namespace ReportDefect

/-- Names in apostrophes as a list in words. -/
def listed (names : List String) : String :=
  let quoted := names.map fun n => "'" ++ n ++ "'"
  match quoted.reverse with
  | [] => ""
  | [a] => a
  | last :: rest => String.intercalate ", " rest.reverse ++ " and " ++ last

/-- How many parts a report of a kind takes, the report itself counted as one. -/
def range (kind : FailureKind) : String :=
  let most := kind.parts.length + 1
  let least := (kind.parts.filter fun p => p.fallback.isNone).length + 1
  if least = most then toString most else "from " ++ toString least ++ " to " ++ toString most

/-- The words for the making of a report. -/
def making (kind : FailureKind) : String := kind.name ++ ".__init__()"

/-- The wording of a defect. -/
def message : ReportDefect → String
  | .missing kind names =>
    making kind ++ " missing " ++ toString names.length ++ " required positional argument" ++
      (if names.length = 1 then "" else "s") ++ ": " ++ listed names
  | .surplus kind given =>
    making kind ++ " takes " ++ range kind ++ " positional arguments but " ++
      toString (given + 1) ++ " were given"
  | .notText kindName => "__str__ returned non-string (type " ++ kindName ++ ")"

end ReportDefect

/-- A failure that is reported by hand. -/
structure Report where
  kind : FailureKind
  message : String
  status : Value
  deriving Repr

namespace Report

/-- The parts of a report in order: those given, and what stands for those left out. -/
def fill (given : List Value) (parts : List ReportPart) : List (Option Value) :=
  parts.mapIdx fun i p => given[i]?.or p.fallback

/-- The message of a report, which is about a unit or worded by the first part. -/
def wording (kind : FailureKind) (first : Value) : Except ReportDefect String :=
  match kind, first with
  | .unknownUnit, v => .ok (DelayFault.unknownUnit (some v.shown)).message
  | _, .text s => .ok s
  | _, v => .error (.notText v.kindName)

/-- The report of a kind with the given parts. -/
def make (kind : FailureKind) (given : List Value) : Except ReportDefect Report := do
  let parts := kind.parts
  if parts.length < given.length then throw (.surplus kind given.length)
  let filled := fill given parts
  let lacking := (parts.zip filled).filter fun (_, v) => v.isNone
  unless lacking.isEmpty do throw (.missing kind (lacking.map fun (p, _) => p.name))
  let message ← wording kind ((filled.head?.join).getD .null)
  let status := ((filled[1]?).join).getD (.int (kind.status?.getD 500))
  return ⟨kind, message, status⟩

end Report

end Automation
