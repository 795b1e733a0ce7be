import Automation.Flow.Basic
import Automation.Journal
import Automation.Text.Blank
import Automation.Text.LetterCase
import Automation.Value.Quoted

/-!
# Conditions

A condition is a chain of rules about the recipient of a run. Each rule compares the recipient with
a value, both trimmed and in lower case. The chain is folded from the left and no join binds more
tightly than another: the first rule gives the result so far, and each further rule joins it by AND
or by OR, or leaves it alone when its join is neither. `holds` is the result and `trace` tells how
it came about.
-/

set_option autoImplicit false

namespace Automation

open Automation.Text

/-- The form in which texts are compared. -/
def comparable (s : Option String) : List Char := (lower (trim (s.getD ""))).toList

/-- Whether one text stands somewhere inside another. -/
def isInside (part : List Char) : List Char → Bool
  | [] => part.isEmpty
  | c :: rest => part.isPrefixOf (c :: rest) || isInside part rest

namespace Rule

/-- The comparison that an operator makes of a subject with a value. -/
def comparison? : (operator : String) → Option (List Char → List Char → Bool)
  | "equals" => some fun subject value => subject == value
  | "not_equals" => some fun subject value => subject != value
  | "includes" => some fun subject value => isInside value subject
  | "starts_with" => some fun subject value => value.isPrefixOf subject
  | "ends_with" => some fun subject value => value.isSuffixOf subject
  | _ => none

/-- Whether a rule holds of a subject. A rule with an unknown operator never holds. -/
def holds (r : Rule) (subject : Option String) : Bool :=
  match r.operator.bind comparison? with
  | some compare => compare (comparable subject) (comparable r.value)
  | none => false

/-- A remark about a rule whose operator is unknown. -/
def remarks (r : Rule) : List String :=
  if (r.operator.bind comparison?).isSome then []
  else ["Unknown operator '" ++ Value.optionWord r.operator ++ "', rule evaluates to False"]

/-- The operator and the value of a rule in a trace. -/
def shown (r : Rule) : String :=
  "(" ++ Value.optionWord r.operator ++ " '" ++ Value.optionWord r.value ++ "')"

/-- The result of a chain after a rule joins it. -/
def joinTo (r : Rule) (soFar : Bool) (subject : Option String) : Bool :=
  match r.join with
  | some "AND" => soFar && r.holds subject
  | some "OR" => soFar || r.holds subject
  | _ => soFar

end Rule

namespace Condition

/-- Whether a chain of rules holds of a subject. A chain without rules does not. -/
def holds (rules : List Rule) (subject : Option String) : Bool :=
  match rules with
  | [] => false
  | first :: rest => rest.foldl (fun soFar r => r.joinTo soFar subject) (first.holds subject)

/-- The trace of the rules after the first, the next of them having the given number. -/
def traceRest (subject : Option String) : (number : Nat) → (soFar : Bool) → List Rule → List String
  | _, soFar, [] => ["Final evaluation result: " ++ Value.boolWord soFar]
  | number, soFar, r :: rest =>
    let after := r.joinTo soFar subject
    r.remarks ++
      ("Rule " ++ toString number ++ " [" ++ Value.optionWord r.join ++ "] " ++ r.shown ++ ": " ++
        Value.boolWord soFar ++ " -> " ++ Value.boolWord after ++ " (rule output: " ++
        Value.boolWord (r.holds subject) ++ ")") ::
      traceRest subject (number + 1) after rest

/-- How the result of a chain came about, step by step. -/
def trace (rules : List Rule) (subject : Option String) : List String :=
  ("Starting evaluation for subject '" ++ Value.optionWord subject ++ "' with " ++
      toString rules.length ++ " rule(s)") ::
    match rules with
    | [] => ["No rules found, returning False"]
    | first :: rest =>
      first.remarks ++
        ("Rule 1 " ++ first.shown ++ ": " ++ Value.boolWord (first.holds subject)) ::
        traceRest subject 2 (first.holds subject) rest

/-- The part of the service that speaks of conditions. -/
def speaker : String := "ConditionEvaluationService"

/-- What every message about a condition begins with. -/
def heading : String := "[CONDITION] "

/-- A remark about a condition. -/
def remark (message : String) : Journal.Entry := ⟨.debug, speaker, heading ++ message⟩

/-- Whether a chain of rules holds of a subject, and what the journal is told when it is to be
traced. -/
def evaluate (traced : Bool) (rules : List Rule) (subject : Option String) :
    Bool × List Journal.Entry :=
  (holds rules subject, if traced then (trace rules subject).map remark else [])

end Condition

end Automation
