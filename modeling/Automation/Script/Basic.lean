import Automation.Program.Basic

/-!
# Scripts

A script is a program for the person at the terminal. It ends with a line that tells whether it
succeeded, and with a code for the terminal if it did not.
-/

set_option autoImplicit false

namespace Automation.Script

/-- A line between the parts of a report. -/
def rule : String := String.ofList (List.replicate 60 '=')

/-- The report of a script: a heading and its lines, between rules. -/
def reportLines (heading : String) (body : List String) : List String :=
  ["\n" ++ rule, heading, rule] ++ body ++ [rule]

/-- Several lines for the person at the terminal. -/
def sayAll : List String → Program Unit
  | [] => .done ()
  | line :: rest => (Program.say line).bind fun _ => sayAll rest

/-- A program as a script. The result is the code for the terminal, if there is one. -/
def asScript (p : Program Unit) : Program (Option Int) := do
  match ← p.attempt with
  | .ok () => do
    Program.say "\n[SUCCESS] Script completed successfully!"
    pure none
  | .error f => do
    Program.say ("\n[ERROR] Script failed with error: " ++ f.message)
    pure (some 1)

end Automation.Script
