import Automation.Flow.Reading

/-!
# Requests about flows

A draft is what the editor saves as a new flow; a revision replaces the parts it provides of a saved
one. Neither has to be a graph that could run, and a draft may lack even its name and nodes.
-/

set_option autoImplicit false

namespace Automation

open Reader

/-- A flow to be made. -/
structure Draft where
  name : Option String
  nodes : List Node
  edges : List Edge

/-- A draft. -/
def Draft.read : Reader Draft :=
  record "CreateFlowRequest" fun fields =>
    Draft.mk <$>
      optionalField "name" text fields <*>
      withDefault "nodes" [] (list Node.read) fields <*>
      withDefault "edges" [] (list Edge.read) fields

/-- Changes to a saved flow. A part that is not provided stays. -/
structure Revision where
  name : Option String
  nodes : Option (List Node)
  edges : Option (List Edge)

/-- A revision; null counts as not provided. -/
def Revision.read : Reader Revision :=
  record "UpdateFlowRequest" fun fields =>
    Revision.mk <$>
      optionalField "name" text fields <*>
      optionalField "nodes" (list Node.read) fields <*>
      optionalField "edges" (list Edge.read) fields

end Automation
