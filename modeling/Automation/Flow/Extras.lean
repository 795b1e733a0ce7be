import Automation.Flow.Request

/-!
# Extra fields of flows

What the editor sends beyond the declared fields: the extras of nodes, of their settings, of rules
and of edges, and all the settings of a node that no run can execute. `mapExtras` changes them
everywhere in a flow and nothing else, and `free` lists those of a node in the order in which they
are written.
-/

set_option autoImplicit false

namespace Automation

/-- The rule with its extras changed. -/
def Rule.mapExtras (f : Fields → Fields) (r : Rule) : Rule := { r with extras := f r.extras }

/-- The delay with its extras changed. -/
def Delay.mapExtras (f : Fields → Fields) (d : Delay) : Delay := { d with extras := f d.extras }

namespace Payload

/-- The payload with its extras changed. -/
def mapExtras (f : Fields → Fields) : Payload → Payload
  | .start extras => .start (f extras)
  | .action message extras => .action message (f extras)
  | .delay d => .delay (d.mapExtras f)
  | .condition rules extras => .condition (rules.map (Rule.mapExtras f)) (f extras)
  | .finish extras => .finish (f extras)
  | .foreign type h settings => .foreign type h (f settings)

/-- The extras of a payload. -/
def free : Payload → Fields
  | .start extras => extras
  | .action _ extras => extras
  | .delay d => d.extras
  | .condition rules extras => rules.flatMap Rule.extras ++ extras
  | .finish extras => extras
  | .foreign _ _ settings => settings

end Payload

/-- The node with its extras changed. -/
def Node.mapExtras (f : Fields → Fields) (n : Node) : Node :=
  { n with payload := n.payload.mapExtras f, extras := f n.extras }

/-- The extras of a node and of its settings. -/
def Node.free (n : Node) : Fields := n.payload.free ++ n.extras

/-- The edge with its extras changed. -/
def Edge.mapExtras (f : Fields → Fields) (e : Edge) : Edge := { e with extras := f e.extras }

/-- The flow with its extras changed. -/
def Flow.mapExtras (f : Fields → Fields) (flow : Flow) : Flow :=
  { flow with
    nodes := flow.nodes.map (Node.mapExtras f)
    edges := flow.edges.map (Edge.mapExtras f) }

/-- The draft with its extras changed. -/
def Draft.mapExtras (f : Fields → Fields) (d : Draft) : Draft :=
  { d with nodes := d.nodes.map (Node.mapExtras f), edges := d.edges.map (Edge.mapExtras f) }

/-- The revision with its extras changed. -/
def Revision.mapExtras (f : Fields → Fields) (r : Revision) : Revision :=
  { r with
    nodes := r.nodes.map (List.map (Node.mapExtras f))
    edges := r.edges.map (List.map (Edge.mapExtras f)) }

end Automation
