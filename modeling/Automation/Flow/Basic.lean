import Automation.Value.Basic

/-!
# Automation flows

A flow is a graph drawn in an editor: nodes, and edges that name the nodes they join. A node carries
the settings of its kind; a kind that no run can execute is kept with whatever settings it came
with. Everything the editor sends beyond the fields of this module is kept in `extras`, so that
saving a flow loses nothing.

Look-ups go by the id of a node, and the first node with that id answers.
-/

set_option autoImplicit false

namespace Automation

/-- Where the editor draws a node. -/
structure Position where
  x : Binary64
  y : Binary64
  deriving DecidableEq, Repr

/-- One comparison of a condition with the recipient, and how it joins the comparisons before it. -/
structure Rule where
  field : String
  operator : Option String
  value : Option String
  join : Option String
  extras : Fields
  deriving Repr

/-- How long a delay waits: an amount of a unit, or until a date, as its kind says. -/
structure Delay where
  kind : Option String
  amount : Option Int
  unit : Option String
  target : Option Moment
  extras : Fields
  deriving Repr

/-- The types of node that a run can execute. -/
def knownTypes : List String := ["start", "action", "delay", "condition", "end"]

/-- What a node does, with the settings for it. -/
inductive Payload where
  | start (extras : Fields)
  | action (message : Option String) (extras : Fields)
  | delay (delay : Delay)
  | condition (rules : List Rule) (extras : Fields)
  | finish (extras : Fields)
  /-- A type of node that no run can execute. -/
  | foreign (type : String) (foreign : type ∉ knownTypes) (settings : Fields)

/-- The type of a node as the editor names it. -/
def Payload.type : Payload → String
  | .start _ => "start"
  | .action .. => "action"
  | .delay _ => "delay"
  | .condition .. => "condition"
  | .finish _ => "end"
  | .foreign type .. => type

/-- A node of a flow. -/
structure Node where
  id : String
  position : Option Position
  payload : Payload
  extras : Fields

namespace Node

/-- The type of a node as the editor names it. -/
def type (n : Node) : String := n.payload.type

/-- Whether a run begins here. -/
def isStart (n : Node) : Bool := n.type == "start"

/-- Whether a run ends here. -/
def isEnd (n : Node) : Bool := n.type == "end"

/-- Whether a run chooses between two edges here. -/
def isCondition (n : Node) : Bool := n.type == "condition"

end Node

/-- An edge of a flow. The label tells the two edges of a condition apart. -/
structure Edge where
  id : String
  source : String
  target : String
  label : Option String
  sourceHandle : Option String
  targetHandle : Option String
  extras : Fields
  deriving Repr

/-- A flow, with its id once it is saved. -/
structure Flow where
  id : Option String
  name : String
  nodes : List Node
  edges : List Edge
  createdAt : Option Moment
  updatedAt : Option Moment

namespace Flow

/-- The first node with an id. -/
def node? (flow : Flow) (id : String) : Option Node :=
  flow.nodes.find? fun n => n.id == id

/-- The nodes of a type, in order. -/
def nodesOfType (flow : Flow) (type : String) : List Node :=
  flow.nodes.filter fun n => n.type == type

/-- The edges that leave a node, in order. -/
def outgoing (flow : Flow) (id : String) : List Edge :=
  flow.edges.filter fun e => e.source == id

/-- The target of the first edge that leaves a node, if there is such an edge and such a node. -/
def next? (flow : Flow) (id : String) : Option Node :=
  (flow.outgoing id).head?.bind fun e => flow.node? e.target

/-- The node at which a run begins. -/
def start? (flow : Flow) : Option Node := (flow.nodesOfType "start").head?

end Flow

end Automation
