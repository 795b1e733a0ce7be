import Automation.Flow.Delay
import Automation.Flow.Search
import Automation.Journal
import Automation.Text.Blank

/-!
# Defects of a flow

A flow may be run when it has no defect. `Flow.defect?` looks for defects in a fixed order and
reports the first: the numbers of start and end nodes, the edges, the settings of each node, and
last the shape of the graph, which must have no loop that the start can reach and no node that it
cannot.
-/

set_option autoImplicit false

namespace Automation

open Automation.Text

/-- What keeps a flow from being run. -/
inductive FlowDefect where
  | startCount
  | endCount
  | startEdges
  | endEdges
  | repeatedId (node : String)
  | looseEdge (edge : String)
  | conditionEdges (node : String)
  | deadEnd (node type : String)
  | unsupportedType (node type : String)
  | noMessage (node : String)
  | noDelayKind (node : String)
  | incompleteDelay (node : String)
  | nonPositiveDelay (node : String)
  | unknownUnit (node unit : String)
  | noTarget (node : String)
  | unknownDelayKind (node kind : String)
  | noRules (node : String)
  | loop
  | unreachable (node type : String)
  deriving DecidableEq, Repr

/-- The wording of a defect. -/
def FlowDefect.message : FlowDefect → String
  | .startCount => "Automation must have exactly one Start node"
  | .endCount => "Automation must have exactly one End node"
  | .startEdges => "Start node must have exactly one outgoing edge"
  | .endEdges => "End node cannot have outgoing edges"
  | .repeatedId node => "Node id " ++ node ++ " is used by more than one node"
  | .looseEdge edge =>
    "Edge " ++ edge ++ " connects a node that does not exist in the automation"
  | .conditionEdges node =>
    "Condition node " ++ node ++ " must have exactly one TRUE edge and one FALSE edge"
  | .deadEnd node type =>
    "Node " ++ node ++ " (" ++ type ++ ") is a dead end and must connect to another node"
  | .unsupportedType node type => "Node " ++ node ++ " has unsupported type '" ++ type ++ "'"
  | .noMessage node => "Action node " ++ node ++ " is missing an email message"
  | .noDelayKind node => "Delay node " ++ node ++ " missing delay type"
  | .incompleteDelay node => "Delay node " ++ node ++ " must have a relative value and unit"
  | .nonPositiveDelay node => "Delay node " ++ node ++ " must have a positive relative value"
  | .unknownUnit node unit => "Delay node " ++ node ++ " has unknown unit '" ++ unit ++ "'"
  | .noTarget node => "Delay node " ++ node ++ " must have an absolute target date"
  | .unknownDelayKind node kind =>
    "Delay node " ++ node ++ " has unknown delay type '" ++ kind ++ "'"
  | .noRules node => "Condition node " ++ node ++ " must have at least one rule"
  | .loop => "Infinite loop detected in the automation flow"
  | .unreachable node type =>
    "Node " ++ node ++ " (" ++ type ++ ") is unreachable from the Start node"

namespace Flow

/-- The first text of a list that stood in it before. -/
def firstRepeated? : (before : List String) → List String → Option String
  | _, [] => none
  | before, s :: rest => if before.contains s then some s else firstRepeated? (s :: before) rest

/-- Whether both ends of an edge are nodes of the flow. -/
def isAnchored (flow : Flow) (e : Edge) : Bool :=
  (flow.nodes.any fun n => n.id == e.source) && (flow.nodes.any fun n => n.id == e.target)

/-- Whether the edges that leave a condition are one for each of its outcomes. -/
def branches (flow : Flow) (id : String) : Bool :=
  match (flow.outgoing id).map Edge.label with
  | [a, b] =>
    (a == some "TRUE" && b == some "FALSE") || (a == some "FALSE" && b == some "TRUE")
  | _ => false

/-- Whether a node that is not an end has no edge leaving it. -/
def isDeadEnd (flow : Flow) (n : Node) : Bool := !n.isEnd && (flow.outgoing n.id).isEmpty

/-- The first defect of the edges, given the start and the end. -/
def edgeDefect? (flow : Flow) (start finish : Node) : Option FlowDefect :=
  if (flow.outgoing start.id).length ≠ 1 then some .startEdges
  else if !(flow.outgoing finish.id).isEmpty then some .endEdges
  else
    ((firstRepeated? [] (flow.nodes.map Node.id)).map .repeatedId).or <|
    ((flow.edges.find? fun e => !flow.isAnchored e).map fun e => .looseEdge e.id).or <|
    ((flow.nodes.find? fun n => n.isCondition && !flow.branches n.id).map
      fun n => .conditionEdges n.id).or <|
    ((flow.nodes.find? flow.isDeadEnd).map fun n => .deadEnd n.id n.type)

/-- What is wrong with the settings of a delay. -/
def delayDefect? (id : String) (d : Delay) : Option FlowDefect :=
  match d.kind with
  | none | some "" => some (.noDelayKind id)
  | some "relative" =>
    match d.amountAndUnit? with
    | none => some (.incompleteDelay id)
    | some (amount, unit) =>
      if amount ≤ 0 then some (.nonPositiveDelay id)
      else if (Delay.unitLength? unit).isNone then some (.unknownUnit id unit)
      else none
  | some "absolute" => if d.target.isNone then some (.noTarget id) else none
  | some kind => some (.unknownDelayKind id kind)

/-- What is wrong with the settings of a node. -/
def settingsDefect? (n : Node) : Option FlowDefect :=
  match n.payload with
  | .foreign type _ _ => some (.unsupportedType n.id type)
  | .action message _ => if isBlankText (message.getD "") then some (.noMessage n.id) else none
  | .delay d => delayDefect? n.id d
  | .condition rules _ => if rules.isEmpty then some (.noRules n.id) else none
  | .start _ | .finish _ => none

/-- What is wrong with the graph, seen from a start. -/
def graphDefect? (flow : Flow) (start : Node) : Option FlowDefect :=
  match flow.search start.id with
  | .loop => some .loop
  | .reached met =>
    (flow.nodes.find? fun n => !met.contains n.id).map fun n => .unreachable n.id n.type

/-- The first defect of a flow. -/
def defect? (flow : Flow) : Option FlowDefect :=
  match flow.nodesOfType "start", flow.nodesOfType "end" with
  | [start], [finish] =>
    (flow.edgeDefect? start finish).or <|
      (flow.nodes.findSome? settingsDefect?).or (flow.graphDefect? start)
  | [_], _ => some .endCount
  | _, _ => some .startCount

/-- What the journal is told about the verdict on a flow. -/
def verdictEntries (flow : Flow) : List Journal.Entry :=
  (flow.defect?.map fun d =>
    ⟨.info, "FlowValidationService",
      "Flow '" ++ flow.name ++ "' failed validation: " ++ d.message⟩).toList

end Flow

end Automation
