import Automation.Flow.Extras
import Automation.Value.Reply

/-!
# Writing flows

A flow as a record: every field of its own, null when it has no value, followed by its extras.
Moments stay dates, so that a document can keep them. `reply` gives the form in which a reply
carries a flow, or the reason why none can.
-/

set_option autoImplicit false

namespace Automation

/-- A position as a record. -/
def Position.write (p : Position) : Value := .record [("x", .real p.x), ("y", .real p.y)]

/-- A rule as a record. -/
def Rule.write (r : Rule) : Value :=
  .record ([("field", .text r.field), ("operator", .ofText? r.operator),
    ("value", .ofText? r.value), ("join", .ofText? r.join)] ++ r.extras)

/-- A delay as a record. -/
def Delay.write (d : Delay) : Value :=
  .record ([("delayType", .ofText? d.kind), ("relativeValue", (d.amount.map Value.int).getD .null),
    ("relativeUnit", .ofText? d.unit), ("absoluteDate", .ofDate? d.target)] ++ d.extras)

/-- The settings of a node as a record. -/
def Payload.settings : Payload → Value
  | .start extras => .record extras
  | .action message extras => .record (("message", .ofText? message) :: extras)
  | .delay d => d.write
  | .condition rules extras => .record (("rules", .list (rules.map Rule.write)) :: extras)
  | .finish extras => .record extras
  | .foreign _ _ settings => .record settings

/-- A node as a record. -/
def Node.write (n : Node) : Value :=
  .record ([("id", .text n.id), ("type", .text n.type),
    ("position", (n.position.map Position.write).getD .null),
    ("data", n.payload.settings)] ++ n.extras)

/-- An edge as a record. -/
def Edge.write (e : Edge) : Value :=
  .record ([("id", .text e.id), ("source", .text e.source), ("target", .text e.target),
    ("label", .ofText? e.label), ("sourceHandle", .ofText? e.sourceHandle),
    ("targetHandle", .ofText? e.targetHandle)] ++ e.extras)

/-- Nodes as a list of records. -/
def writeNodes (nodes : List Node) : Value := .list (nodes.map Node.write)

/-- Edges as a list of records. -/
def writeEdges (edges : List Edge) : Value := .list (edges.map Edge.write)

/-- A flow as the fields of a document. The id is not among them: it names the document. -/
def Flow.document (flow : Flow) : Fields :=
  [("name", .text flow.name), ("nodes", writeNodes flow.nodes), ("edges", writeEdges flow.edges),
    ("created_at", .ofDate? flow.createdAt), ("updated_at", .ofDate? flow.updatedAt)]

/-- A flow as a record with its id. -/
def Flow.write (flow : Flow) : Value := .record (("id", .ofText? flow.id) :: flow.document)

/-- A draft as a record. -/
def Draft.write (d : Draft) : Value :=
  .record [("name", .ofText? d.name), ("nodes", writeNodes d.nodes), ("edges", writeEdges d.edges)]

/-- A revision as a record. -/
def Revision.write (r : Revision) : Value :=
  .record [("name", .ofText? r.name), ("nodes", (r.nodes.map writeNodes).getD .null),
    ("edges", (r.edges.map writeEdges).getD .null)]

/-! ## In replies -/

/-- How many values may be nested in an extra field of an edge, itself included. -/
def edgeRoom : Nat := 255

/-- How many values may be nested in an extra field of a node, which is itself inside the node. -/
def nodeRoom : Nat := 254

/-- The first part of a node that a reply cannot carry. A node is attempted twice. -/
def Node.replyDefect? (n : Node) : Option ReplyDefect := Value.fieldsDefect? nodeRoom n.free

/-- The first part of an edge that a reply cannot carry. -/
def Edge.replyDefect? (e : Edge) : Option ReplyDefect :=
  (Value.fieldsDefect? edgeRoom e.extras).map .once

/-- The first part of a list that a reply cannot carry. -/
def firstDefect? (nodes : List Node) (edges : List Edge) : Option ReplyDefect :=
  (nodes.findSome? Node.replyDefect?).or (edges.findSome? Edge.replyDefect?)

/-- A record in a reply, unless it has a defect. -/
def carried (d : Option ReplyDefect) (v : Value) : Except ReplyDefect Value :=
  match d with
  | some d => .error d
  | none => .ok v.forReply

/-- A delay in a reply. -/
def Delay.reply (d : Delay) : Except ReplyDefect Value :=
  carried ((Value.fieldsDefect? edgeRoom d.extras).map .once)
    (d.mapExtras Value.finiteFields).write

/-- A flow in a reply. -/
def Flow.reply (flow : Flow) : Except ReplyDefect Value :=
  carried (firstDefect? flow.nodes flow.edges) (flow.mapExtras Value.finiteFields).write

/-- A draft in a reply. -/
def Draft.reply (d : Draft) : Except ReplyDefect Value :=
  carried (firstDefect? d.nodes d.edges) (d.mapExtras Value.finiteFields).write

/-- A revision in a reply. -/
def Revision.reply (r : Revision) : Except ReplyDefect Value :=
  carried (firstDefect? (r.nodes.getD []) (r.edges.getD []))
    (r.mapExtras Value.finiteFields).write

end Automation
