import Automation.Flow.Basic
import Automation.Value.Reading

/-!
# Reading flows

Flows, and the requests that carry nodes and edges, read from what an editor sends or a document
keeps. The type of a node decides how the rest of it is read, and that type is part of the path of
any issue inside the node. A field that the editor left blank counts as absent in a delay.
-/

set_option autoImplicit false

namespace Automation

open Reader

/-- A position; a missing coordinate is zero. -/
def Position.read : Reader Position :=
  record "FlowNodePosition" fun fields =>
    Position.mk <$> withDefault "x" .zero real fields <*> withDefault "y" .zero real fields

/-- A rule of a condition. -/
def Rule.read : Reader Rule :=
  record "ConditionRule" fun fields =>
    (fun field operator value join =>
        ⟨field, operator, value, join,
          fields.without ["field", "operator", "value", "join"]⟩) <$>
      withDefault "field" "email" text fields <*>
      optionalField "operator" text fields <*>
      withDefault "value" (some "") (optional text) fields <*>
      optionalField "join" text fields

/-- The settings of a delay. -/
def Delay.readFields (fields : Fields) : Checked Delay :=
  (fun kind amount unit target =>
      ⟨kind, amount, unit, target,
        fields.without ["delayType", "relativeValue", "relativeUnit", "absoluteDate"]⟩) <$>
    optionalField "delayType" text fields <*>
    withDefault "relativeValue" none (blankAsNone (optional integer)) fields <*>
    withDefault "relativeUnit" none (blankAsNone (optional text)) fields <*>
    withDefault "absoluteDate" none (blankAsNone (optional moment)) fields

/-- The settings of a delay. -/
def Delay.read : Reader Delay := record "DelayNodeData" Delay.readFields

/-- The settings of a start or an end. -/
def readEmptySettings : Reader Fields := record "EmptyNodeData" .ok

/-- The settings of an action. -/
def readActionSettings : Reader Payload :=
  record "ActionNodeData" fun fields =>
    (fun message => .action message (fields.without ["message"])) <$>
      optionalField "message" text fields

/-- The settings of a condition. -/
def readConditionSettings : Reader Payload :=
  record "ConditionNodeData" fun fields =>
    (fun rules => .condition rules (fields.without ["rules"])) <$>
      withDefault "rules" [] (list Rule.read) fields

/-- How the settings of a node are read, and the settings of one that came without any. -/
structure SettingsForm where
  absent : Payload
  read : Reader Payload

/-- The form for each type that a run can execute. -/
def settingsForm? : (type : String) → Option SettingsForm
  | "start" => some ⟨.start [], fun v => Payload.start <$> readEmptySettings v⟩
  | "action" => some ⟨.action none [], readActionSettings⟩
  | "delay" => some ⟨.delay ⟨none, none, none, none, []⟩, fun v => Payload.delay <$> Delay.read v⟩
  | "condition" => some ⟨.condition [] [], readConditionSettings⟩
  | "end" => some ⟨.finish [], fun v => Payload.finish <$> readEmptySettings v⟩
  | _ => none

namespace Node

/-- The fields of a node that are not extras. -/
def ownFields : List String := ["id", "type", "position", "data"]

/-- A node of a type that a run can execute. -/
def readKnown (form : SettingsForm) (fields : Fields) : Checked Node :=
  (fun id position payload => ⟨id, position, payload, fields.without ownFields⟩) <$>
    required "id" text fields <*>
    optionalField "position" Position.read fields <*>
    withDefault "data" form.absent form.read fields

/-- The payload of a type that no run can execute. A known type does not reach this. -/
def foreignPayload (type : String) (settings : Fields) : Payload :=
  if h : type ∈ knownTypes then .start settings else .foreign type h settings

/-- A node of any other type. -/
def readForeign (fields : Fields) : Checked Node :=
  (fun id type position settings =>
      ⟨id, position, foreignPayload type settings, fields.without ownFields⟩) <$>
    required "id" text fields <*>
    required "type" text fields <*>
    optionalField "position" Position.read fields <*>
    withDefault "data" [] dictionary fields

/-- The type that a node gives, if it is a text. -/
def givenType? (fields : Fields) : Option String :=
  match fields.get? "type" with
  | some (.text type) => some type
  | _ => none

/-- A node. -/
def read : Reader Node
  | .record fields =>
    match (givenType? fields).bind fun type => (settingsForm? type).map (type, ·) with
    | some (type, form) => (readKnown form fields).inside (.name type)
    | none => (readForeign fields).inside (.name "unknown")
  | v => (Checked.mismatch (.notRecord "UnknownNode") v).inside (.name "unknown")

end Node

/-- An edge. -/
def Edge.read : Reader Edge :=
  record "FlowEdge" fun fields =>
    (fun id source target label sourceHandle targetHandle =>
        ⟨id, source, target, label, sourceHandle, targetHandle,
          fields.without ["id", "source", "target", "label", "sourceHandle", "targetHandle"]⟩) <$>
      required "id" text fields <*>
      required "source" text fields <*>
      required "target" text fields <*>
      optionalField "label" text fields <*>
      optionalField "sourceHandle" text fields <*>
      optionalField "targetHandle" text fields

namespace Flow

/-- The fields of a flow. A flow that does not say when it was made or changed was so now. -/
def readFields (now : Moment) (fields : Fields) : Checked Flow :=
  Flow.mk <$>
    optionalField "id" text fields <*>
    required "name" text fields <*>
    required "nodes" (list Node.read) fields <*>
    withDefault "edges" [] (list Edge.read) fields <*>
    withDefault "created_at" (some now) (optional moment) fields <*>
    withDefault "updated_at" (some now) (optional moment) fields

/-- A flow. -/
def read (now : Moment) : Reader Flow := record "FlowData" (readFields now)

end Flow

end Automation
