import Automation.Value.Basic

/-!
# Values in replies

A reply is text, so what it carries has to be data that text can express. Dates become texts, and in
the fields that nobody declared a number that is not finite becomes null. `Value.replyDefect?` finds
the first part of such a field that a reply cannot carry: one that is nested too deeply, or an
object id.
-/

set_option autoImplicit false

namespace Automation

/-- Why a reply cannot carry a value. -/
inductive ReplyDefect where
  /-- It is nested too deeply. -/
  | depth
  /-- It is nested so deeply that a second attempt met the place where the first had to stop. -/
  | repetition
  | objectId
  /-- It is a number that is not finite. -/
  | notFinite
  deriving DecidableEq, Repr

namespace ReplyDefect

/-- The wording of a defect. -/
def message : ReplyDefect → String
  | .depth => "Maximum serialization depth exceeded"
  | .repetition => "Circular reference detected (id repeated)"
  | .objectId => "Unable to serialize unknown type: <class 'bson.objectid.ObjectId'>"
  | .notFinite => "Out of range float values are not JSON compliant"

/-- The defect as it is met when only one attempt is made. -/
def once : ReplyDefect → ReplyDefect
  | .repetition => .depth
  | d => d

end ReplyDefect

namespace Value

mutual

/-- The first part that a reply cannot carry, when `room` more values may be nested. Where the room
ends inside a list or a record, the second attempt stops at the same place. -/
def replyDefect? : (room : Nat) → Value → Option ReplyDefect
  | 0, list _ => some .repetition
  | 0, record _ => some .repetition
  | 0, _ => some .depth
  | room + 1, list items => itemsDefect? room items
  | room + 1, record fields => fieldsDefect? room fields
  | _ + 1, oid _ => some .objectId
  | _ + 1, _ => none

/-- The first part among the items that a reply cannot carry. -/
def itemsDefect? (room : Nat) : List Value → Option ReplyDefect
  | [] => none
  | v :: rest => (v.replyDefect? room).or (itemsDefect? room rest)

/-- The first part among the fields that a reply cannot carry. -/
def fieldsDefect? (room : Nat) : List (String × Value) → Option ReplyDefect
  | [] => none
  | (_, v) :: rest => (v.replyDefect? room).or (fieldsDefect? room rest)

end

mutual

/-- The value with null for every number that is not finite. -/
def finite : Value → Value
  | real x => if x.isFinite then real x else null
  | list items => list (finiteItems items)
  | record fields => record (finiteFields fields)
  | v => v

/-- The items with null for every number that is not finite. -/
def finiteItems : List Value → List Value
  | [] => []
  | v :: rest => v.finite :: finiteItems rest

/-- The fields with null for every number that is not finite. -/
def finiteFields : List (String × Value) → List (String × Value)
  | [] => []
  | (name, v) :: rest => (name, v.finite) :: finiteFields rest

end

mutual

/-- The value with every date written as text. -/
def withDates (write : Moment → String) : Value → Value
  | list items => list (withDatesItems write items)
  | record fields => record (withDatesFields write fields)
  | date m => text (write m)
  | v => v

/-- The items with every date written as text. -/
def withDatesItems (write : Moment → String) : List Value → List Value
  | [] => []
  | v :: rest => v.withDates write :: withDatesItems write rest

/-- The fields with every date written as text. -/
def withDatesFields (write : Moment → String) : List (String × Value) → List (String × Value)
  | [] => []
  | (name, v) :: rest => (name, v.withDates write) :: withDatesFields write rest

end

/-- The value as a reply carries it: UTC is written as `Z`. -/
def forReply (v : Value) : Value := v.withDates Moment.jsonText

end Value

end Automation
