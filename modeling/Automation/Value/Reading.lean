import Automation.Number.Literal
import Automation.Time.Reading
import Automation.Value.Quoted

/-!
# Reading values

How a value is read as a number, a text, a moment, a list or a record. A reader gives the value it
read or every issue it met, in order: `Checked` is applicative and not monadic, so that the parts
of a record are all looked at even when an early one is wrong. An `Issue` says where it arose, as a
path from the whole value, what was wrong there, and with which value.
-/

set_option autoImplicit false

namespace Automation

open Automation.Text

/-- One part of a path into a value. -/
inductive PathPart where
  | name (s : String)
  | index (n : Nat)
  deriving DecidableEq, Repr

/-- The written form of a part. -/
def PathPart.text : PathPart → String
  | .name s => s
  | .index n => toString n

/-- What was wrong with a value. -/
inductive Mismatch where
  | missing
  | notText
  | notList
  | notDictionary
  | notRecord (type : String)
  | notInteger
  | integerText
  | integerFraction
  | integerSize
  | notFinite
  | notNumber
  | numberText
  | moment (d : Moment.Defect)
  | emailMissing
  | emailFormat
  deriving DecidableEq, Repr

/-- The wording of a mismatch. -/
def Mismatch.message : Mismatch → String
  | .missing => "Field required"
  | .notText => "Input should be a valid string"
  | .notList => "Input should be a valid list"
  | .notDictionary => "Input should be a valid dictionary"
  | .notRecord type => "Input should be a valid dictionary or instance of " ++ type
  | .notInteger => "Input should be a valid integer"
  | .integerText => "Input should be a valid integer, unable to parse string as an integer"
  | .integerFraction => "Input should be a valid integer, got a number with a fractional part"
  | .integerSize => "Unable to parse input string as an integer, exceeded maximum size"
  | .notFinite => "Input should be a finite number"
  | .notNumber => "Input should be a valid number"
  | .numberText => "Input should be a valid number, unable to parse string as a number"
  | .moment d => d.message
  | .emailMissing => "Email is required"
  | .emailFormat => "Invalid email format"

/-- Whether a mismatch is with a rule of the form, and not with the kind of a value. -/
def Mismatch.isRule : Mismatch → Bool
  | .emailMissing | .emailFormat => true
  | _ => false

/-- The wording of a mismatch in a full list of issues, where a rule is marked as one. -/
def Mismatch.listed (m : Mismatch) : String :=
  if m.isRule then "Value error, " ++ m.message else m.message

/-- The name of a mismatch, under which one can read up on it. -/
def Mismatch.name : Mismatch → String
  | .missing => "missing"
  | .notText => "string_type"
  | .notList => "list_type"
  | .notDictionary => "dict_type"
  | .notRecord _ => "model_type"
  | .notInteger => "int_type"
  | .integerText => "int_parsing"
  | .integerFraction => "int_from_float"
  | .integerSize => "int_parsing_size"
  | .notFinite => "finite_number"
  | .notNumber => "float_type"
  | .numberText => "float_parsing"
  | .moment .kind => "datetime_type"
  | .moment (.date _) => "datetime_from_date_parsing"
  | .moment _ => "datetime_parsing"
  | .emailMissing | .emailFormat => "value_error"

/-- A mismatch, where it arose, and the value that it is about. -/
structure Issue where
  path : List PathPart
  mismatch : Mismatch
  value : Value
  deriving Repr

namespace Issue

/-- The written path. -/
def location (issue : Issue) : String :=
  String.intercalate "." (issue.path.map PathPart.text)

/-- The issue in one line. -/
def message (issue : Issue) : String :=
  if issue.location.isEmpty then issue.mismatch.message
  else issue.location ++ ": " ++ issue.mismatch.message

/-- Where one can read up on mismatches. -/
def manual : String := "https:" ++ "//errors.pydantic.dev/2.14/v/"

/-- The issue with the value that it is about, in three lines. -/
def report (issue : Issue) : String :=
  (if issue.location.isEmpty then "" else issue.location ++ "\n") ++ "  " ++
    issue.mismatch.listed ++ " [type=" ++ issue.mismatch.name ++
    ", input_value=" ++ issue.value.excerpt ++ ", input_type=" ++ issue.value.kindName ++
    "]\n    For further information visit " ++ manual ++ issue.mismatch.name

end Issue

/-- A value that was read, or every issue met while reading it. -/
inductive Checked (α : Type) where
  | ok (a : α)
  | refused (issues : List Issue)
  deriving Repr

namespace Checked

variable {α β : Type}

/-- The image of a value that was read. -/
def map (f : α → β) : Checked α → Checked β
  | .ok a => .ok (f a)
  | .refused issues => .refused issues

/-- Both parts read, or the issues of both in order. -/
def seq (f : Checked (α → β)) (a : Checked α) : Checked β :=
  match f, a with
  | .ok f, .ok a => .ok (f a)
  | .ok _, .refused later => .refused later
  | .refused issues, .ok _ => .refused issues
  | .refused issues, .refused later => .refused (issues ++ later)

instance : Applicative Checked where
  pure := .ok
  map f a := a.map f
  seq f a := f.seq (a ())

/-- One mismatch with a value itself. -/
def mismatch (m : Mismatch) (v : Value) : Checked α := .refused [⟨[], m, v⟩]

/-- The same reading of a part: its issues arose further inside. -/
def inside (part : PathPart) : Checked α → Checked α
  | .ok a => .ok a
  | .refused issues => .refused (issues.map fun issue => { issue with path := part :: issue.path })

/-- The readings of several parts together. -/
def all : List (Checked α) → Checked (List α)
  | [] => .ok []
  | a :: rest => (a.map List.cons).seq (all rest)

/-- The value that was read, or its issues. -/
def toExcept : Checked α → Except (List Issue) α
  | .ok a => .ok a
  | .refused issues => .error issues

end Checked

/-- A way to read a value. -/
abbrev Reader (α : Type) := Value → Checked α

namespace Reader

variable {α : Type}

/-- A text. -/
def text : Reader String
  | .text s => .ok s
  | v => .mismatch .notText v

/-- Any value as it is. -/
def any : Reader Value := .ok

/-- Null as absence, and any other value by the given reader. -/
def optional (read : Reader α) : Reader (Option α)
  | .null => .ok none
  | v => (read v).map some

/-- What is wrong with a text that does not read as an integer. -/
def integerMismatch : Literal.IntegerDefect → Mismatch
  | .form => .integerText
  | .size _ => .integerSize

/-- An integer: also a truth value, a number without fraction whose magnitude fits a word, and a
text of no more digits than an integer may have. -/
def integer : Reader Int := fun v =>
  match v with
  | .int n => .ok n
  | .bool b => .ok (if b then 1 else 0)
  | .real x =>
    if !x.isFinite then .mismatch .notFinite v
    else
      match x.toInt? with
      | some n => if fitsWord n && fitsWord (-n) then .ok n else .mismatch .integerSize v
      | none => .mismatch .integerFraction v
  | .text s =>
    match Literal.wholeNumber s with
    | .ok n => .ok n
    | .error d => .mismatch (integerMismatch d) v
  | _ => .mismatch .notInteger v

/-- A number: also a truth value and a text of a number. An integer is read as the nearest number,
if there is a finite one. -/
def real : Reader Binary64 := fun v =>
  match v with
  | .real x => .ok x
  | .int n =>
    let x := Binary64.ofInt n
    if x.isFinite then .ok x else .mismatch .notNumber v
  | .bool b => .ok (Binary64.ofInt (if b then 1 else 0))
  | .text s =>
    match Literal.real? s with
    | some x => .ok x
    | none => .mismatch .numberText v
  | _ => .mismatch .notNumber v

/-- A moment: a date, a text, or a count since 1970. -/
def moment : Reader Moment := fun v =>
  let read : Except Moment.Defect Moment :=
    match v with
    | .date m => .ok m
    | .text s => Moment.ofText s
    | .int n => Moment.ofInt n
    | .real x => Moment.ofReal x
    | _ => .error .kind
  match read with
  | .ok m => .ok m
  | .error d => .mismatch (.moment d) v

/-- A blank text as absence, and any other value by the given reader. -/
def blankAsNone (read : Reader (Option α)) : Reader (Option α)
  | .text s => if isBlankText s then .ok none else read (.text s)
  | v => read v

/-- Every item of a list. -/
def list (read : Reader α) : Reader (List α)
  | .list items => .all (items.mapIdx fun i v => (read v).inside (.index i))
  | v => .mismatch .notList v

/-- A record of a named type. -/
def record (type : String) (read : Fields → Checked α) : Reader α
  | .record fields => read fields
  | v => .mismatch (.notRecord type) v

/-- A record of no particular type. -/
def dictionary : Reader Fields
  | .record fields => .ok fields
  | v => .mismatch .notDictionary v

/-- A field that has to be there. -/
def required (name : String) (read : Reader α) (fields : Fields) : Checked α :=
  match fields.get? name with
  | some v => (read v).inside (.name name)
  | none => .refused [⟨[.name name], .missing, .record fields⟩]

/-- A field with a value for its absence. -/
def withDefault (name : String) (value : α) (read : Reader α) (fields : Fields) : Checked α :=
  match fields.get? name with
  | some v => (read v).inside (.name name)
  | none => .ok value

/-- A field that may be absent or null. -/
def optionalField (name : String) (read : Reader α) (fields : Fields) : Checked (Option α) :=
  withDefault name none (optional read) fields

end Reader

end Automation
