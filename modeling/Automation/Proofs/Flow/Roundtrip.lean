import Automation.Flow.Writing
import Automation.Proofs.Flow.Saved
import Automation.Proofs.Value.Dates

/-!
# Flows written and read back

What is read as a node or an edge has extras that are none of its declared fields, and a delay has
no unit that is blank (`Node.IsOf`, `Edge.IsOf`). Such a part reads back from what is written of it,
whatever becomes of the dates on the way, as long as each date is then read as a date again
(`Node.read_write`, `Edge.read_write`, `Draft.read_write`, `Flow.read_write`).
-/

set_option autoImplicit false

namespace Automation

open Automation.Text Reader

/-! ## Kinds of values -/

/-- A kind of values to which the parts of its values belong. -/
structure Value.Hereditary (kind : Value → Prop) : Prop where
  item : ∀ {items : List Value} {v : Value}, kind (.list items) → v ∈ items → kind v
  field : ∀ {fields : Fields} {field : String × Value}, kind (.record fields) → field ∈ fields →
    kind field.2

/-- Every value is of this kind. -/
theorem Value.hereditary_any : Hereditary fun _ => True := ⟨fun _ _ => trivial, fun _ _ => trivial⟩

theorem Value.hereditary_isJson : Hereditary IsJson where
  item h hv := isJsonItems_iff.1 (by rwa [IsJson] at h) _ hv
  field h hfield := isJsonFields_iff.1 (by rwa [IsJson] at h) _ hfield

/-- Fields of a kind, none of which is declared. -/
structure Fields.AreExtras (kind : Value → Prop) (declared : List String) (fields : Fields) :
    Prop where
  kind : ∀ field ∈ fields, kind field.2
  own : fields.without declared = fields

/-- Moments that values of a kind can be read as. -/
def Moment.IsOf (kind : Value → Prop) (m : Moment) : Prop := ∃ v, kind v ∧ Reader.moment v = .ok m

variable {kind : Value → Prop}

theorem Fields.AreExtras.nil (declared : List String) : Fields.AreExtras kind declared [] :=
  ⟨fun _ hfield => absurd hfield List.not_mem_nil, rfl⟩

theorem Value.Hereditary.areExtras (h : Hereditary kind) {fields : Fields}
    (hfields : kind (.record fields)) (declared : List String) :
    (fields.without declared).AreExtras kind declared where
  kind _ hfield := h.field hfields (List.mem_filter.1 hfield).1
  own := by simp [Fields.without, List.filter_filter]

theorem Value.Hereditary.get? (h : Hereditary kind) {fields : Fields} {name : String} {v : Value}
    (hfields : kind (.record fields)) (hv : fields.get? name = some v) : kind v := by
  obtain ⟨field, hfield, rfl⟩ := Option.map_eq_some_iff.1 hv
  exact h.field hfields (List.mem_of_find?_eq_some hfield)

/-- What becomes of extras are extras. -/
theorem Fields.AreExtras.without {declared : List String} {extras : Fields}
    (h : extras.AreExtras kind declared) (f : Moment → Value) :
    Fields.without declared (Value.mapDatesFields f extras) = Value.mapDatesFields f extras := by
  rw [Value.without_mapDatesFields, h.own]

theorem Fields.without_cons (names : List String) (field : String × Value) (rest : Fields) :
    Fields.without names (field :: rest) =
      if field.1 ∈ names then rest.without names else field :: rest.without names := by
  by_cases h : field.1 ∈ names <;> simp [without, h]

/-! ## Readers -/

theorem Checked.inside_eq_ok {α : Type} {a : Checked α} {part : PathPart} {x : α} :
    a.inside part = .ok x ↔ a = .ok x := by
  cases a <;> simp [Checked.inside]

namespace Reader

variable {α β : Type} {read : Reader α} {fields : Fields} {name : String} {x : α} {v : Value}

theorem record_eq_ok {type : String} {readFields : Fields → Checked α} :
    record type readFields v = .ok x ↔
      ∃ fields, v = .record fields ∧ readFields fields = .ok x := by
  cases v <;> simp [record, Checked.mismatch]

theorem withDefault_eq_ok {value : α} :
    withDefault name value read fields = .ok x ↔
      (fields.get? name = none ∧ value = x) ∨ ∃ v, fields.get? name = some v ∧ read v = .ok x := by
  unfold withDefault
  cases fields.get? name <;> simp [Checked.inside_eq_ok]

theorem required_eq_ok :
    required name read fields = .ok x ↔ ∃ v, fields.get? name = some v ∧ read v = .ok x := by
  unfold required
  cases fields.get? name <;> simp [Checked.inside_eq_ok]

theorem all_eq_ok {part : Nat → PathPart} {items : List Value} {xs : List α} :
    Checked.all (items.mapIdx fun i v => (read v).inside (part i)) = .ok xs ↔
      List.Forall₂ (fun v x => read v = .ok x) items xs := by
  induction items generalizing part xs with
  | nil => cases xs <;> simp [Checked.all]
  | cons v rest ih =>
    have hcons : ∀ (a : Checked α) (as : Checked (List α)),
        (a.map List.cons).seq as = List.cons <$> a <*> as := fun _ _ => rfl
    simp only [List.mapIdx_cons, Checked.all, hcons, Checked.seq_eq_ok, Checked.map_eq_ok,
      Checked.inside_eq_ok, List.forall₂_cons_left_iff]
    -- the parts are shifted by one in the rest of the list, so they are any function here
    have hrest := @ih fun i => part (i + 1)
    constructor
    · rintro ⟨_, ⟨a, ha, rfl⟩, as, has, rfl⟩
      exact ⟨a, as, ha, hrest.1 has, rfl⟩
    · rintro ⟨a, as, ha, has, rfl⟩
      exact ⟨_, ⟨a, ha, rfl⟩, as, hrest.2 has, rfl⟩

/-- A list reads as the values as which its items read. -/
theorem list_eq_ok {xs : List α} :
    list read v = .ok xs ↔
      ∃ items, v = .list items ∧ List.Forall₂ (fun v x => read v = .ok x) items xs := by
  cases v <;> simp [list, Checked.mismatch, all_eq_ok]

theorem list_map {write : β → Value} {back : β → α} {bs : List β}
    (h : ∀ b ∈ bs, read (write b) = .ok (back b)) :
    list read (.list (bs.map write)) = .ok (bs.map back) := by
  refine list_eq_ok.2 ⟨_, rfl, ?_⟩
  rw [List.forall₂_map_left_iff, List.forall₂_map_right_iff]
  exact List.forall₂_same.2 h

/-- What is read of the items of a list has what is read of any value of their kind. -/
theorem list_forall {P : α → Prop} (hkind : Value.Hereditary kind) (hv : kind v) {xs : List α}
    (h : list read v = .ok xs) (hread : ∀ v x, kind v → read v = .ok x → P x) : ∀ x ∈ xs, P x := by
  obtain ⟨items, rfl, hitems⟩ := list_eq_ok.1 h
  intro x hx
  obtain ⟨i, hi, rfl⟩ := List.getElem_of_mem hx
  have hlength := hitems.length_eq
  exact hread _ _ (hkind.item hv (List.getElem_mem (by omega)))
    (hitems.get (by omega) hi)

end Reader

/-- How dates are written, and what is then read: each reads as a date. -/
structure Value.ReadsBack (kind : Value → Prop) (f : Moment → Value) (g : Moment → Moment) :
    Prop where
  optional : ∀ m, Moment.IsOf kind m → Reader.optional moment (f m) = .ok (some (g m))
  unblank : ∀ m, Moment.IsOf kind m →
    Reader.blankAsNone (Reader.optional moment) (f m) = .ok (some (g m))

variable {f : Moment → Value} {g : Moment → Moment}

theorem Value.ReadsBack.ofDate? (h : ReadsBack kind f g) {m : Option Moment}
    (hm : ∀ m' ∈ m, Moment.IsOf kind m') :
    Reader.optional moment ((Value.ofDate? m).mapDates f) = .ok (m.map g) := by
  cases m with
  | none => simp [Value.ofDate?, Reader.optional]
  | some m => simpa [Value.ofDate?, Value.mapDates] using h.optional m (hm m rfl)

/-! ## Rules -/

namespace Rule

/-- The declared fields of a rule. -/
def declared : List String := ["field", "operator", "value", "join"]

/-- A rule whose extras are of a kind. -/
def IsOf (kind : Value → Prop) (r : Rule) : Prop := r.extras.AreExtras kind declared

theorem isOf_read (hkind : Value.Hereditary kind) {v : Value} {r : Rule} (hv : kind v)
    (h : read v = .ok r) : r.IsOf kind := by
  obtain ⟨fields, rfl, hread⟩ := record_eq_ok.1 h
  simp only [Checked.seq_eq_ok, Checked.map_eq_ok] at hread
  obtain ⟨_, ⟨_, ⟨_, ⟨field, -, rfl⟩, operator, -, rfl⟩, value, -, rfl⟩, join, -, rfl⟩ := hread
  exact hkind.areExtras hv declared

theorem read_write {r : Rule} (h : r.IsOf kind) :
    read (r.write.mapDates f) = .ok (r.mapExtras (Value.mapDatesFields f)) := by
  have hextras := h.without f
  rw [declared] at hextras
  simp [read, write, record, withDefault, optionalField, Fields.get?_cons, Fields.without_cons,
    hextras, mapExtras]

end Rule

/-! ## Delays -/

namespace Delay

/-- The declared fields of a delay. -/
def declared : List String := ["delayType", "relativeValue", "relativeUnit", "absoluteDate"]

/-- A delay whose extras are of a kind, with a unit that is not blank and with a target that is read
from a value of that kind. -/
structure IsOf (kind : Value → Prop) (d : Delay) : Prop where
  extras : d.extras.AreExtras kind declared
  unit : ∀ u ∈ d.unit, isBlankText u = false
  target : ∀ m ∈ d.target, Moment.IsOf kind m

/-- The delay with its target replaced. -/
def mapDates (g : Moment → Moment) (d : Delay) : Delay := { d with target := d.target.map g }

theorem blankAsNone_eq_ok {α : Type} {read : Reader α} {v : Value} {x : Option α}
    (h : blankAsNone (Reader.optional read) v = .ok x) :
    ∀ a ∈ x, read v = .ok a ∧ ∀ s, v = .text s → isBlankText s = false := by
  rintro a rfl
  cases v with
  | text s =>
    cases hblank : isBlankText s with
    | true => simp [blankAsNone, hblank] at h
    | false =>
      have hread : (read (.text s)).map some = .ok (some a) := by
        simpa [blankAsNone, hblank, Reader.optional] using h
      refine ⟨?_, fun s' hs' => by cases hs'; exact hblank⟩
      cases hs : read (.text s) <;> simp_all [Checked.map]
  | null => cases h
  | _ =>
    have hread : (read _).map some = .ok (some a) := h
    refine ⟨?_, fun s' hs' => by cases hs'⟩
    cases hs : read _ <;> simp_all [Checked.map]

theorem isOf_read (hkind : Value.Hereditary kind) {v : Value} {d : Delay} (hv : kind v)
    (h : read v = .ok d) : d.IsOf kind := by
  obtain ⟨fields, rfl, hread⟩ := record_eq_ok.1 h
  simp only [readFields, Checked.seq_eq_ok, Checked.map_eq_ok] at hread
  obtain ⟨_, ⟨_, ⟨_, ⟨type, -, rfl⟩, amount, -, rfl⟩, unit, hunit, rfl⟩, target, htarget, rfl⟩ :=
    hread
  refine ⟨hkind.areExtras hv declared, ?_, ?_⟩
  · rintro u rfl
    rcases withDefault_eq_ok.1 hunit with ⟨-, hnone⟩ | ⟨v, -, hv⟩
    · cases hnone
    · obtain ⟨hread, hblank⟩ := blankAsNone_eq_ok hv u rfl
      cases v <;> cases hread
      exact hblank u rfl
  · rintro m rfl
    rcases withDefault_eq_ok.1 htarget with ⟨-, hnone⟩ | ⟨v, hget, hm⟩
    · cases hnone
    · exact ⟨v, hkind.get? hv hget, (blankAsNone_eq_ok hm m rfl).1⟩

theorem read_write (hf : Value.ReadsBack kind f g) {d : Delay} (h : d.IsOf kind) :
    read (d.write.mapDates f) =
      .ok ((d.mapDates g).mapExtras (Value.mapDatesFields f)) := by
  obtain ⟨type, amount, unit, target, extras⟩ := d
  have hextras := h.extras.without f
  rw [declared] at hextras
  have hamount : blankAsNone (Reader.optional integer)
      (((amount.map Value.int).getD .null).mapDates f) = .ok amount := by
    cases amount <;> simp [blankAsNone, Reader.optional, integer, Checked.map]
  have hunit : blankAsNone (Reader.optional text) (.ofText? unit) = .ok unit := by
    cases unit with
    | none => rfl
    | some u => simp [Value.ofText?, blankAsNone, h.unit u rfl, Reader.optional, Checked.map]
  have htarget : blankAsNone (Reader.optional moment) ((Value.ofDate? target).mapDates f) =
      .ok (target.map g) := by
    cases target with
    | none => simp [Value.ofDate?, blankAsNone, Reader.optional]
    | some m => simpa [Value.ofDate?, Value.mapDates] using hf.unblank m (h.target m rfl)
  simp [read, readFields, write, record, withDefault, optionalField, Fields.get?_cons,
    Fields.without_cons, hextras, mapExtras, mapDates, hamount, hunit, htarget]

end Delay

/-! ## Nodes -/

theorem Position.read_write (p : Option Position) :
    Reader.optional read (((p.map write).getD .null).mapDates f) = .ok p := by
  cases p with
  | none => simp [Reader.optional]
  | some p =>
    simp [Reader.optional, read, write, record, withDefault, Fields.get?_cons, real, Checked.map]

namespace Payload

/-- A payload whose extras are of a kind. -/
def IsOf (kind : Value → Prop) : Payload → Prop
  | .start extras => extras.AreExtras kind []
  | .action _ extras => extras.AreExtras kind ["message"]
  | .delay d => d.IsOf kind
  | .condition rules extras => (∀ r ∈ rules, r.IsOf kind) ∧ extras.AreExtras kind ["rules"]
  | .finish extras => extras.AreExtras kind []
  | .foreign _ _ settings => settings.AreExtras kind []

/-- The payload with the target of a delay replaced. -/
def mapDates (g : Moment → Moment) : Payload → Payload
  | .delay d => .delay (d.mapDates g)
  | p => p

@[simp] theorem type_mapDates (p : Payload) : (p.mapDates g).type = p.type := by cases p <;> rfl

@[simp] theorem type_mapExtras (p : Payload) (change : Fields → Fields) :
    (p.mapExtras change).type = p.type := by
  cases p <;> rfl

theorem areExtras_nil {fields : Fields} (hkind : Value.Hereditary kind)
    (hv : kind (.record fields)) : fields.AreExtras kind [] :=
  ⟨fun _ hfield => hkind.field hv hfield, by simp [Fields.without]⟩

/-- A known type is the type of what its form reads and of what stands for absent settings. -/
theorem isOf_form {type : String} {form : SettingsForm} (hform : settingsForm? type = some form)
    (hkind : Value.Hereditary kind) :
    (form.absent.IsOf kind ∧ form.absent.type = type) ∧ ∀ v p, kind v → form.read v = .ok p →
      p.IsOf kind ∧ p.type = type := by
  have hempty : ∀ v fields, kind v → readEmptySettings v = .ok fields →
      fields.AreExtras kind [] := by
    intro v fields hv h
    obtain ⟨_, rfl, hread⟩ := record_eq_ok.1 h
    cases hread
    exact areExtras_nil hkind hv
  -- one case for each type that has a form of its own
  unfold settingsForm? at hform
  split at hform <;> cases hform
  · refine ⟨⟨Fields.AreExtras.nil _, rfl⟩, fun v p hv h => ?_⟩
    obtain ⟨extras, hread, rfl⟩ := Checked.map_eq_ok.1 h
    exact ⟨hempty v extras hv hread, rfl⟩
  · refine ⟨⟨Fields.AreExtras.nil _, rfl⟩, fun v p hv h => ?_⟩
    obtain ⟨fields, rfl, hread⟩ := record_eq_ok.1 h
    obtain ⟨message, -, rfl⟩ := Checked.map_eq_ok.1 hread
    exact ⟨hkind.areExtras hv _, rfl⟩
  · refine ⟨⟨⟨.nil _, nofun, nofun⟩, rfl⟩, fun v p hv h => ?_⟩
    obtain ⟨d, hread, rfl⟩ := Checked.map_eq_ok.1 h
    exact ⟨Delay.isOf_read hkind hv hread, rfl⟩
  · refine ⟨⟨⟨nofun, .nil _⟩, rfl⟩, fun v p hv h => ?_⟩
    obtain ⟨fields, rfl, hread⟩ := record_eq_ok.1 h
    obtain ⟨rules, hrules, rfl⟩ := Checked.map_eq_ok.1 hread
    refine ⟨⟨?_, hkind.areExtras hv _⟩, rfl⟩
    rcases withDefault_eq_ok.1 hrules with ⟨-, rfl⟩ | ⟨v, hget, hlist⟩
    · exact nofun
    · exact list_forall hkind (hkind.get? hv hget) hlist fun _ _ => Rule.isOf_read hkind
  · refine ⟨⟨Fields.AreExtras.nil _, rfl⟩, fun v p hv h => ?_⟩
    obtain ⟨extras, hread, rfl⟩ := Checked.map_eq_ok.1 h
    exact ⟨hempty v extras hv hread, rfl⟩

/-- The settings of a known type read back in the form of that type. -/
theorem read_settings (hf : Value.ReadsBack kind f g) {p : Payload} (h : p.IsOf kind)
    {form : SettingsForm} (hform : settingsForm? p.type = some form) :
    form.read (p.settings.mapDates f) =
      .ok ((p.mapDates g).mapExtras (Value.mapDatesFields f)) := by
  cases p with
  | start extras =>
    cases hform
    simp [settings, readEmptySettings, record, mapDates, mapExtras]
  | action message extras =>
    cases hform
    have hextras := h.without f
    simp [settings, readActionSettings, record, mapDates, mapExtras, optionalField, withDefault,
      Fields.get?_cons, Fields.without_cons, hextras]
  | delay d =>
    cases hform
    have hread := Delay.read_write hf h
    simp [settings, mapDates, mapExtras, hread]
  | condition rules extras =>
    cases hform
    obtain ⟨hrules, hextras⟩ := h
    have hlist : list Rule.read (.list (rules.map fun r => r.write.mapDates f)) =
        .ok (rules.map (Rule.mapExtras (Value.mapDatesFields f))) :=
      list_map fun r hr => Rule.read_write (hrules r hr)
    have hextras := hextras.without f
    simp [settings, readConditionSettings, record, mapDates, mapExtras, withDefault,
      Fields.get?_cons, Fields.without_cons, hextras, Function.comp_def, hlist]
  | finish extras =>
    cases hform
    simp [settings, readEmptySettings, record, mapDates, mapExtras]
  | foreign type hforeign settings =>
    rw [Payload.type, settingsForm?_eq_none hforeign] at hform
    cases hform

end Payload

namespace Node

/-- A node whose extras are of a kind. -/
structure IsOf (kind : Value → Prop) (n : Node) : Prop where
  extras : n.extras.AreExtras kind ownFields
  payload : n.payload.IsOf kind

/-- The node with the target of a delay replaced. -/
def mapDates (g : Moment → Moment) (n : Node) : Node :=
  { n with payload := n.payload.mapDates g }

theorem isOf_read (hkind : Value.Hereditary kind) {v : Value} {n : Node} (hv : kind v)
    (h : read v = .ok n) : n.IsOf kind := by
  unfold read at h
  split at h
  · rename_i fields
    split at h
    · rename_i type form hform
      obtain ⟨given, -, hgiven⟩ := Option.bind_eq_some_iff.1 hform
      obtain ⟨form', hform', heq⟩ := Option.map_eq_some_iff.1 hgiven
      cases heq
      have hread := Checked.inside_eq_ok.1 h
      simp only [readKnown, Checked.seq_eq_ok, Checked.map_eq_ok] at hread
      obtain ⟨_, ⟨_, ⟨id, -, rfl⟩, position, -, rfl⟩, payload, hpayload, rfl⟩ := hread
      obtain ⟨habsent, hpresent⟩ := Payload.isOf_form hform' hkind
      refine ⟨hkind.areExtras hv _, ?_⟩
      rcases withDefault_eq_ok.1 hpayload with ⟨-, rfl⟩ | ⟨v, hget, hp⟩
      · exact habsent.1
      · exact (hpresent v payload (hkind.get? hv hget) hp).1
    · have hread := Checked.inside_eq_ok.1 h
      simp only [readForeign, Checked.seq_eq_ok, Checked.map_eq_ok] at hread
      obtain ⟨_, ⟨_, ⟨_, ⟨id, -, rfl⟩, type, -, rfl⟩, position, -, rfl⟩, settings, hsettings,
        rfl⟩ := hread
      have hextras : settings.AreExtras kind [] := by
        rcases withDefault_eq_ok.1 hsettings with ⟨-, rfl⟩ | ⟨v, hget, hp⟩
        · exact .nil _
        · have hv := hkind.get? hv hget
          cases v <;> cases hp
          exact Payload.areExtras_nil hkind hv
      refine ⟨hkind.areExtras hv _, ?_⟩
      show (foreignPayload type settings).IsOf kind
      unfold foreignPayload
      split <;> exact hextras
  · cases Checked.inside_eq_ok.1 h

/-- A node reads back from what is written of it. -/
theorem read_write (hf : Value.ReadsBack kind f g) {n : Node} (h : n.IsOf kind) :
    read (n.write.mapDates f) =
      .ok ((n.mapDates g).mapExtras (Value.mapDatesFields f)) := by
  obtain ⟨id, position, payload, extras⟩ := n
  have hposition := Position.read_write (f := f) position
  have hextras := h.extras.without f
  rw [ownFields] at hextras
  -- a known type has its form, and any other is read as it came
  cases hform : settingsForm? payload.type with
  | some form =>
    have hsettings := Payload.read_settings hf h.payload hform
    simp [read, write, type, givenType?, Fields.get?_cons, hform, readKnown, required,
      optionalField, withDefault, hposition, hsettings, ownFields, Fields.without_cons, hextras,
      mapDates, mapExtras]
  | none =>
    cases payload with
    | foreign name hforeign settings =>
      have hpayload : foreignPayload name (Value.mapDatesFields f settings) =
          .foreign name hforeign (Value.mapDatesFields f settings) := dif_neg hforeign
      simp [read, write, type, Payload.type, Payload.settings, givenType?, Fields.get?_cons,
        settingsForm?_eq_none hforeign, readForeign, required, optionalField, withDefault,
        dictionary, hposition, hpayload, ownFields, Fields.without_cons, hextras, mapDates,
        mapExtras, Payload.mapDates, Payload.mapExtras]
    | _ => cases hform

end Node

/-! ## Edges -/

namespace Edge

/-- The declared fields of an edge. -/
def declared : List String := ["id", "source", "target", "label", "sourceHandle", "targetHandle"]

/-- An edge whose extras are of a kind. -/
def IsOf (kind : Value → Prop) (e : Edge) : Prop := e.extras.AreExtras kind declared

theorem isOf_read (hkind : Value.Hereditary kind) {v : Value} {e : Edge} (hv : kind v)
    (h : read v = .ok e) : e.IsOf kind := by
  obtain ⟨fields, rfl, hread⟩ := record_eq_ok.1 h
  simp only [Checked.seq_eq_ok, Checked.map_eq_ok] at hread
  obtain ⟨_, ⟨_, ⟨_, ⟨_, ⟨_, ⟨id, -, rfl⟩, source, -, rfl⟩, target, -, rfl⟩, label, -, rfl⟩,
    sourceHandle, -, rfl⟩, targetHandle, -, rfl⟩ := hread
  exact hkind.areExtras hv declared

/-- An edge reads back from what is written of it. -/
theorem read_write {e : Edge} (h : e.IsOf kind) :
    read (e.write.mapDates f) = .ok (e.mapExtras (Value.mapDatesFields f)) := by
  have hextras := h.without f
  rw [declared] at hextras
  simp [read, write, record, required, withDefault, optionalField, Fields.get?_cons,
    Fields.without_cons, hextras, mapExtras]

end Edge

/-! ## Lists of nodes and of edges -/

theorem list_read_writeNodes (hf : Value.ReadsBack kind f g) {nodes : List Node}
    (h : ∀ n ∈ nodes, n.IsOf kind) :
    list Node.read ((writeNodes nodes).mapDates f) =
      .ok (nodes.map fun n => (n.mapDates g).mapExtras (Value.mapDatesFields f)) := by
  rw [writeNodes, Value.mapDates_list, List.map_map]
  exact list_map fun n hn => Node.read_write hf (h n hn)

theorem list_read_writeEdges {edges : List Edge} (h : ∀ e ∈ edges, e.IsOf kind) :
    list Edge.read ((writeEdges edges).mapDates f) =
      .ok (edges.map (Edge.mapExtras (Value.mapDatesFields f))) := by
  rw [writeEdges, Value.mapDates_list, List.map_map]
  exact list_map fun e he => Edge.read_write (h e he)

/-! ## Drafts and flows -/

namespace Draft

/-- A draft whose nodes and edges are of a kind. -/
structure IsOf (kind : Value → Prop) (d : Draft) : Prop where
  nodes : ∀ n ∈ d.nodes, n.IsOf kind
  edges : ∀ e ∈ d.edges, e.IsOf kind

/-- The draft with the targets of delays replaced. -/
def mapDates (g : Moment → Moment) (d : Draft) : Draft :=
  { d with nodes := d.nodes.map (Node.mapDates g) }

theorem isOf_read (hkind : Value.Hereditary kind) {v : Value} {d : Draft} (hv : kind v)
    (h : read v = .ok d) : d.IsOf kind := by
  obtain ⟨fields, rfl, hread⟩ := record_eq_ok.1 h
  simp only [Checked.seq_eq_ok, Checked.map_eq_ok] at hread
  obtain ⟨_, ⟨_, ⟨name, -, rfl⟩, nodes, hnodes, rfl⟩, edges, hedges, rfl⟩ := hread
  constructor
  · rcases withDefault_eq_ok.1 hnodes with ⟨-, rfl⟩ | ⟨v, hget, hlist⟩
    · intro n hn
      cases hn
    · exact list_forall hkind (hkind.get? hv hget) hlist fun _ _ => Node.isOf_read hkind
  · rcases withDefault_eq_ok.1 hedges with ⟨-, rfl⟩ | ⟨v, hget, hlist⟩
    · intro e he
      cases he
    · exact list_forall hkind (hkind.get? hv hget) hlist fun _ _ => Edge.isOf_read hkind

/-- A draft reads back from what is written of it. -/
theorem read_write (hf : Value.ReadsBack kind f g) {d : Draft} (h : d.IsOf kind) :
    read (d.write.mapDates f) =
      .ok ((d.mapDates g).mapExtras (Value.mapDatesFields f)) := by
  simp [read, write, record, withDefault, optionalField, Fields.get?_cons,
    list_read_writeNodes hf h.nodes, list_read_writeEdges h.edges, mapDates, mapExtras]

end Draft

namespace Flow

/-- A flow whose nodes, edges and dates are of a kind. -/
structure IsOf (kind : Value → Prop) (flow : Flow) : Prop where
  nodes : ∀ n ∈ flow.nodes, n.IsOf kind
  edges : ∀ e ∈ flow.edges, e.IsOf kind
  created : ∀ m ∈ flow.createdAt, Moment.IsOf kind m
  updated : ∀ m ∈ flow.updatedAt, Moment.IsOf kind m

/-- The flow with its dates and the targets of its delays replaced. -/
def mapDates (g : Moment → Moment) (flow : Flow) : Flow :=
  { flow with
    nodes := flow.nodes.map (Node.mapDates g)
    createdAt := flow.createdAt.map g
    updatedAt := flow.updatedAt.map g }

/-- A flow reads back from what is written of it. -/
theorem read_write (hf : Value.ReadsBack kind f g) {flow : Flow} (h : flow.IsOf kind)
    (now : Moment) : read now (flow.write.mapDates f) =
      .ok ((flow.mapDates g).mapExtras (Value.mapDatesFields f)) := by
  simp [read, readFields, write, document, record, required, withDefault, optionalField,
    Fields.get?_cons, list_read_writeNodes hf h.nodes, list_read_writeEdges h.edges,
    hf.ofDate? h.created, hf.ofDate? h.updated, mapDates, mapExtras]

end Flow

end Automation
