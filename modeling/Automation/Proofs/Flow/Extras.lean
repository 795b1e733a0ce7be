import Automation.Proofs.Flow.Roundtrip

/-!
# Extras that stay

A change of the extras of a flow leaves the flow as it is if it leaves each extra field as it is
(`Flow.mapExtras_eq_self`). Extras that came as JSON have no dates, so replacing dates is such a
change (`Flow.mapExtras_mapDatesFields`).
-/

set_option autoImplicit false

namespace Automation

variable {change : String × Value → String × Value} {kind : Value → Prop}

/-! ## Changes that change nothing -/

/-- A list of which every item stays is left as it is. -/
theorem List.map_eq_self {α : Type} {f : α → α} {as : List α} (h : ∀ a ∈ as, f a = a) :
    as.map f = as :=
  (List.map_congr_left h).trans (List.map_id as)

theorem Rule.mapExtras_eq_self {r : Rule} (h : ∀ field ∈ r.extras, change field = field) :
    r.mapExtras (List.map change) = r := by
  rw [mapExtras, List.map_eq_self h]

theorem Payload.mapExtras_eq_self {p : Payload} (h : ∀ field ∈ p.free, change field = field) :
    p.mapExtras (List.map change) = p := by
  cases p with
  | start extras => exact congrArg start (List.map_eq_self h)
  | action message extras => exact congrArg (action message) (List.map_eq_self h)
  | delay d =>
    have hextras : d.extras.map change = d.extras := List.map_eq_self h
    rw [mapExtras, Delay.mapExtras, hextras]
  | condition rules extras =>
    have hrules : rules.map (Rule.mapExtras (List.map change)) = rules :=
      List.map_eq_self fun r hr => Rule.mapExtras_eq_self fun field hfield =>
        h field (List.mem_append_left _ (List.mem_flatMap.2 ⟨r, hr, hfield⟩))
    have hextras := List.map_eq_self fun field hfield => h field (List.mem_append_right _ hfield)
    rw [mapExtras, hrules, hextras]
  | finish extras => exact congrArg finish (List.map_eq_self h)
  | foreign type hforeign settings =>
    exact congrArg (foreign type hforeign) (List.map_eq_self h)

theorem Node.mapExtras_eq_self {n : Node} (h : ∀ field ∈ n.free, change field = field) :
    n.mapExtras (List.map change) = n := by
  have hpayload := Payload.mapExtras_eq_self fun field hfield =>
    h field (List.mem_append_left _ hfield)
  have hextras := List.map_eq_self fun field hfield => h field (List.mem_append_right _ hfield)
  rw [mapExtras, hpayload, hextras]

theorem Edge.mapExtras_eq_self {e : Edge} (h : ∀ field ∈ e.extras, change field = field) :
    e.mapExtras (List.map change) = e := by
  rw [mapExtras, List.map_eq_self h]

theorem Draft.mapExtras_eq_self {d : Draft}
    (hnodes : ∀ n ∈ d.nodes, ∀ field ∈ n.free, change field = field)
    (hedges : ∀ e ∈ d.edges, ∀ field ∈ e.extras, change field = field) :
    d.mapExtras (List.map change) = d := by
  rw [mapExtras, List.map_eq_self fun n hn => Node.mapExtras_eq_self (hnodes n hn),
    List.map_eq_self fun e he => Edge.mapExtras_eq_self (hedges e he)]

theorem Flow.mapExtras_eq_self {flow : Flow}
    (hnodes : ∀ n ∈ flow.nodes, ∀ field ∈ n.free, change field = field)
    (hedges : ∀ e ∈ flow.edges, ∀ field ∈ e.extras, change field = field) :
    flow.mapExtras (List.map change) = flow := by
  rw [mapExtras, List.map_eq_self fun n hn => Node.mapExtras_eq_self (hnodes n hn),
    List.map_eq_self fun e he => Edge.mapExtras_eq_self (hedges e he)]

/-! ## Extras of a kind -/

theorem Payload.IsOf.free {p : Payload} (h : p.IsOf kind) : ∀ field ∈ p.free, kind field.2 := by
  intro field hfield
  cases p with
  | delay d => exact h.extras.kind field hfield
  | condition rules extras =>
    rcases List.mem_append.1 hfield with hfield | hfield
    · obtain ⟨r, hr, hfield⟩ := List.mem_flatMap.1 hfield
      exact (h.1 r hr).kind field hfield
    · exact h.2.kind field hfield
  | _ => exact h.kind field hfield

/-- The extras of a node of a kind are of that kind. -/
theorem Node.IsOf.free {n : Node} (h : n.IsOf kind) : ∀ field ∈ n.free, kind field.2 := by
  intro field hfield
  rcases List.mem_append.1 hfield with hfield | hfield
  · exact h.payload.free field hfield
  · exact h.extras.kind field hfield

/-! ## Dates -/

variable (f : Moment → Value)

/-- JSON has no dates to be replaced. -/
theorem Value.mapDates_field {field : String × Value} (h : field.2.IsJson) :
    (field.1, field.2.mapDates f) = field := by
  rw [h.mapDates]

theorem Draft.mapExtras_mapDatesFields {d : Draft}
    (hnodes : ∀ n ∈ d.nodes, ∀ field ∈ n.free, field.2.IsJson)
    (hedges : ∀ e ∈ d.edges, ∀ field ∈ e.extras, field.2.IsJson) :
    d.mapExtras (Value.mapDatesFields f) = d := by
  rw [funext (Value.mapDatesFields_eq_map (f := f))]
  exact mapExtras_eq_self
    (fun n hn field hfield => Value.mapDates_field f (hnodes n hn field hfield))
    fun e he field hfield => Value.mapDates_field f (hedges e he field hfield)

theorem Flow.mapExtras_mapDatesFields {flow : Flow}
    (hnodes : ∀ n ∈ flow.nodes, ∀ field ∈ n.free, field.2.IsJson)
    (hedges : ∀ e ∈ flow.edges, ∀ field ∈ e.extras, field.2.IsJson) :
    flow.mapExtras (Value.mapDatesFields f) = flow := by
  rw [funext (Value.mapDatesFields_eq_map (f := f))]
  exact mapExtras_eq_self
    (fun n hn field hfield => Value.mapDates_field f (hnodes n hn field hfield))
    fun e he field hfield => Value.mapDates_field f (hedges e he field hfield)

@[simp] theorem Node.free_mapDates (g : Moment → Moment) (n : Node) :
    (n.mapDates g).free = n.free := by
  obtain ⟨id, position, payload, extras⟩ := n
  cases payload <;> rfl

/-! ## What is written with its dates -/

/-- Dates that are written as dates are read as they are. -/
theorem Value.readsBack_date (kind : Value → Prop) : ReadsBack kind .date fun m => m :=
  ⟨fun _ _ => rfl, fun _ _ => rfl⟩

theorem Value.mapDates_date_field (field : String × Value) :
    (field.1, field.2.mapDates .date) = field := by
  rw [mapDates_date]

theorem Node.mapDates_self (n : Node) : n.mapDates (fun m => m) = n := by
  obtain ⟨id, position, payload, extras⟩ := n
  cases payload <;> simp [mapDates, Payload.mapDates, Delay.mapDates]

theorem Draft.mapDates_self (d : Draft) : d.mapDates (fun m => m) = d := by
  rw [mapDates, List.map_eq_self fun n _ => n.mapDates_self]

theorem Flow.mapDates_self (flow : Flow) : flow.mapDates (fun m => m) = flow := by
  rw [mapDates, List.map_eq_self fun n _ => n.mapDates_self, Option.map_id', Option.map_id']

/-- A draft reads back from what is written of it. -/
theorem Draft.read_write_self {d : Draft} (h : d.IsOf kind) : read d.write = .ok d := by
  have hread := read_write (Value.readsBack_date kind) h
  rw [Value.mapDates_date, mapDates_self, funext Value.mapDatesFields_eq_map,
    mapExtras_eq_self (fun _ _ field _ => Value.mapDates_date_field field)
      fun _ _ field _ => Value.mapDates_date_field field] at hread
  exact hread

/-- A flow reads back from what is written of it. -/
theorem Flow.read_write_self {flow : Flow} (h : flow.IsOf kind) (now : Moment) :
    read now flow.write = .ok flow := by
  have hread := read_write (Value.readsBack_date kind) h now
  rw [Value.mapDates_date, mapDates_self, funext Value.mapDatesFields_eq_map,
    mapExtras_eq_self (fun _ _ field _ => Value.mapDates_date_field field)
      fun _ _ field _ => Value.mapDates_date_field field] at hread
  exact hread

end Automation
