import Automation.Proofs.Flow.Extras
import Automation.Proofs.Value.Finite

/-!
# Flows that a reply can carry

What is written of a flow has a number that is not finite only in a position or in an extra, and of
the extras a reply leaves none. So a reply can carry a flow exactly if its positions are finite and
no extra is nested too deeply (`Flow.isCarried_iff`), and a flow without such numbers comes with all
of its extras (`Flow.mapExtras_finiteFields`).
-/

set_option autoImplicit false

namespace Automation

open Json Value

/-- A position with finite coordinates. -/
def Position.IsFinite (p : Position) : Prop := p.x.isFinite = true ∧ p.y.isFinite = true

@[simp] theorem Position.isFinite_write (p : Position) : isFinite p.write = true ↔ p.IsFinite := by
  simp [write, isFinite, fieldsFinite, IsFinite]

@[simp] theorem isFinite_ofText? (s : Option String) : isFinite (ofText? s) = true := by
  cases s <;> rfl

@[simp] theorem isFinite_ofDate? (m : Option Moment) : isFinite (ofDate? m) = true := by
  cases m <;> rfl

/-! ## What is written -/

theorem Rule.isFinite_write (r : Rule) :
    isFinite r.write = true ↔ ∀ field ∈ r.extras, isFinite field.2 = true := by
  simp [write, isFinite, fieldsFinite, fieldsFinite_iff]

theorem Delay.isFinite_write (d : Delay) :
    isFinite d.write = true ↔ ∀ field ∈ d.extras, isFinite field.2 = true := by
  cases hamount : d.amount <;> simp [write, isFinite, fieldsFinite, fieldsFinite_iff, hamount]

theorem Edge.isFinite_write (e : Edge) :
    isFinite e.write = true ↔ ∀ field ∈ e.extras, isFinite field.2 = true := by
  simp [write, isFinite, fieldsFinite, fieldsFinite_iff]

theorem Payload.isFinite_settings (p : Payload) :
    isFinite p.settings = true ↔ ∀ field ∈ p.free, isFinite field.2 = true := by
  cases p with
  | delay d => exact d.isFinite_write
  | condition rules extras =>
    have hrules : (∀ r ∈ rules, ∀ field ∈ r.extras, isFinite field.2 = true) ↔
        ∀ field ∈ rules.flatMap Rule.extras, isFinite field.2 = true :=
      ⟨fun h field hfield => by
        obtain ⟨r, hr, hfield⟩ := List.mem_flatMap.1 hfield
        exact h r hr field hfield,
        fun h r hr field hfield => h field (List.mem_flatMap.2 ⟨r, hr, hfield⟩)⟩
    simp only [settings, free, isFinite, fieldsFinite, fieldsFinite_iff, allFinite_iff,
      List.forall_mem_map, Rule.isFinite_write, hrules, Bool.and_eq_true, List.mem_append, or_imp,
      forall_and]
  | _ => simp [settings, free, isFinite, fieldsFinite, fieldsFinite_iff]

/-- What is written of a node is finite if its position and its extras are. -/
theorem Node.isFinite_write (n : Node) : isFinite n.write = true ↔
    (∀ p ∈ n.position, p.IsFinite) ∧ ∀ field ∈ n.free, isFinite field.2 = true := by
  cases hposition : n.position <;> simp [write, free, isFinite, fieldsFinite, fieldsFinite_iff,
    Payload.isFinite_settings, or_imp, forall_and, hposition]

theorem isFinite_writeNodes (nodes : List Node) :
    isFinite (writeNodes nodes) = true ↔ ∀ n ∈ nodes, isFinite n.write = true := by
  simp [writeNodes, isFinite, allFinite_iff]

theorem isFinite_writeEdges (edges : List Edge) :
    isFinite (writeEdges edges) = true ↔ ∀ e ∈ edges, isFinite e.write = true := by
  simp [writeEdges, isFinite, allFinite_iff]

theorem Flow.isFinite_write (flow : Flow) : isFinite flow.write = true ↔
    (∀ n ∈ flow.nodes, isFinite n.write = true) ∧ ∀ e ∈ flow.edges, isFinite e.write = true := by
  simp [write, document, isFinite, fieldsFinite, isFinite_writeNodes, isFinite_writeEdges]

theorem Draft.isFinite_write (d : Draft) : isFinite d.write = true ↔
    (∀ n ∈ d.nodes, isFinite n.write = true) ∧ ∀ e ∈ d.edges, isFinite e.write = true := by
  simp [write, isFinite, fieldsFinite, isFinite_writeNodes, isFinite_writeEdges]

/-! ## Extras in replies -/

theorem finite_field {field : String × Value} (h : isFinite field.2 = true) :
    (field.1, field.2.finite) = field := by
  rw [finite_eq_self h]

/-- A draft whose numbers are all finite comes with all of its extras. -/
theorem Draft.mapExtras_finiteFields {d : Draft} (h : isFinite d.write = true) :
    d.mapExtras finiteFields = d := by
  obtain ⟨hnodes, hedges⟩ := d.isFinite_write.1 h
  rw [funext finiteFields_eq_map]
  exact mapExtras_eq_self
    (fun n hn field hfield => finite_field ((n.isFinite_write.1 (hnodes n hn)).2 field hfield))
    fun e he field hfield => finite_field (e.isFinite_write.1 (hedges e he) field hfield)

/-- A flow whose numbers are all finite comes with all of its extras. -/
theorem Flow.mapExtras_finiteFields {flow : Flow} (h : isFinite flow.write = true) :
    flow.mapExtras finiteFields = flow := by
  obtain ⟨hnodes, hedges⟩ := flow.isFinite_write.1 h
  rw [funext finiteFields_eq_map]
  exact mapExtras_eq_self
    (fun n hn field hfield => finite_field ((n.isFinite_write.1 (hnodes n hn)).2 field hfield))
    fun e he field hfield => finite_field (e.isFinite_write.1 (hedges e he) field hfield)

/-! ## Flows in replies -/

theorem Payload.free_mapExtras (change : String × Value → String × Value) (p : Payload) :
    (p.mapExtras (List.map change)).free = p.free.map change := by
  cases p with
  | condition rules extras =>
    simp [mapExtras, free, List.map_flatMap, List.flatMap_map, Rule.mapExtras]
  | _ => rfl

/-- The extras of a node are what they were changed to. -/
theorem Node.free_mapExtras (change : String × Value → String × Value) (n : Node) :
    (n.mapExtras (List.map change)).free = n.free.map change := by
  simp [mapExtras, free, Payload.free_mapExtras]

/-- A flow that a reply can carry: all of it can be written, and all its numbers are finite. -/
def Flow.IsCarried (flow : Flow) : Prop :=
  ∃ body, flow.reply = .ok body ∧ isFinite body = true

/-- A reply can carry a flow exactly if no extra is nested too deeply and every position is
finite. -/
theorem Flow.isCarried_iff (flow : Flow) : flow.IsCarried ↔
    firstDefect? flow.nodes flow.edges = none ∧
      ∀ n ∈ flow.nodes, ∀ p ∈ n.position, p.IsFinite := by
  have hfinite : isFinite (flow.mapExtras finiteFields).write = true ↔
      ∀ n ∈ flow.nodes, ∀ p ∈ n.position, p.IsFinite := by
    rw [isFinite_write, funext finiteFields_eq_map]
    have hposition : ∀ (n : Node) (f : Fields → Fields), (n.mapExtras f).position = n.position :=
      fun _ _ => rfl
    simp [mapExtras, Node.isFinite_write, Node.free_mapExtras, Edge.isFinite_write,
      Edge.mapExtras, isFinite_finite, hposition]
  unfold IsCarried reply carried
  cases firstDefect? flow.nodes flow.edges <;> simp [hfinite]

end Automation
