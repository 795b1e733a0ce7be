import Automation.Proofs.Flow.Dump

/-!
# Flows as documents keep them

A document keeps the nodes of a flow with the targets of their delays in UTC and cut to the
millisecond, and nothing else of what was read of JSON changes (`writeNodes_kept`,
`writeEdges_kept`). Such nodes are settled: they can be written in a reply and read back, and a
document keeps them as they are (`Node.IsSettled`).
-/

set_option autoImplicit false

namespace Automation

open Value

/-! ## Values that a document can keep -/

namespace Value

/-- A document can keep the value. -/
def IsStorable (v : Value) : Prop := ∃ v', v.stored? = .ok v'

theorem storedItems?_ok {items kept : List Value} (h : storedItems? items = .ok kept) :
    ∀ v ∈ items, v.IsStorable := by
  induction items generalizing kept with
  | nil => exact nofun
  | cons v rest ih =>
    rw [storedItems?] at h
    cases hv : v.stored? with
    | error e =>
      rw [hv] at h
      cases h
    | ok v' =>
      cases hrest : storedItems? rest with
      | error e =>
        rw [hv, hrest] at h
        cases h
      | ok rest' => exact List.forall_mem_cons.2 ⟨⟨v', hv⟩, ih hrest⟩

theorem storedFields?_ok {fields kept : Fields} (h : storedFields? fields = .ok kept) :
    ∀ field ∈ fields, field.2.IsStorable := by
  induction fields generalizing kept with
  | nil => exact nofun
  | cons field rest ih =>
    rw [storedFields?] at h
    split at h
    · cases h
    cases hv : field.2.stored? with
    | error e =>
      rw [hv] at h
      cases h
    | ok v' =>
      cases hrest : storedFields? rest with
      | error e =>
        rw [hv, hrest] at h
        cases h
      | ok rest' => exact List.forall_mem_cons.2 ⟨⟨v', hv⟩, ih hrest⟩

/-- The parts of a value that a document can keep can be kept. -/
theorem hereditary_isStorable : Hereditary IsStorable where
  item := by
    rintro items v ⟨v', hv'⟩ hv
    rw [stored?] at hv'
    cases hitems : storedItems? items with
    | error e =>
      rw [hitems] at hv'
      cases hv'
    | ok kept => exact storedItems?_ok hitems v hv
  field := by
    rintro fields field ⟨v', hv'⟩ hfield
    rw [stored?] at hv'
    cases hfields : storedFields? fields with
    | error e =>
      rw [hfields] at hv'
      cases hv'
    | ok kept => exact storedFields?_ok hfields field hfield

end Value

/-! ## Kept moments -/

namespace Moment

theorem kept_kept (m : Moment) : m.kept.kept = m.kept := by
  simp only [kept, instant, ofInstant, cutToMillisecond, Option.getD_some, Int.zero_mul,
    Int.sub_zero]
  congr 1
  omega

/-- A date that a document keeps lies in the calendar. -/
theorem isProper_kept {m : Moment} (h : (Value.date m).IsStorable) : m.kept.IsProper := by
  have hearliest : earliest = -62135596800000000 := by decide
  have hhorizon : horizon = 253402300800000000 := by decide
  obtain ⟨v', hv'⟩ := h
  have hsome := m.isSome_stored?
  have hrange : inRange m.instant = true := by
    rw [Value.stored?] at hv'
    cases hm : m.stored? with
    | none =>
      rw [hm] at hv'
      cases hv'
    | some m' => rw [← hsome, hm]; rfl
  rw [inRange, Bool.and_eq_true, decide_eq_true_eq, decide_eq_true_eq, hearliest, hhorizon]
    at hrange
  -- to cut a moment to the millisecond takes it no earlier than the first, which is a whole one
  refine ⟨?_, ?_⟩
  · rw [inRange, Bool.and_eq_true, decide_eq_true_eq, decide_eq_true_eq, hearliest, hhorizon]
    simp only [kept, ofInstant, cutToMillisecond]
    omega
  · rintro o ⟨⟩
    decide

end Moment

/-! ## What is written with its dates replaced -/

section

variable {g : Moment → Moment}

theorem Rule.write_mapDates (r : Rule) : r.write.mapDates (fun m => .date (g m)) =
    (r.mapExtras (mapDatesFields fun m => .date (g m))).write := by
  simp [write, mapExtras]

theorem Delay.write_mapDates (d : Delay) : d.write.mapDates (fun m => .date (g m)) =
    ((d.mapDates g).mapExtras (mapDatesFields fun m => .date (g m))).write := by
  obtain ⟨kind, amount, unit, target, extras⟩ := d
  cases amount <;> cases target <;>
    simp [write, mapDates, mapExtras, ofDate?, Value.mapDates]

theorem Payload.settings_mapDates (p : Payload) : p.settings.mapDates (fun m => .date (g m)) =
    ((p.mapDates g).mapExtras (mapDatesFields fun m => .date (g m))).settings := by
  cases p with
  | delay d => exact d.write_mapDates
  | condition rules extras =>
    simp [settings, mapDates, mapExtras, Rule.write_mapDates, Function.comp_def]
  | _ => simp [settings, mapDates, mapExtras]

theorem Node.write_mapDates (n : Node) : n.write.mapDates (fun m => .date (g m)) =
    ((n.mapDates g).mapExtras (mapDatesFields fun m => .date (g m))).write := by
  obtain ⟨id, position, payload, extras⟩ := n
  cases position <;>
    simp [write, mapDates, mapExtras, type, Payload.settings_mapDates, Position.write]

theorem Edge.write_mapDates (e : Edge) : e.write.mapDates (fun m => .date (g m)) =
    (e.mapExtras (mapDatesFields fun m => .date (g m))).write := by
  simp [write, mapExtras]

end

theorem Node.mapExtras_mapDatesFields (f : Moment → Value) {n : Node}
    (h : ∀ field ∈ n.free, field.2.IsJson) : n.mapExtras (mapDatesFields f) = n := by
  rw [funext (mapDatesFields_eq_map (f := f))]
  exact mapExtras_eq_self fun field hfield => mapDates_field f (h field hfield)

theorem Edge.mapExtras_mapDatesFields (f : Moment → Value) {e : Edge}
    (h : ∀ field ∈ e.extras, field.2.IsJson) : e.mapExtras (mapDatesFields f) = e := by
  rw [funext (mapDatesFields_eq_map (f := f))]
  exact mapExtras_eq_self fun field hfield => mapDates_field f (h field hfield)

/-! ## Settled nodes -/

/-- A node that was read of JSON, and that a document keeps as it is. -/
structure Node.IsSettled (n : Node) : Prop where
  json : n.IsOf IsJson
  kept : n.mapDates Moment.kept = n

theorem Node.mapDates_mapDates (g g' : Moment → Moment) (n : Node) :
    (n.mapDates g).mapDates g' = n.mapDates fun m => g' (g m) := by
  obtain ⟨id, position, payload, extras⟩ := n
  cases payload <;> simp [mapDates, Payload.mapDates, Delay.mapDates, Function.comp_def]

/-- What a document keeps of a node that was read of JSON is settled. -/
theorem Node.IsOf.settled {n : Node} (h : n.IsOf IsJson) (hstorable : n.write.IsStorable) :
    (n.mapDates Moment.kept).IsSettled where
  json := by
    refine ⟨h.extras, ?_⟩
    obtain ⟨id, position, payload, extras⟩ := n
    cases payload with
    | delay d =>
      refine ⟨h.payload.extras, h.payload.unit, ?_⟩
      intro m hm
      obtain ⟨m', htarget, rfl⟩ := Option.map_eq_some_iff.1 hm
      -- the settings are the fourth field of a node, and the target is the fourth of the settings
      have hfourth : ∀ (a b c d : String × Value) (rest : Fields), d ∈ [a, b, c, d] ++ rest := by
        simp
      have hdelay : d.write.IsStorable := hereditary_isStorable.field hstorable (hfourth ..)
      have hdate : (Value.ofDate? d.target).IsStorable :=
        hereditary_isStorable.field hdelay (hfourth ..)
      rw [htarget] at hdate
      exact (Moment.isProper_kept hdate).isOf
    | _ => exact h.payload
  kept := by
    rw [mapDates_mapDates]
    simp only [Moment.kept_kept]

/-- A document keeps nodes that were read of JSON with the targets of their delays cut. -/
theorem writeNodes_kept {nodes : List Node} (h : ∀ n ∈ nodes, n.IsOf IsJson) :
    (writeNodes nodes).kept = writeNodes (nodes.map (Node.mapDates Moment.kept)) := by
  rw [kept_eq_mapDates, writeNodes, writeNodes, mapDates_list, List.map_map, List.map_map]
  -- extras that came as JSON have no date that could be cut
  refine congrArg Value.list (List.map_congr_left fun n hn => ?_)
  rw [Function.comp_apply, Node.write_mapDates, Node.mapExtras_mapDatesFields]
  · rfl
  · rw [Node.free_mapDates]
    exact (h n hn).free

/-- A document keeps edges that were read of JSON as they are. -/
theorem writeEdges_kept {edges : List Edge} (h : ∀ e ∈ edges, e.IsOf IsJson) :
    (writeEdges edges).kept = writeEdges edges := by
  rw [kept_eq_mapDates, writeEdges, mapDates_list, List.map_map]
  refine congrArg Value.list (List.map_congr_left fun e he => ?_)
  rw [Function.comp_apply, Edge.write_mapDates, Edge.mapExtras_mapDatesFields _ (h e he).kind]

end Automation
