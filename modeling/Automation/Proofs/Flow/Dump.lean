import Automation.Proofs.Flow.Carried
import Automation.Proofs.Time.Given
import Automation.Proofs.Value.Depth

/-!
# Flows in replies read back

A draft or a flow that was read of JSON, and whose numbers are finite, is read back from the form in
which a reply carries it (`Draft.read_reply`, `Flow.read_reply`): its dates are texts there, and
each text reads as the moment that it was written from. There is such a form exactly if no extra is
nested more deeply than a reply has room for (`firstDefect?_eq_none_iff`).
-/

set_option autoImplicit false

namespace Automation

open Value

/-! ## Dates as texts -/

/-- A moment that can be written as a text can be read of JSON. -/
theorem Moment.IsProper.isOf {m : Moment} (h : m.IsProper) : Moment.IsOf IsJson m := by
  refine ⟨.text m.jsonText, by simp [IsJson], ?_⟩
  simp [Reader.moment, ofText_jsonText h]

theorem Moment.IsOf.isProper {m : Moment} (h : Moment.IsOf IsJson m) : m.IsProper := by
  obtain ⟨v, hv, hread⟩ := h
  exact hv.isProper hread

/-- A date that was read of JSON is read back from its text in a reply. -/
theorem Value.readsBack_text : ReadsBack IsJson (fun m => .text m.jsonText) fun m => m := by
  have hread : ∀ m, Moment.IsOf IsJson m →
      Reader.optional Reader.moment (.text m.jsonText) = .ok (some m) := by
    intro m hm
    simp [Reader.optional, Reader.moment, Moment.ofText_jsonText hm.isProper, Checked.map]
  refine ⟨hread, fun m hm => ?_⟩
  rw [Reader.blankAsNone, Moment.isBlankText_jsonText]
  exact hread m hm

/-! ## Room in a reply -/

/-- No extra of these nodes and edges is nested more deeply than a reply has room for. -/
structure FitsReply (nodes : List Node) (edges : List Edge) : Prop where
  nodes : ∀ n ∈ nodes, ∀ field ∈ n.free, field.2.depth ≤ nodeRoom
  edges : ∀ e ∈ edges, ∀ field ∈ e.extras, field.2.depth ≤ edgeRoom

/-- Of nodes and edges that were read of JSON a reply can carry exactly those that fit. -/
theorem firstDefect?_eq_none_iff {nodes : List Node} {edges : List Edge}
    (hnodes : ∀ n ∈ nodes, n.IsOf IsJson) (hedges : ∀ e ∈ edges, e.IsOf IsJson) :
    firstDefect? nodes edges = none ↔ FitsReply nodes edges := by
  have hnode : ∀ n ∈ nodes, n.replyDefect? = none ↔ ∀ field ∈ n.free, field.2.depth ≤ nodeRoom := by
    intro n hn
    rw [Node.replyDefect?, fieldsDefect?_eq_none_iff (isJsonFields_iff.2 (hnodes n hn).free),
      fieldsDepth_le_iff]
  have hedge : ∀ e ∈ edges, e.replyDefect? = none ↔
      ∀ field ∈ e.extras, field.2.depth ≤ edgeRoom := by
    intro e he
    rw [Edge.replyDefect?, Option.map_eq_none_iff,
      fieldsDefect?_eq_none_iff (isJsonFields_iff.2 (hedges e he).kind), fieldsDepth_le_iff]
  -- a list has no defect if none of its items has one
  rw [firstDefect?, Option.or_eq_none_iff, List.findSome?_eq_none_iff, List.findSome?_eq_none_iff]
  constructor
  · rintro ⟨hn, he⟩
    exact ⟨fun n hmem => (hnode n hmem).1 (hn n hmem), fun e hmem => (hedge e hmem).1 (he e hmem)⟩
  · rintro ⟨hn, he⟩
    exact ⟨fun n hmem => (hnode n hmem).2 (hn n hmem), fun e hmem => (hedge e hmem).2 (he e hmem)⟩

/-- There is a reply of what fits, and of nothing else. -/
theorem exists_carried_iff {d : Option ReplyDefect} {v : Value} :
    (∃ body, carried d v = .ok body) ↔ d = none := by
  cases d with
  | none => simp [carried]
  | some d => simp [carried]

theorem carried_eq_ok {d : Option ReplyDefect} {v body : Value} (h : carried d v = .ok body) :
    body = v.forReply := by
  cases d with
  | none =>
    cases h
    rfl
  | some d => cases h

/-! ## Drafts -/

namespace Draft

variable {d : Draft}

theorem exists_reply_iff (h : d.IsOf IsJson) :
    (∃ body, d.reply = .ok body) ↔ FitsReply d.nodes d.edges :=
  exists_carried_iff.trans (firstDefect?_eq_none_iff h.nodes h.edges)

/-- A draft reads back from a reply that carries it. -/
theorem read_reply (h : d.IsOf IsJson) (hfinite : Json.isFinite d.write = true) {body : Value}
    (hbody : d.reply = .ok body) : read body = .ok d := by
  have hread := read_write readsBack_text h
  -- extras that came as JSON have no dates, and a reply leaves finite numbers as they are
  rw [mapDates_self, mapExtras_mapDatesFields _ (fun n hn => (h.nodes n hn).free)
    fun e he => (h.edges e he).kind] at hread
  rw [carried_eq_ok hbody, mapExtras_finiteFields hfinite, forReply, withDates_eq_mapDates]
  exact hread

end Draft

/-! ## Flows -/

namespace Flow

variable {flow : Flow}

/-- What is read as a flow is of the kind of the value, if the time at which it is read is. -/
theorem isOf_read {kind : Value → Prop} (hkind : Hereditary kind) {now : Moment} {v : Value}
    (hnow : Moment.IsOf kind now) (hv : kind v) (h : read now v = .ok flow) : flow.IsOf kind := by
  have hdate : ∀ {fields : Fields} {name : String} {m : Option Moment}, kind (.record fields) →
      Reader.withDefault name (some now) (Reader.optional Reader.moment) fields = .ok m →
      ∀ m' ∈ m, Moment.IsOf kind m' := by
    rintro fields name m hfields hm m' rfl
    rcases Reader.withDefault_eq_ok.1 hm with ⟨-, hnow'⟩ | ⟨v, hget, hread⟩
    · cases hnow'
      exact hnow
    · refine ⟨v, hkind.get? hfields hget, ?_⟩
      cases v with
      | null => cases hread
      | _ =>
        obtain ⟨a, ha, hsome⟩ := Checked.map_eq_ok.1 hread
        cases hsome
        exact ha
  obtain ⟨fields, rfl, hread⟩ := Reader.record_eq_ok.1 h
  simp only [readFields, Checked.seq_eq_ok, Checked.map_eq_ok] at hread
  obtain ⟨_, ⟨_, ⟨_, ⟨_, ⟨_, ⟨id, -, rfl⟩, name, -, rfl⟩, nodes, hnodes, rfl⟩, edges, hedges, rfl⟩,
    created, hcreated, rfl⟩, updated, hupdated, rfl⟩ := hread
  refine ⟨?_, ?_, hdate hv hcreated, hdate hv hupdated⟩
  · obtain ⟨v, hget, hlist⟩ := Reader.required_eq_ok.1 hnodes
    exact Reader.list_forall hkind (hkind.get? hv hget) hlist fun _ _ => Node.isOf_read hkind
  · rcases Reader.withDefault_eq_ok.1 hedges with ⟨-, rfl⟩ | ⟨v, hget, hlist⟩
    · intro e he
      cases he
    · exact Reader.list_forall hkind (hkind.get? hv hget) hlist fun _ _ => Edge.isOf_read hkind

theorem exists_reply_iff (h : flow.IsOf IsJson) :
    (∃ body, flow.reply = .ok body) ↔ FitsReply flow.nodes flow.edges :=
  exists_carried_iff.trans (firstDefect?_eq_none_iff h.nodes h.edges)

/-- A flow reads back from a reply that carries it. -/
theorem read_reply (h : flow.IsOf IsJson) (hfinite : Json.isFinite flow.write = true) {body : Value}
    (hbody : flow.reply = .ok body) (now : Moment) : read now body = .ok flow := by
  have hread := read_write readsBack_text h now
  rw [mapDates_self, mapExtras_mapDatesFields _ (fun n hn => (h.nodes n hn).free)
    fun e he => (h.edges e he).kind] at hread
  rw [carried_eq_ok hbody, mapExtras_finiteFields hfinite, forReply, withDates_eq_mapDates]
  exact hread

end Flow

end Automation
