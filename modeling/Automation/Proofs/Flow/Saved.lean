import Automation.Proofs.Store.Evolution
import Automation.Proofs.Text.Trim
import Automation.Repository.Flows

/-!
# Saved flows

What the document of a flow holds (`Fields.HoldsFlow`): a trimmed name that is not empty, at least
one node, edges, and two dates, each in the form in which the store keeps what is written of it.
That form is read back whatever the nodes and edges are, extras and unknown types of node included,
so such a document always reads as a flow with its name and with nodes (`HoldsFlow.flowOf`). The
changes that an editor makes to a flow keep all of that (`HoldsFlow.merge`).
-/

set_option autoImplicit false

namespace Automation

open Automation.Text

/-! ## Readers -/

namespace Checked

variable {α β : Type} {f : Checked (α → β)} {a : Checked α}

/-- Something was read. -/
def IsOk (a : Checked α) : Prop := ∃ x, a = ok x

@[simp] theorem isOk_ok (x : α) : (ok x).IsOk := ⟨x, rfl⟩

@[simp] theorem isOk_map (f : α → β) : (f <$> a).IsOk ↔ a.IsOk := by
  constructor
  · rintro ⟨b, hb⟩
    obtain ⟨x, hx, -⟩ := map_eq_ok.1 hb
    exact ⟨x, hx⟩
  · rintro ⟨x, rfl⟩
    exact ⟨f x, rfl⟩

@[simp] theorem isOk_seq : (f <*> a).IsOk ↔ f.IsOk ∧ a.IsOk := by
  constructor
  · rintro ⟨b, hb⟩
    obtain ⟨g, hg, x, hx, -⟩ := seq_eq_ok.1 hb
    exact ⟨⟨g, hg⟩, x, hx⟩
  · rintro ⟨⟨g, rfl⟩, x, rfl⟩
    exact ⟨g x, rfl⟩

@[simp] theorem isOk_inside (part : PathPart) : (a.inside part).IsOk ↔ a.IsOk := by
  cases a with
  | ok x => exact Iff.rfl
  | refused issues =>
    constructor <;> rintro ⟨x, hx⟩ <;> cases hx

end Checked

namespace Reader

variable {α β : Type} {read : Reader α} {fields : Fields} {name : String}

@[simp] theorem isOk_required :
    (required name read fields).IsOk ↔ ∃ v, fields.get? name = some v ∧ (read v).IsOk := by
  unfold required
  cases fields.get? name with
  | none =>
    constructor
    · rintro ⟨x, hx⟩
      cases hx
    · rintro ⟨v, hv, -⟩
      cases hv
  | some v => simp

@[simp] theorem isOk_withDefault {value : α} :
    (withDefault name value read fields).IsOk ↔
      ∀ v, fields.get? name = some v → (read v).IsOk := by
  unfold withDefault
  cases fields.get? name with
  | none => simp
  | some v => simp

@[simp] theorem isOk_optionalField :
    (optionalField name read fields).IsOk ↔
      ∀ v, fields.get? name = some v → (optional read v).IsOk := isOk_withDefault

/-- A list reads if all of its items do. -/
theorem list_ok {items : List Value} (h : ∀ v ∈ items, (read v).IsOk) :
    ∃ as, list read (.list items) = .ok as ∧ as.length = items.length := by
  -- the position of an item shows in issues only
  suffices hall : ∀ part : Nat → PathPart, ∃ as,
      Checked.all (items.mapIdx fun i v => (read v).inside (part i)) = .ok as ∧
        as.length = items.length from hall .index
  induction items with
  | nil => exact fun part => ⟨[], rfl, rfl⟩
  | cons v rest ih =>
    intro part
    obtain ⟨a, ha⟩ := h v List.mem_cons_self
    obtain ⟨as, has, hlength⟩ :=
      ih (fun v hv => h v (List.mem_cons_of_mem _ hv)) fun i => part (i + 1)
    refine ⟨a :: as, ?_, by rw [List.length_cons, List.length_cons, hlength]⟩
    rw [List.mapIdx_cons, ha, Checked.all, has]
    rfl

/-- What is kept of a list that was written reads if it does for each item. -/
theorem list_kept {write : β → Value} (h : ∀ b, (read (write b).kept).IsOk) (bs : List β) :
    ∃ as, list read (Value.list (bs.map write)).kept = .ok as ∧ as.length = bs.length := by
  have hmap : ∀ items, Value.keptItems items = items.map Value.kept := by
    intro items
    induction items with
    | nil => rfl
    | cons v rest ih => rw [Value.keptItems, ih, List.map_cons]
  have hitems : ∀ v ∈ Value.keptItems (bs.map write), (read v).IsOk := by
    intro v hv
    rw [hmap, List.map_map] at hv
    obtain ⟨b, -, rfl⟩ := List.mem_map.1 hv
    exact h b
  obtain ⟨as, has, hlength⟩ := list_ok hitems
  refine ⟨as, by rw [Value.kept]; exact has, ?_⟩
  rw [hlength, hmap, List.length_map, List.length_map]

end Reader

/-! ## Parts of flows -/

theorem Position.isOk_read (p : Option Position) :
    (Reader.optional read ((p.map write).getD .null).kept).IsOk := by
  cases p with
  | none => exact ⟨none, rfl⟩
  | some p =>
    refine ⟨some p, ?_⟩
    simp [Reader.optional, read, write, Value.kept, Value.keptFields, Reader.record,
      Reader.withDefault, Fields.get?_cons, Reader.real]
    rfl

theorem Rule.isOk_read (r : Rule) : (read r.write.kept).IsOk := by
  simp [read, write, Value.kept, Value.keptFields, Reader.record, Fields.get?_cons]

theorem Delay.isOk_read (d : Delay) : (read d.write.kept).IsOk := by
  have hamount : (Reader.blankAsNone (Reader.optional Reader.integer)
      ((d.amount.map Value.int).getD .null).kept).IsOk := by
    cases d.amount <;> exact ⟨_, rfl⟩
  have hunit : (Reader.blankAsNone (Reader.optional Reader.text) (.ofText? d.unit)).IsOk := by
    cases d.unit with
    | none => exact ⟨_, rfl⟩
    | some unit =>
      show Checked.IsOk (if isBlankText unit = true then _ else _)
      split <;> exact ⟨_, rfl⟩
  have htarget : (Reader.blankAsNone (Reader.optional Reader.moment)
      (.ofDate? (d.target.map Moment.kept))).IsOk := by
    cases d.target <;> exact ⟨_, rfl⟩
  simpa [read, readFields, write, Value.kept, Value.keptFields, Reader.record, Fields.get?_cons]
    using ⟨⟨hamount, hunit⟩, htarget⟩

theorem Edge.isOk_read (e : Edge) : (read e.write.kept).IsOk := by
  simp [read, write, Value.kept, Value.keptFields, Reader.record, Fields.get?_cons]

theorem settingsForm?_eq_none {type : String} (h : type ∉ knownTypes) :
    settingsForm? type = none := by
  unfold settingsForm?
  split <;> first | rfl | exact absurd (by decide) h

/-- The settings of a node whose type a run can execute read in the form of that type. -/
theorem Payload.isOk_settings (p : Payload) {form : SettingsForm}
    (hform : settingsForm? p.type = some form) : (form.read p.settings.kept).IsOk := by
  cases p with
  | start extras =>
    cases hform
    rw [settings, Value.kept]
    exact ⟨_, rfl⟩
  | action message extras =>
    cases hform
    simp [readActionSettings, settings, Value.kept, Value.keptFields, Reader.record,
      Fields.get?_cons]
  | delay d =>
    cases hform
    exact (Checked.isOk_map _).2 d.isOk_read
  | condition rules extras =>
    cases hform
    obtain ⟨rules', hrules, -⟩ := Reader.list_kept Rule.isOk_read rules
    simp [readConditionSettings, settings, Value.kept, Value.keptFields, Reader.record,
      Fields.get?_cons]
    exact ⟨rules', by rw [← hrules, Value.kept]⟩
  | finish extras =>
    cases hform
    rw [settings, Value.kept]
    exact ⟨_, rfl⟩
  | foreign name hforeign settings =>
    rw [type, settingsForm?_eq_none hforeign] at hform
    cases hform

/-- What is kept of a node reads as a node, whatever its type and its extras are. -/
theorem Node.isOk_read (n : Node) : (read n.write.kept).IsOk := by
  have hfields : n.write.kept = .record (("id", .text n.id) :: ("type", .text n.type) ::
      ("position", ((n.position.map Position.write).getD .null).kept) ::
      ("data", n.payload.settings.kept) :: Value.keptFields n.extras) := by
    simp [write, Value.kept, Value.keptFields]
  have hposition := Position.isOk_read n.position
  rw [hfields]
  cases hform : settingsForm? n.type with
  | some form =>
    have hsettings := n.payload.isOk_settings hform
    simpa [read, givenType?, Fields.get?_cons, hform, readKnown] using ⟨hposition, hsettings⟩
  | none =>
    have hsettings : (Reader.dictionary n.payload.settings.kept).IsOk := by
      cases n.payload <;> exact ⟨_, by simp [Payload.settings, Delay.write, Value.kept]; rfl⟩
    simpa [read, givenType?, Fields.get?_cons, hform, readForeign] using ⟨hposition, hsettings⟩

/-! ## Documents of flows -/

/-- The fields of a flow with a name, as a document keeps them. -/
structure Fields.HoldsFlow (fields : Fields) (s : String) : Prop where
  name : fields.get? "name" = some (.text s)
  trimmed : trim s = s
  nonempty : s ≠ ""
  nodes : ∃ nodes : List Node, nodes ≠ [] ∧ fields.get? "nodes" = some (writeNodes nodes).kept
  edges : ∃ edges : List Edge, fields.get? "edges" = some (writeEdges edges).kept
  created : ∃ m, fields.get? "created_at" = some (.ofDate? m)
  updated : ∃ m, fields.get? "updated_at" = some (.ofDate? m)

/-- What an editor changes of a flow: its name, its nodes and its edges, each of them or not. -/
def revisedFields (name : Option String) (nodes : Option (List Node))
    (edges : Option (List Edge)) : Fields :=
  (name.map fun s => ("name", Value.text s)).toList ++
    (nodes.map fun ns => ("nodes", writeNodes ns)).toList ++
    (edges.map fun es => ("edges", writeEdges es)).toList

namespace Fields.HoldsFlow

variable {fields : Fields} {s : String}

/-- Such a document reads as a flow with its id and its name, and with at least one node. -/
theorem flowOf (h : fields.HoldsFlow s) (now : Moment) (id : ObjectId) :
    ∃ flow, Repository.flowOf now ⟨id, fields⟩ = .ok flow ∧ flow.id = some id.text ∧
      flow.name = s ∧ flow.nodes ≠ [] := by
  obtain ⟨nodes, hnonempty, hnodes⟩ := h.nodes
  obtain ⟨edges, hedges⟩ := h.edges
  obtain ⟨created, hcreated⟩ := h.created
  obtain ⟨updated, hupdated⟩ := h.updated
  obtain ⟨nodes', hnodes', hlength⟩ := Reader.list_kept Node.isOk_read nodes
  obtain ⟨edges', hedges', -⟩ := Reader.list_kept Edge.isOk_read edges
  refine ⟨⟨some id.text, s, nodes', edges', created, updated⟩, ?_, rfl, rfl, fun hnone => ?_⟩
  · simp [Repository.flowOf, Repository.readAs, Flow.readFields, Document.named,
      Fields.get?_insert, Fields.get?_cons, Reader.optionalField, Reader.withDefault,
      Reader.required, h.name, hnodes, hedges, hcreated, hupdated, writeNodes, writeEdges, hnodes',
      hedges']
    rfl
  · rw [show nodes' = [] from hnone, List.length_nil] at hlength
    exact hnonempty (List.length_eq_zero_iff.1 hlength.symm)

/-- The document of a flow that is made. -/
theorem of_document (name : String) (htrimmed : trim name = name) (hname : name ≠ "")
    {nodes : List Node} (hnodes : nodes ≠ []) (edges : List Edge) (now : Moment) :
    Fields.HoldsFlow (Value.keptFields
      (Flow.document ⟨none, name, nodes, edges, some now, some now⟩)) name where
  name := by simp [Flow.document, Value.keptFields, get?_cons]
  trimmed := htrimmed
  nonempty := hname
  nodes := ⟨nodes, hnodes, by simp [Flow.document, Value.keptFields, get?_cons]⟩
  edges := ⟨edges, by simp [Flow.document, Value.keptFields, get?_cons]⟩
  created := ⟨some now.kept, by simp [Flow.document, Value.keptFields, get?_cons]⟩
  updated := ⟨some now.kept, by simp [Flow.document, Value.keptFields, get?_cons]⟩

/-- The fields of a flow after a change of it. -/
theorem get?_merge_revised (fields : Fields) (name : Option String) (nodes : Option (List Node))
    (edges : Option (List Edge)) (now : Moment) :
    let fields' := fields.merge (Value.keptFields
      ((revisedFields name nodes edges).insert "updated_at" (.date now)))
    fields'.get? "name" = (name.map Value.text).or (fields.get? "name") ∧
      fields'.get? "nodes" = (nodes.map fun ns => (writeNodes ns).kept).or (fields.get? "nodes") ∧
      fields'.get? "edges" = (edges.map fun es => (writeEdges es).kept).or (fields.get? "edges") ∧
      fields'.get? "created_at" = fields.get? "created_at" ∧
      fields'.get? "updated_at" = some (.date now.kept) := by
  cases name <;> cases nodes <;> cases edges <;>
    simp [revisedFields, Fields.insert, Value.keptFields, get?_merge, get?_cons, get?_nil]

/-- The document of a flow that is changed still holds a flow. -/
theorem merge (h : fields.HoldsFlow s) {name : Option String}
    (hname : ∀ s ∈ name, trim s = s ∧ s ≠ "") {nodes : Option (List Node)}
    (hnodes : ∀ ns ∈ nodes, ns ≠ []) (edges : Option (List Edge)) (now : Moment) :
    Fields.HoldsFlow (fields.merge (Value.keptFields
      ((revisedFields name nodes edges).insert "updated_at" (.date now)))) (name.getD s) := by
  obtain ⟨hname', hnodes', hedges', hcreated', hupdated'⟩ :=
    get?_merge_revised fields name nodes edges now
  refine ⟨?_, ?_, ?_, ?_, ?_, ?_, ⟨some now.kept, hupdated'⟩⟩
  · rw [hname']
    cases name with
    | none => exact h.name
    | some s => rfl
  · cases name with
    | none => exact h.trimmed
    | some s => exact (hname s rfl).1
  · cases name with
    | none => exact h.nonempty
    | some s => exact (hname s rfl).2
  · rw [hnodes']
    cases nodes with
    | none => exact h.nodes
    | some ns => exact ⟨ns, hnodes ns rfl, rfl⟩
  · rw [hedges']
    cases edges with
    | none => exact h.edges
    | some es => exact ⟨es, rfl⟩
  · rw [hcreated']
    exact h.created

end Fields.HoldsFlow

end Automation
