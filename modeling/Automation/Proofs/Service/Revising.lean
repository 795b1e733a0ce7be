import Automation.Proofs.Service.Admission

/-!
# Revisions of saved flows

A revision that is accepted sets the fields that it provides and the date of the change, as a
document keeps them (`Revision.sets`), and nothing else of the store changes (`Store.Revises`); one
that provides nothing or is refused changes nothing at all. The answer is what the document says
afterwards, and so is what is found under the id from then on. A date that a document lacks is taken
from the time of reading, so of such a document every reading tells another date
(`Flow.rereadAt`, `update_replaces`).
-/

set_option autoImplicit false

namespace Automation

open Program World

-- how names are trimmed and ids are read does not matter here, and is costly to look at
attribute [local irreducible] Text.trim ObjectId.ofText?

variable {s s' : Store} {now : Moment}

/-! ## What a revision sets -/

/-- What a revision sets a field to at a time, as a document keeps it. -/
def Revision.sets (r : Revision) (now : Moment) : (field : String) → Option Value
  | "name" => r.name.map fun name => .text (Text.trim name)
  | "nodes" => r.nodes.map fun nodes => (writeNodes nodes).kept
  | "edges" => r.edges.map fun edges => (writeEdges edges).kept
  | "updated_at" => some (.date now.kept)
  | _ => none

/-- The revision provides nothing. -/
def Revision.IsEmpty (r : Revision) : Prop := r.name = none ∧ r.nodes = none ∧ r.edges = none

theorem Revision.changes_eq_nil_iff {r : Revision} : r.changes = [] ↔ r.IsEmpty := by
  simp [changes, revisedFields, IsEmpty]

/-- A field after a revision is what the revision sets it to, or what it was. -/
theorem Revision.get?_merge_changes (r : Revision) (now : Moment) (fields : Fields)
    (field : String) :
    (fields.merge (Value.keptFields (r.changes.insert "updated_at" (.date now)))).get? field =
      (r.sets now field).or (fields.get? field) := by
  have hset := Fields.HoldsFlow.get?_merge_revised fields (r.name.map Text.trim) r.nodes r.edges now
  rw [← changes] at hset
  unfold sets
  split
  · rw [hset.1, Option.map_map]
    rfl
  · exact hset.2.1
  · exact hset.2.2.1
  · exact hset.2.2.2.2
  · rename_i hname hnodes hedges hupdated
    have hnone : Fields.get? (Value.keptFields (r.changes.insert "updated_at" (.date now))) field =
        none := by
      rw [Fields.get?_eq_none_iff]
      obtain ⟨name, nodes, edges⟩ := r
      cases name <;> cases nodes <;> cases edges <;>
        simp [changes, revisedFields, Fields.insert, Value.keptFields, Ne.symm hname,
          Ne.symm hnodes, Ne.symm hedges, Ne.symm hupdated]
    rw [Fields.get?_merge_of_none hnone, Option.none_or]

/-- The document of a flow became another by a revision at a time, and nothing else changed. -/
structure Store.Revises (s : Store) (r : Revision) (now : Moment) (d d' : Document) (s' : Store) :
    Prop where
  found : s'.flows.findOne [.idIs d.id] = some d'
  id : d'.id = d.id
  fields : ∀ field, d'.fields.get? field = (r.sets now field).or (d.fields.get? field)
  ids : s'.flows.documents.map Document.id = s.flows.documents.map Document.id
  others : (s'.flows.documents.filter fun e => e.id ≠ d.id) =
    s.flows.documents.filter fun e => e.id ≠ d.id
  lastNumber : s'.flows.lastNumber = s.flows.lastNumber
  testRuns : s'.testRuns = s.testRuns
  executionLogs : s'.executionLogs = s.executionLogs

/-- What a change of a flow does to the store. -/
theorem Store.revises_of_answer {oid : ObjectId} {r : Revision} {d' : Document}
    (h : s.answer (.change .flows oid (r.changes.insert "updated_at" (.date now))) =
      .ok (some d', s')) :
    ∃ d, s.flows.findOne [.idIs oid] = some d ∧ s.Revises r now d d' s' := by
  obtain ⟨d, hd, hd'⟩ := Option.map_eq_some_iff.1 (answer_changed h).symm
  obtain rfl := answer_change h
  have hid : d.id = oid := Shelf.id_of_findOne hd
  subst hid
  have hothers : ((s.flows.change d.id (Value.keptFields
      (r.changes.insert "updated_at" (.date now)))).documents.filter fun e => e.id ≠ d.id) =
        s.flows.documents.filter fun e => e.id ≠ d.id :=
    filter_change fun e _ hid => ⟨by simp [hid], by simp [Document.updated, hid]⟩
  refine ⟨d, hd, ?_, ?_, ?_, Shelf.map_id_change _ _ _, hothers, rfl, rfl, rfl⟩
  · have hfound := Shelf.findOne_change s.flows d.id
      (Value.keptFields (r.changes.insert "updated_at" (.date now)))
    rw [show s.flows.findOne [.idIs d.id] = some d from hd] at hfound
    rw [← hd']
    exact hfound
  · rw [← hd']
    rfl
  · rw [← hd']
    exact r.get?_merge_changes now d.fields

/-! ## Documents that are read again -/

/-- The document has both dates of a flow. -/
def Document.IsDated (d : Document) : Prop :=
  (d.fields.get? "created_at").isSome ∧ (d.fields.get? "updated_at").isSome

/-- A flow as it is read of a document at another time, which it has for the dates that the document
lacks. -/
def Flow.rereadAt (flow : Flow) (d : Document) (now : Moment) : Flow :=
  { flow with
    createdAt := if (d.fields.get? "created_at").isSome then flow.createdAt else some now
    updatedAt := if (d.fields.get? "updated_at").isSome then flow.updatedAt else some now }

theorem Flow.rereadAt_of_isDated {d : Document} (h : d.IsDated) (flow : Flow) (now : Moment) :
    flow.rereadAt d now = flow := by
  rw [rereadAt, if_pos h.1, if_pos h.2]

/-- With another default a field reads as before if it is there, and as the default if not. -/
theorem Reader.withDefault_other {α : Type} {name : String} {default : α} {read : Reader α}
    {fields : Fields} {a : α} (h : withDefault name default read fields = .ok a) (other : α) :
    withDefault name other read fields =
      .ok (if (fields.get? name).isSome then a else other) := by
  unfold withDefault at h ⊢
  cases hget : fields.get? name with
  | none => rfl
  | some v =>
    rw [hget] at h
    exact h

theorem flowOf_rereadAt {d : Document} {flow : Flow} (h : Repository.flowOf now d = .ok flow)
    (now' : Moment) : Repository.flowOf now' d = .ok (flow.rereadAt d now') := by
  have hfields : Flow.readFields now d.named = .ok flow := Repository.readAs_eq_ok.1 h
  refine Repository.readAs_eq_ok.2 ?_
  have hcreated : d.named.get? "created_at" = d.fields.get? "created_at" := by
    simp [Document.named, Fields.get?_insert, Fields.get?_cons]
  have hupdated : d.named.get? "updated_at" = d.fields.get? "updated_at" := by
    simp [Document.named, Fields.get?_insert, Fields.get?_cons]
  simp only [Flow.readFields, Checked.seq_eq_ok, Checked.map_eq_ok] at hfields ⊢
  obtain ⟨_, ⟨_, ⟨_, ⟨_, ⟨_, ⟨id, hid, rfl⟩, name, hname, rfl⟩, nodes, hnodes, rfl⟩, edges, hedges,
    rfl⟩, created, hcreatedAt, rfl⟩, updated, hupdatedAt, rfl⟩ := hfields
  refine ⟨_, ⟨_, ⟨_, ⟨_, ⟨_, ⟨id, hid, rfl⟩, name, hname, rfl⟩, nodes, hnodes, rfl⟩, edges, hedges,
    rfl⟩, _, ?_, rfl⟩, _, ?_, rfl⟩
  · rw [← hcreated]
    exact Reader.withDefault_other hcreatedAt (some now')
  · rw [← hupdated]
    exact Reader.withDefault_other hupdatedAt (some now')

/-- A flow that the store has is found under its id later, as it is read then. -/
theorem getFlow_later {id : String} {oid : ObjectId} {d : Document} {flow : Flow} {later : World}
    (hid : ObjectId.ofText? id = some oid) (hd : s.flows.findOne [.idIs oid] = some d)
    (hread : Repository.flowOf now d = .ok flow) (hlater : later.Holds s) :
    ∃ found, (later.perform (Repository.getFlow id)).1 = .done (some found) ∧
      found = flow.rereadAt d later.now ∧ (d.IsDated → found = flow) := by
  refine ⟨flow.rereadAt d later.now, ?_, rfl, fun hdated => Flow.rereadAt_of_isDated hdated _ _⟩
  refine perform_upholds (Q := fun _ o => o = .done (some _)) ?_
  unfold Repository.getFlow
  rw [hid]
  have hat : later.HoldsAt s later.now := ⟨hlater, rfl⟩
  have hfound : s.answer (.findOne .flows [.idIs oid]) = .ok (some d, s) :=
    congrArg (fun d => Except.ok (d, s)) hd
  refine search_holdsAt hat (show "find_one" ≠ "update_one" by decide) hfound fun w hw => ?_
  refine now_holdsAt hw fun w hw => ?_
  rw [flowOf_rereadAt hread]
  rfl

/-! ## Revisions -/

/-- **A revision replaces exactly what it provides.** One that is accepted has no blank name and no
empty list of nodes; it sets the fields of one document that it provides, and nothing else changes.
One that provides nothing writes nothing, and one that is refused changes nothing. The answer is the
flow of the document as it is then, and this is what is found under the id later, but for a date
that the document lacks. All this is so however the calls of the store fail meanwhile; where none
does, the store decides whether the revision is accepted. -/
theorem update_replaces (w : World) (id : String) (r : Revision) :
    let (o, after) := w.perform (Editor.update id r)
    ((∃ saved d d', o = .done saved ∧ ObjectId.ofText? id = some d.id ∧
        w.database.store.flows.findOne [.idIs d.id] = some d ∧
        (∀ name ∈ r.name, Text.trim name ≠ "") ∧ r.nodes ≠ some [] ∧
        (r.IsEmpty ∧ after.database.store = w.database.store ∧ d' = d ∨
          ¬ r.IsEmpty ∧ w.database.store.Revises r w.now d d' after.database.store) ∧
        Repository.flowOf w.now d' = .ok saved ∧
        ∀ later : World, later.Holds after.database.store → ∃ found,
          (later.perform (Repository.getFlow id)).1 = .done (some found) ∧
          found = saved.rereadAt d' later.now ∧ (d'.IsDated → found = saved)) ∨
      (∃ f, o = .failed f) ∧ after.database.store = w.database.store) ∧
    (w.Holds w.database.store →
      ((∃ saved, o = .done saved) ↔ w.database.store.Admits w.now id r)) := by
  have hends := perform_upholds (update_atOnce (atOnce_self w) id r)
  have hdecides := fun hw : w.Holds w.database.store =>
    perform_upholds (update_decides ⟨hw, rfl⟩ id r)
  generalize w.perform (Editor.update id r) = ending at hends hdecides ⊢
  obtain ⟨o, after⟩ := ending
  have haccepted : w.Holds w.database.store →
      ((∃ saved, o = .done saved) ↔ w.database.store.Admits w.now id r) := by
    intro hw
    rcases hdecides hw with ⟨saved, ho, hadmits, -⟩ | ⟨⟨f, ho⟩, hadmits⟩
    · exact iff_of_true ⟨saved, ho⟩ hadmits
    · refine iff_of_false ?_ hadmits
      rintro ⟨saved, hsaved⟩
      cases ho.symm.trans hsaved
  refine ⟨?_, haccepted⟩
  rcases hends with ⟨saved, ho, hname, hnodes, s', hafter, haccepts⟩ | ⟨hf, hafter⟩
  · have hstore : after.database.store = s' := hafter.store
    refine Or.inl ?_
    rw [hstore]
    cases haccepts with
    | idle hchanges hsaved =>
      obtain ⟨oid, d, hid, hd, hread⟩ := hsaved
      obtain rfl := Shelf.id_of_findOne hd
      have hempty := Revision.changes_eq_nil_iff.1 hchanges
      exact ⟨saved, d, d, ho, hid, hd, hname, hnodes, Or.inl ⟨hempty, rfl, rfl⟩, hread,
        fun later hlater => getFlow_later hid hd hread hlater⟩
    | changed hchanges hsaved =>
      obtain ⟨oid, d', hid, hchange, hread⟩ := hsaved
      obtain ⟨d, hd, hrevises⟩ := Store.revises_of_answer hchange
      obtain rfl := Shelf.id_of_findOne hd
      have hsome : ¬ r.IsEmpty := fun hempty => hchanges (Revision.changes_eq_nil_iff.2 hempty)
      exact ⟨saved, d, d', ho, hid, hd, hname, hnodes, Or.inr ⟨hsome, hrevises⟩, hread,
        fun later hlater => getFlow_later hid hrevises.found hread hlater⟩
  · exact Or.inr ⟨hf, hafter.store⟩

/-- The document of a flow that was not saved by the service and has no dates. -/
def undatedDocument : Document :=
  ⟨Collection.flows.numbered 1, [("name", .text "Flow"),
    ("nodes", .list [.record [("id", .text "end"), ("type", .text "end")]])]⟩

/-- A world with this one document. -/
def undatedWorld : World :=
  { emptyWorld with database := ⟨{ Store.empty with flows := ⟨[undatedDocument], 1⟩ }, []⟩ }

/-- A new name for a flow. -/
def newName : Revision := ⟨some " Renamed ", none, none⟩

/-- The flow gets the new name. -/
def renamed : Outcome Flow × World :=
  undatedWorld.perform (Editor.update "a00000000000000000000001" newName)

/-- The world a minute later. -/
def minuteLater : World := { renamed.2 with clock := renamed.2.clock + microseconds 60000 }

theorem exists_of_result? {α β : Type} {o : Outcome α} {f : α → β} {b : β}
    (h : (o.result?.bind Except.toOption).map f = some b) : ∃ a, o = .done a ∧ f a = b := by
  cases o with
  | done a => exact ⟨a, rfl, Option.some.inj h⟩
  | failed f => cases h
  | cancelled => cases h

/-- The document has no date of its making, so the flow that is found a minute later has another one
than the answer to the revision. -/
theorem answer_outdated : ∃ saved found, renamed.1 = .done saved ∧
    (minuteLater.perform (Repository.getFlow "a00000000000000000000001")).1 = .done (some found) ∧
    found.createdAt ≠ saved.createdAt := by
  have hsaved : (renamed.1.result?.bind Except.toOption).map Flow.createdAt =
      some (some (Moment.ofInstant 0)) := by decide +kernel
  have hfound : ((minuteLater.perform (Repository.getFlow
      "a00000000000000000000001")).1.result?.bind Except.toOption).map (Option.map Flow.createdAt) =
        some (some (some (Moment.ofInstant 60000000))) := by decide +kernel
  obtain ⟨saved, hsaved, hcreated⟩ := exists_of_result? hsaved
  obtain ⟨found, hfound, hcreated'⟩ := exists_of_result? hfound
  obtain ⟨flow, rfl, hflow⟩ := Option.map_eq_some_iff.1 hcreated'
  refine ⟨saved, flow, hsaved, hfound, ?_⟩
  rw [hcreated, hflow]
  decide

/-- A flow gets a new name and keeps what it has else, and is then found so. -/
theorem update_replaces_renamed : ∃ saved d' after,
    undatedWorld.perform (Editor.update "a00000000000000000000001" newName) =
        (.done saved, after) ∧
      undatedWorld.database.store.Admits undatedWorld.now "a00000000000000000000001" newName ∧
      undatedWorld.database.store.Revises newName undatedWorld.now undatedDocument d'
        after.database.store ∧
      (after.perform (Repository.getFlow "a00000000000000000000001")).1 =
        .done (some (saved.rereadAt d' after.now)) := by
  have hdone : (renamed.1.result?.bind Except.toOption).map (fun _ => ()) = some () := by
    decide +kernel
  have hafter : renamed.2.database.faults = [] :=
    List.isEmpty_iff.1 (by decide +kernel)
  have hends := update_replaces undatedWorld "a00000000000000000000001" newName
  unfold renamed at hdone hafter
  generalize undatedWorld.perform (Editor.update "a00000000000000000000001" newName) = ending
    at hdone hafter hends
  obtain ⟨o, after⟩ := ending
  obtain ⟨saved, rfl, -⟩ := exists_of_result? hdone
  have hadmits := (hends.2 (holds_of_faults_nil rfl)).1 ⟨saved, rfl⟩
  obtain ⟨⟨saved', d, d', ho, -, hd, -, -, ⟨hempty, -⟩ | ⟨-, hrevises⟩, -, hlater⟩ |
    ⟨⟨f, ho⟩, -⟩, -⟩ := hends
  · cases hempty.1
  · cases ho
    -- there is only one document
    obtain rfl := List.mem_singleton.1 (List.mem_of_find?_eq_some hd)
    obtain ⟨found, hfound, rfl, -⟩ := hlater after (holds_of_faults_nil hafter)
    exact ⟨saved, d', after, rfl, hadmits, hrevises, hfound⟩
  · cases ho

end Automation
