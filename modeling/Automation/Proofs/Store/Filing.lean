import Automation.Proofs.Program.Conduct
import Automation.Proofs.Service.Updates
import Automation.Proofs.Store.Logbook

/-!
# Records under the ids of their owners

A test run names its flow and an audit entry names its run by a text, and a search for them compares
texts. Every record is filed under the written form of an id (`Store.IsFiled`), and it stays so
under the queries of the service (`Store.IsFiled.answer`). So a search by the written form of an id
finds what is filed under that id, and a search by any other spelling of it finds nothing
(`Store.IsFiled.find_runs`, `Store.IsFiled.find_entries`).
-/

set_option autoImplicit false

namespace Automation

open Automation.Text

/-! ## Written forms -/

/-- Only so many digits of a number are written. -/
theorem hexText_mod (width n : Nat) : hexText width (n % 16 ^ width) = hexText width n := by
  induction width generalizing n with
  | zero => rfl
  | succ width ih =>
    have hrest : n % 16 ^ (width + 1) / 16 = n / 16 % 16 ^ width := by
      rw [Nat.pow_succ, Nat.mul_comm, Nat.mod_mul_right_div_self]
    have hlast : n % 16 ^ (width + 1) % 16 = n % 16 := by
      rw [Nat.pow_succ, Nat.mod_mul_left_mod]
    rw [hexText, hexText, hrest, hlast, ih]

namespace ObjectId

/-- A text that is the written form of an id. -/
def IsWritten (t : String) : Prop := ∃ id : ObjectId, t = id.text

variable {id : ObjectId} {t : String}

theorem isWritten_text (id : ObjectId) : IsWritten id.text := ⟨id, rfl⟩

/-- A written form spells an id with that written form. -/
theorem IsWritten.exists_ofText? (h : IsWritten t) : ∃ id, ofText? t = some id ∧ t = id.text := by
  obtain ⟨id, rfl⟩ := h
  obtain ⟨ds, hds, hn⟩ := mapM_hexText width id.number
  refine ⟨⟨id.number % 16 ^ width⟩, ?_, (hexText_mod width id.number).symm⟩
  rw [ofText?, text, if_pos (length_hexText width _), hds, Option.map_some, hn]

/-- The written form is the only one among the spellings of an id. -/
theorem IsWritten.eq_text (h : IsWritten t) (hid : ofText? t = some id) : t = id.text := by
  obtain ⟨id', hid', rfl⟩ := h.exists_ofText?
  rw [hid] at hid'
  rw [Option.some.inj hid']

end ObjectId

/-! ## Records -/

/-- The fields of a test run that names its flow by a written form. -/
def Fields.FilesRun (fields : Fields) : Prop :=
  ∃ run : TestRun, fields = run.document ∧ ObjectId.IsWritten run.flowId

/-- The fields of an audit entry that names its run by a written form. -/
def Fields.FilesEntry (fields : Fields) : Prop :=
  ∃ entry : AuditEntry, fields = entry.document ∧ ObjectId.IsWritten entry.runId

namespace Fields

variable {fields : Fields}

theorem FilesRun.kept (h : fields.FilesRun) : FilesRun (Value.keptFields fields) := by
  obtain ⟨run, rfl, hflow⟩ := h
  exact ⟨run.kept, run.keptFields_document, hflow⟩

/-- No update of a test run names another flow. -/
theorem FilesRun.merge (h : fields.FilesRun) (u : TestRun.Update) (now : Moment) :
    FilesRun (fields.merge (Value.keptFields (u.fields now))) := by
  obtain ⟨run, rfl, hflow⟩ := h
  refine ⟨u.apply now run, TestRun.Update.merge_fields now run u, ?_⟩
  cases u <;> exact hflow

theorem FilesEntry.kept (h : fields.FilesEntry) : FilesEntry (Value.keptFields fields) := by
  obtain ⟨entry, rfl, hrun⟩ := h
  exact ⟨entry.kept, entry.keptFields_document, hrun⟩

/-- The end of a visit does not name another run. -/
theorem FilesEntry.merge (h : fields.FilesEntry) (now : Moment) (status : String)
    (message : Option String) :
    FilesEntry (fields.merge
      (Value.keptFields (AuditEntry.finishing now (.text status) (.ofText? message)))) := by
  obtain ⟨entry, rfl, hrun⟩ := h
  exact ⟨entry.finish now.kept status message, entry.merge_finishing now status message, hrun⟩

end Fields

/-- A request that writes records as the service does: it files new ones under written forms, and
changes none of the names. -/
def Request.Files : Request → Prop
  | .query (.insert .testRuns fields) => fields.FilesRun
  | .query (.insert .executionLogs fields) => fields.FilesEntry
  | .query (.update .testRuns _ changes) =>
    ∃ (u : TestRun.Update) (now : Moment), changes = u.fields now
  | .query (.change .executionLogs _ changes) =>
    ∃ (now : Moment) (status : String) (message : Option String),
      changes = AuditEntry.finishing now (.text status) (.ofText? message)
  | .query (.change .testRuns ..) | .query (.update .executionLogs ..) => False
  | .launch _ _ run => ObjectId.IsWritten run
  | _ => True

namespace Store

variable {s s' : Store} {oid : ObjectId} {id : String}

/-- A store in which every record is filed under the written form of an id. -/
structure IsFiled (s : Store) : Prop where
  runs : ∀ d ∈ s.testRuns.documents, d.fields.FilesRun
  entries : ∀ d ∈ s.executionLogs.documents, d.fields.FilesEntry

/-- What all documents of a collection have they have after a query, if new ones have it and changes
keep it. -/
theorem forall_of_becomes {shelf shelf' : Shelf} {c : Collection} {fresh : Nat} {q : Query}
    {P : Fields → Prop} (h : shelf.Becomes c fresh q shelf')
    (hshelf : ∀ d ∈ shelf.documents, P d.fields)
    (hinsert : ∀ fields, q = .insert c fields → P (Value.keptFields fields))
    (hchange : ∀ oid changes, q = .update c oid changes ∨ q = .change c oid changes →
      ∀ fields : Fields, P fields → P (fields.merge (Value.keptFields changes))) :
    ∀ d ∈ shelf'.documents, P d.fields := by
  cases h with
  | same heq =>
    rw [heq]
    exact hshelf
  | inserted fields heq hq =>
    rw [heq]
    intro d hd
    rcases List.mem_append.1 hd with hd | hd
    · exact hshelf d hd
    · rw [List.mem_singleton.1 hd]
      exact hinsert fields hq
  | changed oid changes heq hq =>
    rw [heq]
    intro d' hd'
    obtain ⟨d, hd, -, ⟨-, rfl⟩ | ⟨-, rfl⟩⟩ := Shelf.mem_change hd'
    · exact hchange oid changes hq d.fields (hshelf d hd)
    · exact hshelf d' hd
  | deleted oid heq hq =>
    rw [heq]
    exact fun d hd => hshelf d (List.mem_filter.1 hd).1

/-- The queries of the service keep the records filed. -/
theorem IsFiled.answer (h : s.IsFiled) {q : Query} {y : q.Answer} (hq : (Request.query q).Files)
    (hy : s.answer q = .ok (y, s')) : s'.IsFiled where
  runs := by
    refine forall_of_becomes (answer_testRuns hy) h.runs ?_ ?_
    · rintro fields rfl
      exact Fields.FilesRun.kept hq
    · rintro oid changes (rfl | rfl) fields hfields
      · obtain ⟨u, now, rfl⟩ := hq
        exact hfields.merge u now
      · exact hq.elim
  entries := by
    refine forall_of_becomes (answer_executionLogs hy) h.entries ?_ ?_
    · rintro fields rfl
      exact Fields.FilesEntry.kept hq
    · rintro oid changes (rfl | rfl) fields hfields
      · exact hq.elim
      · obtain ⟨now, status, message, rfl⟩ := hq
        exact hfields.merge now status message

end Store

/-! ## What is recorded for an id -/

/-- Whether a document names an id in a field, in whatever spelling. -/
def Document.names (field : String) (oid : ObjectId) (d : Document) : Bool :=
  match d.fields.get? field with
  | some (.text t) => ObjectId.ofText? t == some oid
  | _ => false

theorem Document.names_iff {d : Document} {field t : String} {oid : ObjectId}
    (h : d.fields.get? field = some (.text t)) :
    d.names field oid = true ↔ ObjectId.ofText? t = some oid := by
  rw [names, h, beq_iff_eq]

/-- A document is the record of a test run. -/
def Document.Records (d : Document) (run : TestRun) : Prop :=
  d.fields = run.document ∧ run.id = some d.id.text

/-- A document is that of an audit entry. -/
def Document.Notes (d : Document) (entry : AuditEntry) : Prop :=
  d.fields = entry.document ∧ entry.id = some d.id.text

/-- The record of a run reads as the run. -/
theorem Document.Records.testRunOf {d : Document} {run : TestRun} (h : d.Records run)
    (now : Moment) : Repository.testRunOf now d = .ok run := by
  obtain ⟨id, fields⟩ := d
  obtain ⟨rfl, hid⟩ := h
  rw [testRunOf_document, ← hid]

/-- The document of an audit entry reads as the entry. -/
theorem Document.Notes.auditEntryOf {d : Document} {entry : AuditEntry} (h : d.Notes entry)
    (now : Moment) : Repository.auditEntryOf now d = .ok entry := by
  obtain ⟨id, fields⟩ := d
  obtain ⟨rfl, hid⟩ := h
  rw [auditEntryOf_document, ← hid]

theorem Order.arrange_nil (order : Order) : order.arrange [] = [] :=
  (Order.arrange_perm [] order).eq_nil

/-- What goes with each item of a list makes a list. -/
theorem exists_forall₂ {α β : Type} {R : α → β → Prop} {items : List α}
    (h : ∀ a ∈ items, ∃ b, R a b) : ∃ others, List.Forall₂ R items others := by
  induction items with
  | nil => exact ⟨[], .nil⟩
  | cons a rest ih =>
    obtain ⟨b, hb⟩ := h a List.mem_cons_self
    obtain ⟨others, hothers⟩ := ih fun a ha => h a (List.mem_cons_of_mem _ ha)
    exact ⟨b :: others, .cons hb hothers⟩

namespace Store

variable {s : Store} {oid : ObjectId} {id : String}

/-- The test runs that were recorded for a flow, as they are listed: the newest first. -/
def runsFor (s : Store) (oid : ObjectId) : List Document :=
  Order.arrange (s.testRuns.documents.filter (Document.names "flow_id" oid))
    (.newestFirst "created_at")

/-- The audit entries that were recorded for a run, as they are listed: the oldest first. -/
def entriesFor (s : Store) (oid : ObjectId) : List Document :=
  Order.arrange (s.executionLogs.documents.filter (Document.names "test_run_id" oid))
    (.oldestThenId "started_at")

theorem mem_runsFor {d : Document} :
    d ∈ s.runsFor oid ↔ d ∈ s.testRuns.documents ∧ d.names "flow_id" oid = true := by
  rw [runsFor, (Order.arrange_perm _ _).mem_iff, List.mem_filter]

theorem mem_entriesFor {d : Document} :
    d ∈ s.entriesFor oid ↔ d ∈ s.executionLogs.documents ∧ d.names "test_run_id" oid = true := by
  rw [entriesFor, (Order.arrange_perm _ _).mem_iff, List.mem_filter]

/-- Among documents that are filed under written forms, a search by a spelling of an id finds all
that name the id, or nothing if it is not the written form. -/
theorem find_spelled {shelf : Shelf} {field : String}
    (hwritten : ∀ d ∈ shelf.documents, ∃ t, d.fields.get? field = some (.text t) ∧
      ObjectId.IsWritten t) (hid : ObjectId.ofText? id = some oid) :
    shelf.find [.textIs field id] =
      if id = oid.text then shelf.documents.filter (Document.names field oid) else [] := by
  -- a text that stands in a record is a written form, so no other spelling is equal to it
  have hholds : ∀ d ∈ shelf.documents, (Clause.textIs field id).holds d = true ↔
      id = oid.text ∧ d.names field oid = true := by
    intro d hd
    obtain ⟨t, hget, ht⟩ := hwritten d hd
    rw [Clause.holds_textIs_iff, hget, Document.names_iff hget, Option.some.injEq,
      Value.text.injEq]
    constructor
    · rintro rfl
      exact ⟨ht.eq_text hid, hid⟩
    · rintro ⟨hsame, hnames⟩
      exact (ht.eq_text hnames).trans hsame.symm
  unfold Shelf.find
  split
  · rename_i hsame
    refine List.filter_congr fun d hd => ?_
    rw [Bool.eq_iff_iff]
    simpa [hsame] using hholds d hd
  · rename_i hother
    refine List.filter_eq_nil_iff.2 fun d hd hfound => ?_
    exact hother ((hholds d hd).1 (by simpa using hfound)).1

/-- The list of the runs of a flow is searched for by the written form of its id, or in vain. -/
theorem IsFiled.find_runs (h : s.IsFiled) (hid : ObjectId.ofText? id = some oid) :
    Order.arrange (s.testRuns.find [.textIs "flow_id" id]) (.newestFirst "created_at") =
      if id = oid.text then s.runsFor oid else [] := by
  rw [find_spelled ?_ hid, apply_ite (Order.arrange · _), Order.arrange_nil]
  · rfl
  · intro d hd
    obtain ⟨run, hfields, hflow⟩ := h.runs d hd
    exact ⟨run.flowId, by rw [hfields]; rfl, hflow⟩

/-- The audit of a run is searched for by the written form of its id, or in vain. -/
theorem IsFiled.find_entries (h : s.IsFiled) (hid : ObjectId.ofText? id = some oid) :
    Order.arrange (s.executionLogs.find [.textIs "test_run_id" id]) (.oldestThenId "started_at") =
      if id = oid.text then s.entriesFor oid else [] := by
  rw [find_spelled ?_ hid, apply_ite (Order.arrange · _), Order.arrange_nil]
  · rfl
  · intro d hd
    obtain ⟨entry, hfields, hrun⟩ := h.entries d hd
    exact ⟨entry.runId, by rw [hfields]; rfl, hrun⟩

/-- What is listed of the runs of a flow are records of test runs. -/
theorem IsFiled.exists_runs (h : s.IsFiled) (oid : ObjectId) :
    ∃ runs, List.Forall₂ Document.Records (s.runsFor oid) runs := by
  refine exists_forall₂ fun d hd => ?_
  obtain ⟨run, hfields, -⟩ := h.runs d (mem_runsFor.1 hd).1
  exact ⟨{ run with id := some d.id.text }, hfields, rfl⟩

/-- What is listed of the audit of a run are audit entries. -/
theorem IsFiled.exists_entries (h : s.IsFiled) (oid : ObjectId) :
    ∃ entries, List.Forall₂ Document.Notes (s.entriesFor oid) entries := by
  refine exists_forall₂ fun d hd => ?_
  obtain ⟨entry, hfields, -⟩ := h.entries d (mem_entriesFor.1 hd).1
  exact ⟨{ entry with id := some d.id.text }, hfields, rfl⟩

end Store

end Automation
