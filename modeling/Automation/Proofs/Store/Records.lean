import Automation.Proofs.Store.Change
import Automation.Repository.Audit
import Automation.Repository.TestRuns

/-!
# Records in the store

What the store keeps of a value does not depend on the value around it: dates lose what is finer
than a millisecond, and all else is kept as it is (`Value.kept`). So the document of a test run or
of an audit entry stays the document of one, when it is inserted and after every change that a run
or a sweep makes to it, and it is read back as what was written.
-/

set_option autoImplicit false

namespace Automation

/-! ## What is kept -/

/-- A moment as a document keeps it. -/
def Moment.kept (m : Moment) : Moment := ofInstant (cutToMillisecond m.instant)

@[simp] theorem Moment.instant_ofInstant (t : Int) : (ofInstant t).instant = t := by
  simp [instant, ofInstant]

@[simp] theorem Moment.instant_kept (m : Moment) :
    m.kept.instant = cutToMillisecond m.instant := by
  simp [kept]

theorem Moment.stored?_eq_kept {m m' : Moment} (h : m.stored? = some m') : m' = m.kept := by
  unfold stored? toUtc? at h
  split at h
  · cases h
    simp [kept]
  · cases h

/-- A moment can be kept if its instant lies in the calendar. -/
theorem Moment.isSome_stored? (m : Moment) : m.stored?.isSome = inRange m.instant := by
  unfold stored? toUtc?
  split
  · rename_i hrange
    rw [hrange]
    rfl
  · rename_i hrange
    rw [Bool.eq_false_iff.2 hrange]
    rfl

/-- Cutting to the millisecond keeps the order of instants. -/
theorem Moment.cutToMillisecond_le {t t' : Int} (h : t ≤ t') :
    cutToMillisecond t ≤ cutToMillisecond t' :=
  Int.mul_le_mul_of_nonneg_right (Int.ediv_le_ediv (by decide) h) (by decide)

namespace Value

mutual

/-- A value as a document keeps it, if it can. -/
def kept : Value → Value
  | list items => list (keptItems items)
  | record fields => record (keptFields fields)
  | date m => date m.kept
  | v => v

/-- Items as a document keeps them. -/
def keptItems : List Value → List Value
  | [] => []
  | v :: rest => v.kept :: keptItems rest

/-- Fields as a document keeps them. -/
def keptFields : List (String × Value) → List (String × Value)
  | [] => []
  | (name, v) :: rest => (name, v.kept) :: keptFields rest

end

mutual

theorem stored?_eq_kept (v : Value) {v' : Value} (h : v.stored? = .ok v') : v' = v.kept := by
  cases v with
  | int n =>
    rw [stored?] at h
    split at h <;> cases h
    rfl
  | date m =>
    rw [stored?] at h
    split at h
    · rename_i m' hm
      cases h
      rw [kept, Moment.stored?_eq_kept hm]
    · cases h
  | list items =>
    rw [stored?] at h
    cases hitems : storedItems? items with
    | error e =>
      rw [hitems] at h
      cases h
    | ok items' =>
      rw [hitems] at h
      cases h
      rw [kept, storedItems?_eq_kept items hitems]
  | record fields =>
    rw [stored?] at h
    cases hfields : storedFields? fields with
    | error e =>
      rw [hfields] at h
      cases h
    | ok fields' =>
      rw [hfields] at h
      cases h
      rw [kept, storedFields?_eq_kept fields hfields]
  | _ =>
    rw [stored?] at h
    cases h
    rfl

theorem storedItems?_eq_kept (items : List Value) {items' : List Value}
    (h : storedItems? items = .ok items') : items' = keptItems items := by
  cases items with
  | nil =>
    rw [storedItems?] at h
    cases h
    rfl
  | cons v rest =>
    rw [storedItems?] at h
    split at h
    · cases h
    · rename_i v' hv
      cases hrest : storedItems? rest with
      | error e =>
        rw [hrest] at h
        cases h
      | ok rest' =>
        rw [hrest] at h
        cases h
        rw [keptItems, ← stored?_eq_kept v hv, ← storedItems?_eq_kept rest hrest]

/-- What is kept of fields is kept of each by itself. -/
theorem storedFields?_eq_kept (fields : List (String × Value)) {fields' : List (String × Value)}
    (h : storedFields? fields = .ok fields') : fields' = keptFields fields := by
  cases fields with
  | nil =>
    rw [storedFields?] at h
    cases h
    rfl
  | cons field rest =>
    obtain ⟨name, v⟩ := field
    rw [storedFields?] at h
    split at h
    · cases h
    · split at h
      · cases h
      · rename_i v' hv
        cases hrest : storedFields? rest with
        | error e =>
          rw [hrest] at h
          cases h
        | ok rest' =>
          rw [hrest] at h
          cases h
          rw [keptFields, ← stored?_eq_kept v hv, ← storedFields?_eq_kept rest hrest]

end

@[simp] theorem kept_text (s : String) : (text s).kept = text s := by simp [kept]

theorem kept_eq_text_iff {v : Value} {s : String} : v.kept = text s ↔ v = text s := by
  cases v <;> simp [kept]

@[simp] theorem kept_ofText? (s : Option String) : (ofText? s).kept = ofText? s := by
  cases s <;> simp [ofText?, kept]

@[simp] theorem kept_date (m : Moment) : (date m).kept = date m.kept := by rw [kept]

@[simp] theorem kept_ofDate? (m : Option Moment) :
    (ofDate? m).kept = ofDate? (m.map Moment.kept) := by
  cases m <;> simp [ofDate?, kept]

end Value

@[simp] theorem Summary.kept_write (s : Summary) : s.write.kept = s.write := by
  simp [write, Value.kept, Value.keptFields]

/-! ## Test runs -/

namespace TestRun

/-- A run as a document keeps it. -/
def kept (r : TestRun) : TestRun :=
  { r with
    startedAt := r.startedAt.kept
    finishedAt := r.finishedAt.map Moment.kept
    createdAt := r.createdAt.kept
    updatedAt := r.updatedAt.kept }

/-- A run that is about to visit a node. -/
def visit (r : TestRun) (now : Moment) (node : String) : TestRun :=
  { r with currentNode := some node, updatedAt := now }

/-- A run that reached the end. -/
def complete (r : TestRun) (now finishedAt : Moment) (last : Option String) (summary : Summary) :
    TestRun :=
  { r with
    status := completed
    finishedAt := some finishedAt
    currentNode := last
    summary := some summary
    updatedAt := now }

/-- A run that stopped for a reason. -/
def fail (r : TestRun) (now finishedAt : Moment) (reason : String) (summary : Summary) : TestRun :=
  { r with
    status := failed
    finishedAt := some finishedAt
    error := some reason
    summary := some summary
    updatedAt := now }

theorem keptFields_document (r : TestRun) :
    Value.keptFields r.document = r.kept.document := by
  obtain ⟨id, flowId, recipient, status, node, startedAt, finishedAt, error, summary, createdAt,
    updatedAt⟩ := r
  cases summary <;> simp [document, kept, Value.keptFields, Value.kept]

theorem merge_visiting (r : TestRun) (now : Moment) (node : String) :
    r.document.merge
        (Value.keptFields (Fields.insert "updated_at" (.date now) (visiting node))) =
      (r.visit now.kept node).document := by
  simp [document, visit, visiting, Fields.insert, Fields.merge, Value.keptFields, Value.ofText?]

theorem merge_completing (r : TestRun) (now finishedAt : Moment) (last : Option String)
    (summary : Summary) :
    r.document.merge (Value.keptFields
        (Fields.insert "updated_at" (.date now) (completing finishedAt last summary))) =
      (r.complete now.kept finishedAt.kept last summary).document := by
  simp [document, complete, completing, Fields.insert, Fields.merge, Value.keptFields,
    Value.ofDate?]

theorem merge_failing (r : TestRun) (now finishedAt : Moment) (reason : String)
    (summary : Summary) :
    r.document.merge (Value.keptFields
        (Fields.insert "updated_at" (.date now) (failing finishedAt reason summary))) =
      (r.fail now.kept finishedAt.kept reason summary).document := by
  simp [document, fail, failing, Fields.insert, Fields.merge, Value.keptFields, Value.ofDate?,
    Value.ofText?]

end TestRun

/-! ## Audit entries -/

namespace AuditEntry

/-- An entry as a document keeps it. -/
def kept (e : AuditEntry) : AuditEntry :=
  { e with startedAt := e.startedAt.kept, finishedAt := e.finishedAt.map Moment.kept }

/-- The entry of a visit that ended. -/
def finish (e : AuditEntry) (now : Moment) (status : String) (message : Option String) :
    AuditEntry :=
  { e with status, message, finishedAt := some now }

theorem keptFields_document (e : AuditEntry) :
    Value.keptFields e.document = e.kept.document := by
  simp [document, kept, Value.keptFields]

theorem merge_finishing (e : AuditEntry) (now : Moment) (status : String)
    (message : Option String) :
    e.document.merge
        (Value.keptFields (finishing now (.text status) (.ofText? message))) =
      (e.finish now.kept status message).document := by
  simp [document, finish, finishing, Fields.insert, Fields.merge, Value.keptFields,
    Value.ofDate?]

end AuditEntry

/-! ## Reading back -/

namespace Checked

variable {α β : Type}

@[simp] theorem map_ok (f : α → β) (a : α) : f <$> (ok a : Checked α) = ok (f a) := rfl

@[simp] theorem seq_ok (f : α → β) (a : α) :
    (ok f : Checked (α → β)) <*> (ok a : Checked α) = ok (f a) := rfl

theorem map_eq_ok {f : α → β} {a : Checked α} {b : β} :
    f <$> a = ok b ↔ ∃ x, a = ok x ∧ f x = b := by
  cases a with
  | ok x => simp
  | refused issues =>
    constructor
    · intro h
      cases h
    · rintro ⟨x, hx, -⟩
      cases hx

theorem seq_eq_ok {f : Checked (α → β)} {a : Checked α} {b : β} :
    f <*> a = ok b ↔ ∃ g, f = ok g ∧ ∃ x, a = ok x ∧ g x = b := by
  cases f with
  | ok g =>
    have hmap : (ok g : Checked (α → β)) <*> a = g <$> a := by cases a <;> rfl
    simp [hmap, map_eq_ok]
  | refused issues =>
    constructor
    · intro h
      cases a <;> cases h
    · rintro ⟨g, hg, -⟩
      cases hg

/-- What the values of a first part have, whatever follows, the values of both parts have. -/
theorem forall_of_seq {f : Checked (α → β)} {a : Checked α} {P : β → Prop}
    (h : ∀ g, f = ok g → ∀ x, P (g x)) : ∀ b, f <*> a = ok b → P b := by
  intro b hb
  obtain ⟨g, hg, x, -, rfl⟩ := seq_eq_ok.1 hb
  exact h g hg x

@[simp] theorem inside_ok (part : PathPart) (a : α) : (ok a : Checked α).inside part = ok a := rfl

end Checked

namespace Reader

@[simp] theorem optional_ofText? (s : Option String) :
    optional text (Value.ofText? s) = .ok s := by
  cases s <;> rfl

@[simp] theorem optional_ofDate? (m : Option Moment) :
    optional moment (Value.ofDate? m) = .ok m := by
  cases m <;> rfl

@[simp] theorem text_text (s : String) : text (.text s) = .ok s := rfl

@[simp] theorem moment_date (m : Moment) : moment (.date m) = .ok m := rfl

end Reader

@[simp] theorem Summary.read_write (s : Summary) : read s.write = .ok s := by
  simp [read, write, Reader.record, Reader.withDefault, Reader.optionalField, Reader.integer,
    Fields.get?_cons]

theorem Summary.read_optional (s : Option Summary) :
    Reader.optional read ((s.map write).getD .null) = .ok s := by
  cases s with
  | none => rfl
  | some s =>
    show (read s.write).map some = .ok (some s)
    rw [read_write]
    rfl

/-- What is read from a document is what its fields read as. -/
theorem Repository.readAs_eq_ok {α : Type} {type : String} {c : Checked α} {a : α} :
    readAs type c = .ok a ↔ c = .ok a := by
  cases c with
  | ok x => simp [readAs, Checked.toExcept, Except.mapError]
  | refused issues => simp [readAs, Checked.toExcept, Except.mapError]

/-- The document of a test run reads back as the run. -/
theorem testRunOf_document (now : Moment) (id : ObjectId) (r : TestRun) :
    Repository.testRunOf now ⟨id, r.document⟩ = .ok { r with id := some id.text } := by
  simp [Repository.testRunOf, Repository.readAs, TestRun.readFields, Document.named,
    TestRun.document, Fields.insert, Fields.get?_cons, Reader.optionalField, Reader.withDefault,
    Reader.required, Summary.read_optional]
  rfl

/-- A test run that was read has the id that the fields tell. -/
theorem TestRun.id_of_readFields {now : Moment} {fields : Fields} {text : String}
    (htext : fields.get? "id" = some (.text text)) :
    ∀ run, readFields now fields = .ok run → run.id = some text := by
  unfold readFields
  -- the id is read first, and no other field bears on it
  iterate 10 refine Checked.forall_of_seq ?_
  intro g hg
  obtain ⟨id, hid, rfl⟩ := Checked.map_eq_ok.1 hg
  rw [Reader.optionalField, Reader.withDefault, htext] at hid
  cases hid
  intros
  rfl

/-- A test run that was read has the id of its document. -/
theorem id_of_testRunOf {now : Moment} {d : Document} {run : TestRun}
    (h : Repository.testRunOf now d = .ok run) : run.id = some d.id.text := by
  have hnamed : d.named.get? "id" = some (.text d.id.text) := by
    rw [Document.named, Fields.get?_insert, if_pos rfl]
  exact TestRun.id_of_readFields hnamed run (Repository.readAs_eq_ok.1 h)

/-- The document of an audit entry reads back as the entry. -/
theorem auditEntryOf_document (now : Moment) (id : ObjectId) (e : AuditEntry) :
    Repository.auditEntryOf now ⟨id, e.document⟩ = .ok { e with id := some id.text } := by
  simp [Repository.auditEntryOf, Repository.readAs, AuditEntry.readFields, Document.named,
    AuditEntry.document, Fields.insert, Fields.get?_cons, Reader.optionalField,
    Reader.withDefault, Reader.required]
  rfl

end Automation
