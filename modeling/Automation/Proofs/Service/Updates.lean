import Automation.Proofs.Store.Naming
import Automation.Proofs.Store.Records

/-!
# Updates of test runs

The record of a test run is written in three ways only: a visit is noted, or the run is completed,
or it is failed. Each update of a coherent record that still counts as running gives a coherent
record, and no update but an end changes what it counts as (`Update.isCoherent`). So a collection of
coherent records stays one under updates of running records, and the records that have ended stay as
they are (`IsRegister.change`).
-/

set_option autoImplicit false

namespace Automation

namespace TestRun

/-- What the record of a run holds at each time: a run that has not ended has no end and no summary;
one that reached the end has both, and no error; one that failed has both, and the reason in both
places. -/
def IsCoherent (r : TestRun) : Prop :=
  (r.status = running ∧ r.finishedAt = none ∧ r.error = none ∧ r.summary = none) ∨
  (r.status = completed ∧ r.finishedAt.isSome ∧ r.error = none ∧
    ∃ summary, r.summary = some summary ∧ summary.failureReason = none) ∨
  (r.status = failed ∧ r.finishedAt.isSome ∧ ∃ reason summary, reason ≠ "" ∧
    r.error = some reason ∧ r.summary = some summary ∧ summary.failureReason = some reason)

/-- The record of a run that counts as running and says nothing of an end. -/
structure IsUnended (run : TestRun) : Prop where
  status : run.status = running
  finishedAt : run.finishedAt = none
  error : run.error = none
  summary : run.summary = none

theorem IsCoherent.isUnended {run : TestRun} (h : run.IsCoherent)
    (hrunning : run.status = running) : run.IsUnended := by
  rcases h with ⟨hstatus, hfinished, herror, hsummary⟩ | ⟨hstatus, -⟩ | ⟨hstatus, -⟩
  · exact ⟨hstatus, hfinished, herror, hsummary⟩
  · rw [hstatus] at hrunning
    exact absurd hrunning (by decide)
  · rw [hstatus] at hrunning
    exact absurd hrunning (by decide)

/-- A run that begins has a coherent record. -/
theorem isCoherent_begin (flowId recipient node : String) (now : Moment) :
    (begin flowId recipient node now).kept.IsCoherent ∧
      (begin flowId recipient node now).kept.status = running :=
  ⟨Or.inl ⟨rfl, rfl, rfl, rfl⟩, rfl⟩

/-- What is written to the record of a run. -/
inductive Update where
  | visit (node : String)
  | complete (finishedAt : Moment) (last : Option String) (summary : Summary)
  | fail (finishedAt : Moment) (reason : String) (summary : Summary)

namespace Update

/-- The fields that an update at a time sets. -/
def fields (now : Moment) (u : Update) : Fields :=
  Fields.insert "updated_at" (.date now) <|
    match u with
    | visit node => visiting node
    | complete finishedAt last summary => completing finishedAt last summary
    | fail finishedAt reason summary => failing finishedAt reason summary

/-- Whether an update ends the run. -/
def isEnd : Update → Bool
  | visit _ => false
  | _ => true

/-- An update that fits the record of a run: only a failure has a reason, and it has the same one in
both places. -/
def IsSound : Update → Prop
  | visit _ => True
  | complete _ _ summary => summary.failureReason = none
  | fail _ reason summary => reason ≠ "" ∧ summary.failureReason = some reason

/-- A run after an update, as a document keeps it. -/
def apply (now : Moment) (r : TestRun) : Update → TestRun
  | visit node => r.visit now.kept node
  | complete finishedAt last summary => r.complete now.kept finishedAt.kept last summary
  | fail finishedAt reason summary => r.fail now.kept finishedAt.kept reason summary

variable {r : TestRun} {u : Update}

theorem merge_fields (now : Moment) (r : TestRun) (u : Update) :
    r.document.merge (Value.keptFields (u.fields now)) = (u.apply now r).document := by
  cases u with
  | visit node => exact merge_visiting r now node
  | complete finishedAt last summary => exact merge_completing r now finishedAt last summary
  | fail finishedAt reason summary => exact merge_failing r now finishedAt reason summary

/-- An update sets the status exactly when it ends the run. -/
theorem isSome_status (now : Moment) (u : Update) :
    ((u.fields now).get? "status").isSome = u.isEnd := by
  cases u <;> rfl

/-- An update of a running record gives a coherent record, which counts as running unless the update
ends the run. -/
theorem isCoherent (now : Moment) (h : r.IsCoherent) (hrunning : r.status = running)
    (hu : u.IsSound) :
    (u.apply now r).IsCoherent ∧ ((u.apply now r).status = running ↔ u.isEnd = false) := by
  rcases h with ⟨hstatus, hfinished, herror, hsummary⟩ | ⟨hstatus, -⟩ | ⟨hstatus, -⟩
  · cases u with
    | visit node => exact ⟨Or.inl ⟨hstatus, hfinished, herror, hsummary⟩, iff_of_true hrunning rfl⟩
    | complete finishedAt last summary =>
      refine ⟨Or.inr (Or.inl ⟨rfl, rfl, herror, summary, rfl, hu⟩), iff_of_false ?_ nofun⟩
      show completed ≠ running
      decide
    | fail finishedAt reason summary =>
      refine ⟨Or.inr (Or.inr ⟨rfl, rfl, reason, summary, hu.1, rfl, rfl, hu.2⟩),
        iff_of_false ?_ nofun⟩
      show failed ≠ running
      decide
  · rw [hstatus] at hrunning
    exact absurd hrunning (by decide)
  · rw [hstatus] at hrunning
    exact absurd hrunning (by decide)

end Update

end TestRun

/-! ## Documents -/

/-- A document that counts as running. -/
def Document.IsRunning (d : Document) : Prop :=
  d.fields.get? "status" = some (.text TestRun.running)

theorem Document.isRunning_iff {d : Document} {r : TestRun} (h : d.fields = r.document) :
    d.IsRunning ↔ r.status = TestRun.running := by
  have hstatus : d.fields.get? "status" = some (.text r.status) := by
    rw [h]
    simp [TestRun.document, Fields.get?_cons]
  rw [IsRunning, hstatus]
  simp

namespace Shelf

open TestRun (Update)

/-- A collection of coherent records under ids that were given out once each. -/
structure IsRegister (s : Shelf) : Prop where
  records : ∀ d ∈ s.documents, ∃ r : TestRun, d.fields = r.document ∧ r.IsCoherent
  nodup : (s.documents.map Document.id).Nodup
  given : ∀ d ∈ s.documents, ∃ n ≤ s.lastNumber, d.id = Collection.testRuns.numbered n

theorem isRegister_of_nil {s : Shelf} (h : s.documents = []) : s.IsRegister where
  records d hd := absurd (h ▸ hd) List.not_mem_nil
  nodup := by
    rw [h]
    exact List.nodup_nil
  given d hd := absurd (h ▸ hd) List.not_mem_nil

/-- A later state of a collection: every document is there, and one that does not count as running
is as it was. -/
structure Precedes (s s' : Shelf) : Prop where
  lastNumber : s.lastNumber ≤ s'.lastNumber
  documents : ∀ d ∈ s.documents, ∃ d' ∈ s'.documents, d'.id = d.id ∧ (¬ d.IsRunning → d' = d)

variable {s s' s'' : Shelf} {oid : ObjectId}

theorem Precedes.refl (s : Shelf) : s.Precedes s :=
  ⟨Nat.le_refl _, fun d hd => ⟨d, hd, rfl, fun _ => rfl⟩⟩

theorem Precedes.trans (h : s.Precedes s') (h' : s'.Precedes s'') : s.Precedes s'' := by
  refine ⟨Nat.le_trans h.lastNumber h'.lastNumber, fun d hd => ?_⟩
  obtain ⟨d', hd', hid', heq'⟩ := h.documents d hd
  obtain ⟨d'', hd'', hid'', heq''⟩ := h'.documents d' hd'
  refine ⟨d'', hd'', hid''.trans hid', fun hended => ?_⟩
  obtain rfl := heq' hended
  exact heq'' hended

theorem IsRegister.isNumbered (h : s.IsRegister) : s.IsNumbered .testRuns := ⟨h.nodup, h.given⟩

/-- In a register an id names one document. -/
theorem IsRegister.eq_of_id_eq (h : s.IsRegister) {d d' : Document} (hd : d ∈ s.documents)
    (hd' : d' ∈ s.documents) (hid : d.id = d'.id) : d = d' :=
  List.inj_on_of_nodup_map h.nodup hd hd' hid

/-- What an update of a running record does: there is still a register, only the record of the run
is touched, and it counts as running unless the update ends the run. -/
structure Updates (s : Shelf) (oid : ObjectId) (u : Update) (s' : Shelf) : Prop where
  register : s'.IsRegister
  precedes : s.Precedes s'
  lastNumber : s'.lastNumber = s.lastNumber
  own : ∀ d ∈ s'.documents, d.id = oid → (d.IsRunning ↔ u.isEnd = false)
  others : ∀ d : Document, d.id ≠ oid → (d ∈ s'.documents ↔ d ∈ s.documents)

theorem IsRegister.change (h : s.IsRegister) (now : Moment) {u : Update} (hu : u.IsSound)
    (hrunning : ∀ d ∈ s.documents, d.id = oid → d.IsRunning) :
    s.Updates oid u (s.change oid (Value.keptFields (u.fields now))) := by
  -- what becomes of a record that the update is meant for
  have hupdated : ∀ d ∈ s.documents, d.id = oid → ∃ r : TestRun,
      (d.updated (Value.keptFields (u.fields now))).fields = r.document ∧ r.IsCoherent ∧
        ((d.updated (Value.keptFields (u.fields now))).IsRunning ↔ u.isEnd = false) := by
    intro d hd hid
    obtain ⟨r, hfields, hcoherent⟩ := h.records d hd
    have hstatus := (Document.isRunning_iff hfields).1 (hrunning d hd hid)
    obtain ⟨hafter, hend⟩ := Update.isCoherent now hcoherent hstatus hu
    have hfields' : (d.updated (Value.keptFields (u.fields now))).fields =
        (u.apply now r).document := by
      rw [Document.updated, hfields, Update.merge_fields]
    exact ⟨_, hfields', hafter, (Document.isRunning_iff hfields').trans hend⟩
  have hids := h.isNumbered.change oid (Value.keptFields (u.fields now))
  refine ⟨⟨?_, hids.nodup, hids.given⟩, ⟨Nat.le_refl _, ?_⟩, rfl, ?_,
    fun d hid => mem_change_iff_of_ne hid⟩
  · intro d' hd'
    obtain ⟨d, hd, -, ⟨hid, rfl⟩ | ⟨-, rfl⟩⟩ := mem_change hd'
    · obtain ⟨r, hfields, hcoherent, -⟩ := hupdated d hd hid
      exact ⟨r, hfields, hcoherent⟩
    · exact h.records d' hd
  · intro d hd
    refine ⟨_, List.mem_map_of_mem hd, ?_, fun hended => ?_⟩
    · split <;> rfl
    · rw [if_neg fun hid => hended (hrunning d hd hid)]
  · intro d' hd' hid'
    obtain ⟨d, hd, hsame, ⟨hid, rfl⟩ | ⟨hid, -⟩⟩ := mem_change hd'
    · obtain ⟨r, -, -, hend⟩ := hupdated d hd hid
      exact hend
    · exact absurd (hsame.symm.trans hid') hid

/-- A new record under an id that was never given out keeps a register. -/
theorem IsRegister.insert (h : s.IsRegister) {n : Nat} (hn : s.lastNumber < n) {r : TestRun}
    (hr : r.IsCoherent) :
    let s' : Shelf := ⟨s.documents ++ [⟨Collection.testRuns.numbered n, r.document⟩], n⟩
    s'.IsRegister ∧ s.Precedes s' := by
  have hids := h.isNumbered.concat hn r.document
  refine ⟨⟨?_, hids.nodup, hids.given⟩, ⟨Nat.le_of_lt hn, ?_⟩⟩
  · intro d hd
    rcases List.mem_append.1 hd with hd | hd
    · exact h.records d hd
    · rw [List.mem_singleton.1 hd]
      exact ⟨r, rfl, hr⟩
  · exact fun d hd => ⟨d, List.mem_append_left _ hd, rfl, fun _ => rfl⟩

end Shelf

end Automation
