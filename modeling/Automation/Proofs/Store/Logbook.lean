import Automation.Proofs.Store.Evolution
import Automation.Proofs.World.Performance

/-!
# The log of a run

The audit entries of a run, in the order in which they were made, with the newest one first: each
has an id of its own, greater than all before it, and began no earlier than the ones before it. A
new entry comes in front, the change of an entry leaves the others alone, and the audit entries of
the run are read back in the order in which they were made, since that is the order by time and id
(`Logs.read`).
-/

set_option autoImplicit false

namespace Automation

/-! ## Searches -/

/-- A new document is found if it has what is searched for. -/
theorem Shelf.find_concat (documents : List Document) (d : Document) (n n' : Nat)
    (filter : List Clause) : (⟨documents ++ [d], n⟩ : Shelf).find filter =
      (⟨documents, n'⟩ : Shelf).find filter ++ if filter.all (·.holds d) then [d] else [] := by
  simp only [find, List.filter_append, List.filter_cons, List.filter_nil]

/-- A change that leaves a field alone does not bear on a search by the field: what is found is the
same, but for the document that is changed. -/
theorem Shelf.find_change (s : Shelf) (id : ObjectId) {changes : Fields} {field t : String}
    (h : changes.get? field = none) :
    (s.change id changes).find [.textIs field t] =
      (s.find [.textIs field t]).map fun d => if d.id = id then d.updated changes else d := by
  have hholds : ∀ d : Document, Clause.holds (d.updated changes) (.textIs field t) =
      Clause.holds d (.textIs field t) := by
    intro d
    have hsame : (d.updated changes).fields.get? field = d.fields.get? field :=
      Fields.get?_merge_of_none h
    rw [Bool.eq_iff_iff, Clause.holds_textIs_iff, Clause.holds_textIs_iff, hsame]
  unfold find change
  rw [List.filter_map]
  congr 1
  refine List.filter_congr fun d _ => ?_
  simp only [Function.comp_apply, List.all_cons, List.all_nil, Bool.and_true]
  split
  · exact hholds d
  · rfl

/-- An order lists what it is given. -/
theorem Order.arrange_perm (docs : List Document) (order : Order) :
    (order.arrange docs).Perm docs := by
  cases order with
  | insertion => exact .refl _
  | newestFirst field => exact List.mergeSort_perm ..
  | oldestThenId field => exact List.mergeSort_perm ..

/-- The instants of two documents, or their ids if these are the same, are in order. -/
def Order.Precedes (field : String) (d d' : Document) : Prop :=
  ∃ m m' : Moment, d.fields.get? field = some (.date m) ∧ d'.fields.get? field = some (.date m') ∧
    m.instant ≤ m'.instant ∧ d.id.number ≤ d'.id.number

/-- Documents in order stay in order. -/
theorem Order.arrange_of_pairwise {field : String} {docs : List Document}
    (h : docs.Pairwise (Order.Precedes field)) :
    Order.arrange docs (.oldestThenId field) = docs := by
  refine List.mergeSort_of_pairwise (h.imp fun {d d'} hd => ?_)
  obtain ⟨m, m', hm, hm', hle, hid⟩ := hd
  simp only [Order.key, hm, hm', Order.atMost, decide_eq_true hle, Bool.true_and]
  split
  · exact decide_eq_true hid
  · rfl

/-! ## Logs -/

namespace AuditEntry

/-- An entry of a log as a document. -/
def under (e : AuditEntry) (id : ObjectId) : Document := ⟨id, e.document⟩

/-- The entries of a log as they are listed, the oldest first. -/
def listing (log : List (ObjectId × AuditEntry)) : List AuditEntry :=
  log.reverse.map fun x => { x.2 with id := some x.1.text }

theorem listing_cons (x : ObjectId × AuditEntry) (log : List (ObjectId × AuditEntry)) :
    listing (x :: log) = listing log ++ [{ x.2 with id := some x.1.text }] := by
  simp [listing]

@[simp] theorem length_listing (log : List (ObjectId × AuditEntry)) :
    (listing log).length = log.length := by
  simp [listing]

/-- What all entries of a log have, whatever their ids are, all entries of its list have. -/
theorem forall_mem_listing {P : AuditEntry → Prop} {log : List (ObjectId × AuditEntry)}
    (hP : ∀ (e : AuditEntry) id, P e → P { e with id := id }) (h : ∀ x ∈ log, P x.2) :
    ∀ e ∈ listing log, P e := by
  intro e he
  obtain ⟨x, hx, rfl⟩ := List.mem_map.1 he
  exact hP x.2 _ (h x (List.mem_reverse.1 hx))

end AuditEntry

namespace Store

/-- The log of a run, the newest entry first. -/
structure Logs (s : Store) (runId : String) (log : List (ObjectId × AuditEntry)) : Prop where
  found : s.executionLogs.find [.textIs "test_run_id" runId] =
    log.reverse.map fun x => x.2.under x.1
  own : ∀ d ∈ s.executionLogs.documents, ∀ x ∈ log, d.id = x.1 → d = x.2.under x.1
  given : ∀ x ∈ log, ∃ n ≤ s.executionLogs.lastNumber, x.1 = Collection.executionLogs.numbered n
  sorted : log.Pairwise fun later earlier => earlier.1.number < later.1.number ∧
    earlier.2.startedAt.instant ≤ later.2.startedAt.instant

variable {s s' : Store} {runId : String} {log : List (ObjectId × AuditEntry)} {oid : ObjectId}
  {e : AuditEntry}

theorem Logs.congr (h : s.Logs runId log) (hlogs : s'.executionLogs = s.executionLogs) :
    s'.Logs runId log :=
  ⟨by rw [hlogs]; exact h.found, by rw [hlogs]; exact h.own, by rw [hlogs]; exact h.given, h.sorted⟩

/-- The entries of a log are among the documents. -/
theorem Logs.mem (h : s.Logs runId log) {x : ObjectId × AuditEntry} (hx : x ∈ log) :
    x.2.under x.1 ∈ s.executionLogs.documents ∧
      (x.2.under x.1).fields.get? "test_run_id" = some (.text runId) := by
  have hfound : x.2.under x.1 ∈ s.executionLogs.find [.textIs "test_run_id" runId] := by
    rw [h.found]
    exact List.mem_map_of_mem (List.mem_reverse.2 hx)
  obtain ⟨hmem, hclause⟩ := List.mem_filter.1 hfound
  rw [List.all_cons, List.all_nil, Bool.and_true, Clause.holds_textIs_iff] at hclause
  exact ⟨hmem, hclause⟩

/-- The ids of a log come before the next one. -/
theorem Logs.lt_fresh (h : s.Logs runId log) {x : ObjectId × AuditEntry} (hx : x ∈ log) :
    ∃ n < s.freshNumber .executionLogs, x.1 = Collection.executionLogs.numbered n := by
  obtain ⟨n, hn, hgiven⟩ := h.given x hx
  exact ⟨n, Nat.lt_of_le_of_lt hn (s.lastNumber_lt_freshNumber .executionLogs), hgiven⟩

/-- A document with the next id is none of the log. -/
theorem Logs.own_append (h : s.Logs runId log) {d : Document} {fields : Fields}
    (hd : d ∈ s.executionLogs.documents ++
      [⟨Collection.executionLogs.numbered (s.freshNumber .executionLogs), fields⟩])
    {x : ObjectId × AuditEntry} (hx : x ∈ log) (hid : d.id = x.1) : d = x.2.under x.1 := by
  rcases List.mem_append.1 hd with hd | hd
  · exact h.own d hd x hx hid
  · obtain ⟨n, hn, hgiven⟩ := h.lt_fresh hx
    rw [List.mem_singleton.1 hd, hgiven] at hid
    have hsame := Collection.numbered_injective hid
    omega

/-- A new entry comes in front. -/
theorem Logs.enter (h : s.Logs runId log) {y : Option ObjectId}
    (hy : s.answer (.insert .executionLogs e.document) = .ok (y, s')) (hrun : e.runId = runId)
    (hlater : ∀ x ∈ log, x.2.startedAt.instant ≤ e.kept.startedAt.instant) :
    ∃ oid, y = some oid ∧ s'.testRuns = s.testRuns ∧ s'.Logs runId ((oid, e.kept) :: log) := by
  obtain ⟨rfl, rfl⟩ := answer_insert hy
  rw [AuditEntry.keptFields_document]
  refine ⟨_, rfl, rfl, ⟨?_, ?_, ?_, ?_⟩⟩
  · -- the new document answers the search
    have hnew : Clause.holds (⟨Collection.executionLogs.numbered (s.freshNumber .executionLogs),
        e.kept.document⟩ : Document) (.textIs "test_run_id" runId) = true := by
      rw [Clause.holds_textIs_iff, ← hrun]
      rfl
    refine (Shelf.find_concat _ _ _ s.executionLogs.lastNumber _).trans ?_
    rw [List.all_cons, List.all_nil, Bool.and_true, if_pos hnew, List.reverse_cons, List.map_append]
    exact congrArg (· ++ _) h.found
  · intro d hd x hx hid
    rcases List.mem_cons.1 hx with rfl | hx
    · rcases List.mem_append.1 hd with hd | hd
      · exact absurd hid (id_ne_fresh hd)
      · exact List.mem_singleton.1 hd
    · exact h.own_append hd hx hid
  · intro x hx
    rcases List.mem_cons.1 hx with rfl | hx
    · exact ⟨_, Nat.le_refl _, rfl⟩
    · obtain ⟨n, hn, hgiven⟩ := h.lt_fresh hx
      exact ⟨n, Nat.le_of_lt hn, hgiven⟩
  · refine List.pairwise_cons.2 ⟨fun x hx => ⟨?_, hlater x hx⟩, h.sorted⟩
    obtain ⟨n, hn, hgiven⟩ := h.lt_fresh hx
    rw [hgiven]
    exact Collection.numbered_lt hn

/-- The end of the visit that began last is noted in its entry. -/
theorem Logs.finish (h : s.Logs runId ((oid, e) :: log)) {now : Moment} {status : String}
    {message : Option String} {y : Option Document}
    (hy : s.answer (.change .executionLogs oid
      (AuditEntry.finishing now (.text status) (.ofText? message))) = .ok (y, s')) :
    s'.testRuns = s.testRuns ∧
      s'.executionLogs.lastNumber = s.executionLogs.lastNumber ∧
      s'.Logs runId ((oid, e.finish now.kept status message) :: log) := by
  have hsorted := List.pairwise_cons.1 h.sorted
  have hother : ∀ x ∈ log, x.1 ≠ oid := by
    intro x hx heq
    have hlt := (hsorted.1 x hx).1
    rw [heq] at hlt
    exact Nat.lt_irrefl _ hlt
  have hupdated : (e.under oid).updated (Value.keptFields
      (AuditEntry.finishing now (.text status) (.ofText? message))) =
        (e.finish now.kept status message).under oid := by
    rw [Document.updated, AuditEntry.under, AuditEntry.merge_finishing]
    rfl
  obtain rfl := answer_change hy
  refine ⟨rfl, rfl, ⟨?_, ?_, ?_, List.pairwise_cons.2 hsorted⟩⟩
  · -- the change does not bear on which run an entry is of
    have hspares : Fields.get? (Value.keptFields (AuditEntry.finishing now (.text status)
        (.ofText? message))) "test_run_id" = none := Fields.get?_keptFields_of_none rfl
    show (s.executionLogs.change oid _).find _ = _
    rw [Shelf.find_change _ _ hspares, h.found, List.map_map, List.reverse_cons,
      List.reverse_cons, List.map_append, List.map_append]
    congr 1
    · refine List.map_congr_left fun x hx => ?_
      exact if_neg (hother x (List.mem_reverse.1 hx))
    · exact congrArg (fun d => [d]) ((if_pos rfl).trans hupdated)
  · intro d hd x hx hid
    obtain ⟨d', hd', hsame, ⟨hoid, rfl⟩ | ⟨hoid, rfl⟩⟩ := Shelf.mem_change hd
    · rcases List.mem_cons.1 hx with rfl | hx
      · rw [h.own d' hd' _ List.mem_cons_self hoid, hupdated]
      · exact absurd (hid.symm.trans (hsame.trans hoid)) (hother x hx)
    · rcases List.mem_cons.1 hx with rfl | hx
      · exact absurd hid hoid
      · exact h.own d hd' x (List.mem_cons_of_mem _ hx) hid
  · intro x hx
    rcases List.mem_cons.1 hx with rfl | hx
    · exact h.given (oid, e) List.mem_cons_self
    · exact h.given x (List.mem_cons_of_mem _ hx)

/-! ## Others -/

/-- A query of somebody who leaves the records of a run alone: the test run, and the audit entries
that tell of it. -/
def SparesRun (runId : String) (id : ObjectId) (s : Store) : Query → Prop
  | .insert .executionLogs fields => fields.get? "test_run_id" ≠ some (.text runId)
  | .change .executionLogs oid changes | .update .executionLogs oid changes =>
    changes.get? "test_run_id" = none ∧ ∀ d ∈ s.executionLogs.documents, d.id = oid →
      d.fields.get? "test_run_id" ≠ some (.text runId)
  | .change .testRuns oid _ | .update .testRuns oid _ => oid ≠ id
  | .delete c _ => c = .flows
  | _ => True

/-- The audit entries of a run are found as before after queries that spare its records. -/
theorem find_spared {id : ObjectId} {q : Query} {y : q.Answer} (hq : s.SparesRun runId id q)
    (hy : s.answer q = .ok (y, s')) :
    s'.executionLogs.find [.textIs "test_run_id" runId] =
      s.executionLogs.find [.textIs "test_run_id" runId] := by
  cases answer_executionLogs hy with
  | same heq => rw [heq]
  | inserted fields heq hinsert =>
    subst hinsert
    -- the new document tells of another run
    have hnew : Clause.holds (⟨Collection.executionLogs.numbered (s.freshNumber .executionLogs),
        Value.keptFields fields⟩ : Document) (.textIs "test_run_id" runId) = false := by
      rw [Bool.eq_false_iff, ne_eq, Clause.holds_textIs_iff, Fields.get?_keptFields]
      intro hkept
      obtain ⟨v, hv, htext⟩ := Option.map_eq_some_iff.1 hkept
      rw [Value.kept_eq_text_iff.1 htext] at hv
      exact hq hv
    rw [heq, Shelf.find_concat _ _ _ s.executionLogs.lastNumber, List.all_cons, hnew]
    exact List.append_nil _
  | changed other changes heq hset =>
    have hspares : changes.get? "test_run_id" = none ∧ ∀ d ∈ s.executionLogs.documents,
        d.id = other → d.fields.get? "test_run_id" ≠ some (.text runId) := by
      rcases hset with rfl | rfl <;> exact hq
    rw [heq, Shelf.find_change _ _ (Fields.get?_keptFields_of_none hspares.1)]
    refine (List.map_congr_left fun d hd => ?_).trans (List.map_id' _)
    obtain ⟨hmem, hrun⟩ := List.mem_filter.1 hd
    rw [List.all_cons, List.all_nil, Bool.and_true, Clause.holds_textIs_iff] at hrun
    exact if_neg fun hid => hspares.2 d hmem hid hrun
  | deleted other heq hdelete =>
    subst hdelete
    cases hq

/-- The log of a run is not touched by queries that spare its records. -/
theorem Logs.spared (h : s.Logs runId log) {id : ObjectId} {q : Query} {y : q.Answer}
    (hq : s.SparesRun runId id q) (hy : s.answer q = .ok (y, s')) : s'.Logs runId log := by
  have hfound := (find_spared hq hy).trans h.found
  cases answer_executionLogs hy with
  | same heq => exact h.congr heq
  | inserted fields heq hinsert =>
    refine ⟨hfound, fun d hd x hx hid => ?_, fun x hx => ?_, h.sorted⟩
    · rw [heq] at hd
      exact h.own_append hd hx hid
    · obtain ⟨n, hn, hgiven⟩ := h.lt_fresh hx
      exact ⟨n, by rw [heq]; exact Nat.le_of_lt hn, hgiven⟩
  | changed other changes heq hset =>
    have hspares : ∀ d ∈ s.executionLogs.documents, d.id = other →
        d.fields.get? "test_run_id" ≠ some (.text runId) := by
      rcases hset with rfl | rfl <;> exact hq.2
    refine ⟨hfound, fun d hd x hx hid => ?_, fun x hx => ?_, h.sorted⟩
    · rw [heq] at hd
      obtain ⟨d', hd', hsame, ⟨hchanged, -⟩ | ⟨-, rfl⟩⟩ := Shelf.mem_change hd
      · -- an entry of the log tells of this run, so it is not the one that is changed
        obtain ⟨hmem, hrun⟩ := h.mem hx
        exact absurd hrun (hspares _ hmem (hid.symm.trans (hsame.trans hchanged)))
      · exact h.own d hd' x hx hid
    · rw [heq]
      exact h.given x hx
  | deleted other heq hdelete =>
    subst hdelete
    cases hq

/-- The record of a run is not touched by queries that spare its records. -/
theorem findOne_spared {id : ObjectId} {d : Document} {q : Query} {y : q.Answer}
    (hq : s.SparesRun runId id q) (hy : s.answer q = .ok (y, s'))
    (hd : s.testRuns.findOne [.idIs id] = some d) : s'.testRuns.findOne [.idIs id] = some d := by
  cases answer_testRuns hy with
  | same heq => rw [heq, hd]
  | inserted fields heq hinsert =>
    rw [heq, Shelf.findOne, List.find?_append, ← Shelf.findOne, hd]
    rfl
  | changed other changes heq hset =>
    have hother : other ≠ id := by
      rcases hset with rfl | rfl <;> exact hq
    rw [heq, Shelf.findOne_change_of_ne _ hother, hd]
  | deleted other heq hdelete =>
    subst hdelete
    cases hq

theorem Logs.evolves {id : ObjectId} (h : s.Logs runId log)
    (hs : s.Evolves (SparesRun runId id) s') : s'.Logs runId log :=
  hs.keeps (fun hq hy h => Logs.spared h hq hy) h

theorem findOne_evolves {id : ObjectId} {d : Document} (hs : s.Evolves (SparesRun runId id) s')
    (hd : s.testRuns.findOne [.idIs id] = some d) : s'.testRuns.findOne [.idIs id] = some d :=
  hs.keeps findOne_spared hd

/-! ## Reading -/

/-- The audit entries of a run are those of its log, the oldest first. -/
theorem Logs.read (h : s.Logs runId log) {w : World} (hw : w.Holds s) :
    (w.perform (Repository.getAuditEntries runId)).1 =
      .done (AuditEntry.listing log) := by
  refine World.perform_getAuditEntries hw fun now => ?_
  have hordered :
      (log.reverse.map fun x => x.2.under x.1).Pairwise (Order.Precedes "started_at") := by
    rw [List.pairwise_map, List.pairwise_reverse]
    refine h.sorted.imp fun {later earlier} hle => ?_
    exact ⟨_, _, rfl, rfl, hle.2, Nat.le_of_lt hle.1⟩
  rw [h.found, Order.arrange_of_pairwise hordered, AuditEntry.listing]
  induction log.reverse with
  | nil => rfl
  | cons x rest ih =>
    rw [List.map_cons, Repository.readAll, List.map_cons, AuditEntry.under, auditEntryOf_document,
      ih]
    rfl

end Store

end Automation
