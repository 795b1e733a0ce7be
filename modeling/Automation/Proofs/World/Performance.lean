import Automation.Proofs.Program.Conduct
import Automation.Proofs.Store.Records
import Automation.Proofs.World.Replay

/-!
# Programs performed by a world

A world is a setting of its own, in which every request is answered at once. So what a program
upholds there holds of the world in which it was performed (`perform_upholds`). In a world in which
at most updates of test runs fail (`World.Holds`) a client can always be made, every other query is
answered as the store answers it, and the programs that only read give what the store holds.
-/

set_option autoImplicit false

namespace Automation

open Program

/-! ## Faults of updates -/

/-- A fault of the updates of test runs. -/
def Fault.IsOfUpdates (f : Fault) : Prop :=
  f.place = Collection.testRuns.name ∧ f.method = "update_one"

/-- Faults of one operation do not strike another, and stay what they are. -/
theorem Fault.strike_of_isOfUpdates {faults : List Fault} (h : ∀ f ∈ faults, f.IsOfUpdates)
    {place method : String} (hother : place ≠ Collection.testRuns.name ∨ method ≠ "update_one") :
    Fault.strike place method faults = (none, faults) := by
  refine Fault.strike_of_not_applies fun f hf => ?_
  obtain ⟨hplace, hmethod⟩ := h f hf
  rw [Fault.applies, hplace, hmethod]
  rcases hother with hother | hother
  · simp [hother.symm]
  · simp [hother.symm]

namespace World

variable {α : Type} {w : World} {store : Store}

/-- A world with a store of which at most updates of test runs fail. -/
structure Holds (w : World) (store : Store) : Prop where
  store : w.database.store = store
  faults : ∀ f ∈ w.database.faults, f.IsOfUpdates

theorem holds_of_faults_nil (hw : w.database.faults = []) : w.Holds w.database.store := by
  refine ⟨rfl, fun f hf => ?_⟩
  rw [hw] at hf
  exact absurd hf List.not_mem_nil

/-- Worlds as a setting: every request fits and is answered at once. -/
def setting : Setting World where
  fits _ _ := True
  moves w e w' := w.answer e.request = (e.answer, w')

/-- What a program upholds holds when a world has performed it. -/
theorem perform_upholds {p : Program α} {Q : World → Outcome α → Prop}
    (h : p.Upholds setting w Q) : Q (w.perform p).2 (w.perform p).1 := by
  induction p generalizing w with
  | done a => exact h
  | failed f => exact h
  | cancelled => exact h
  | ask r next ih => exact ih _ (h.2 _ _ rfl)

/-- Requests of a kind keep a condition if the answer to each of them does. -/
theorem setting_keeps {kind : Request → Prop} {I : World → Prop}
    (h : ∀ w r, kind r → I w → I (w.answer r).2) : setting.Keeps kind I := by
  refine fun w r hr hI => ⟨trivial, fun x w' hmoves => ?_⟩
  have hafter := h w r hr hI
  rw [show w.answer r = (x, w') from hmoves] at hafter
  exact hafter

/-! ## Requests -/

theorem touch_of_holds (hw : w.Holds store) (method : String) :
    w.database.touch method = (.ok (), w.database) := by
  refine Database.touch_of_place (fun f hf => ?_) method
  rw [(hw.faults f hf).1]
  decide

/-- A plain request leaves the database as it is. -/
theorem database_answer (hw : w.Holds store) {r : Request} (hr : IsPlain r) :
    (w.answer r).2.database = w.database := by
  rcases w.database_answer_cases r with h | ⟨method, h⟩ | ⟨q, rfl, -⟩
  · exact h
  · rw [h, touch_of_holds hw]
  · exact hr.elim

theorem isPlain_of_isQuiet {r : Request} (h : r.IsQuiet) : IsPlain r := by
  cases r <;> trivial

theorem Holds.of_database_eq {w' : World} (hw : w.Holds store) (h : w'.database = w.database) :
    w'.Holds store :=
  ⟨by rw [h, hw.store], by rw [h]; exact hw.faults⟩

theorem keeps_holds (store : Store) : setting.Keeps Request.IsQuiet fun w => w.Holds store :=
  setting_keeps fun _ _ hr hw => hw.of_database_eq (database_answer hw (isPlain_of_isQuiet hr))

/-- A client of the store can always be made. -/
theorem answer_connect (hw : w.Holds store) : ∃ b, (w.answer .connect).1 = .ok b := by
  simp only [answer, touch_of_holds hw]
  split <;> exact ⟨_, rfl⟩

/-- There is a client of the store whenever one is asked for. -/
theorem connect_upholds (hw : w.Holds store) :
    Repository.connect.Upholds setting w fun w o => o = .done () ∧ w.Holds store := by
  refine ⟨trivial, fun x w' hmoves => ?_⟩
  have hholds := (keeps_holds store w .connect trivial hw).2 x w' hmoves
  obtain ⟨b, hb⟩ := answer_connect hw
  obtain rfl : x = .ok b := (congrArg Prod.fst hmoves).symm.trans hb
  cases b with
  | false => exact ⟨rfl, hholds⟩
  | true =>
    refine ⟨trivial, fun u w'' hmoves => ⟨rfl, ?_⟩⟩
    exact (keeps_holds store w' (.report _) trivial hholds).2 u w'' hmoves

/-- A query that is no update of test runs is answered as the store answers it. -/
theorem answer_query (hw : w.Holds store) {q : Query}
    (hq : q.collection.name ≠ Collection.testRuns.name ∨ q.method ≠ "update_one") :
    w.answer (.query q) =
      match store.answer q with
      | .ok (y, store') => (.ok y, { w with database := ⟨store', w.database.faults⟩ })
      | .error e => (.error (.unstorable e), w) := by
  obtain rfl := hw.store
  simp only [answer, Database.answer, Fault.strike_of_isOfUpdates hw.faults hq]
  cases w.database.store.answer q with
  | ok x => rfl
  | error e => rfl

/-- An update of a test run takes effect, or it comes to nothing. -/
theorem answer_update (hw : w.Holds store) (oid : ObjectId) (changes : Fields) :
    ((w.answer (.query (.update .testRuns oid changes))).1 = .ok (store.testRuns.uses oid) ∧
      (w.answer (.query (.update .testRuns oid changes))).2.Holds
        { store with testRuns := store.testRuns.change oid (Value.keptFields changes) }) ∨
      (w.answer (.query (.update .testRuns oid changes))).1 ≠ .ok true ∧
        (w.answer (.query (.update .testRuns oid changes))).2.Holds store := by
  obtain rfl := hw.store
  have hfaults := Fault.forall_mem_strike hw.faults (fun _ _ _ h => h)
    Collection.testRuns.name "update_one"
  simp only [answer, Database.answer, Query.collection, Query.method]
  cases hstrike : Fault.strike Collection.testRuns.name "update_one" w.database.faults with
  | mk struck faults =>
    rw [hstrike] at hfaults
    cases struck with
    | some fault =>
      refine Or.inr ?_
      cases fault <;> refine ⟨?_, rfl, hfaults⟩ <;> rintro ⟨⟩
    | none =>
      simp only [Store.answer]
      cases hkept : Value.storedFields? changes with
      | error e =>
        refine Or.inr ⟨?_, rfl, hfaults⟩
        rintro ⟨⟩
      | ok kept =>
        obtain rfl := Value.storedFields?_eq_kept _ hkept
        exact Or.inl ⟨rfl, rfl, hfaults⟩

/-- A query that the store answers is answered, if it is no update of test runs. -/
theorem query_upholds {q : Query} {y : q.Answer} {store' : Store}
    {k : Except StoreError q.Answer → Program α} {Q : World → Outcome α → Prop}
    (hq : q.collection.name ≠ Collection.testRuns.name ∨ q.method ≠ "update_one")
    (hw : w.Holds store) (hy : store.answer q = .ok (y, store'))
    (hk : ∀ w, w.Holds store' → (k (.ok y)).Upholds setting w Q) :
    (Program.query q >>= k).Upholds setting w Q := by
  refine ⟨trivial, fun x w' hmoves => ?_⟩
  have hanswer : (Except.ok y, { w with database := ⟨store', w.database.faults⟩ }) = (x, w') := by
    rw [← show w.answer (.query q) = (x, w') from hmoves, answer_query hw hq, hy]
  cases hanswer
  exact hk _ ⟨rfl, hw.faults⟩

/-- A query with a value that the store cannot keep is refused, and changes nothing. -/
theorem refused_upholds {q : Query} {e : StorageDefect}
    {k : Except StoreError q.Answer → Program α} {Q : World → Outcome α → Prop}
    (hq : q.collection.name ≠ Collection.testRuns.name ∨ q.method ≠ "update_one")
    (hw : w.Holds store) (he : store.answer q = .error e)
    (hk : ∀ w, w.Holds store → (k (.error (.unstorable e))).Upholds setting w Q) :
    (Program.query q >>= k).Upholds setting w Q := by
  refine ⟨trivial, fun x w' hmoves => ?_⟩
  have hanswer : (Except.error (.unstorable e), w) = (x, w') := by
    rw [← show w.answer (.query q) = (x, w') from hmoves, answer_query hw hq, he]
  cases hanswer
  exact hk _ hw

/-- The time can be asked for without a change to the store. -/
theorem now_upholds {k : Moment → Program α} {Q : World → Outcome α → Prop}
    (hw : w.Holds store)
    (hk : ∀ now w, w.Holds store → (k now).Upholds setting w Q) :
    (Program.now >>= k).Upholds setting w Q :=
  ⟨trivial, fun now w' hmoves => hk now w' ((keeps_holds store w .clock trivial hw).2 _ _ hmoves)⟩

/-! ## Programs that read -/

/-- The documents of an answer that was read in full, each with what was read from it. -/
theorem forall₂_of_readAll {β : Type} {read : Document → Except StoreError β}
    {docs : List Document} {values : List β} (h : Repository.readAll read docs = .ok values) :
    List.Forall₂ (fun d b => read d = .ok b) docs values := by
  induction docs generalizing values with
  | nil =>
    cases h
    exact List.Forall₂.nil
  | cons d rest ih =>
    unfold Repository.readAll at h
    split at h
    · cases h
    · rename_i b hread
      cases hrest : Repository.readAll read rest with
      | error e =>
        rw [hrest] at h
        cases h
      | ok values' =>
        rw [hrest] at h
        cases h
        exact List.Forall₂.cons hread (ih hrest)

/-- The runs of a flow are those that the store lists, if they can be read. -/
theorem getTestRunsByFlow_upholds {flowId : String} {runs : List TestRun} (hw : w.Holds store)
    (hread : ∀ now, Repository.readAll (Repository.testRunOf now)
      (Order.arrange (store.testRuns.find [.textIs "flow_id" flowId])
        (.newestFirst "created_at")) = .ok runs) :
    (Repository.getTestRunsByFlow flowId).Upholds setting w fun w o =>
      o = .done runs ∧ w.Holds store := by
  have hfind : store.answer (.find .testRuns [.textIs "flow_id" flowId]
      (.newestFirst "created_at")) =
        .ok (Order.arrange (store.testRuns.find [.textIs "flow_id" flowId])
          (.newestFirst "created_at"), store) := rfl
  have hother : "find" ≠ "update_one" := by decide
  refine (connect_upholds hw).bind_unit fun w hw => ?_
  refine query_upholds (Or.inr hother) hw hfind fun w hw => now_upholds hw fun now w hw => ?_
  rw [hread now]
  exact ⟨rfl, hw⟩

/-- The audit entries of a run are those that the store lists, if they can be read. -/
theorem getAuditEntries_upholds {runId : String} {entries : List AuditEntry} (hw : w.Holds store)
    (hread : ∀ now, Repository.readAll (Repository.auditEntryOf now)
      (Order.arrange (store.executionLogs.find [.textIs "test_run_id" runId])
        (.oldestThenId "started_at")) = .ok entries) :
    (Repository.getAuditEntries runId).Upholds setting w fun w o =>
      o = .done entries ∧ w.Holds store := by
  have hfind : store.answer (.find .executionLogs [.textIs "test_run_id" runId]
      (.oldestThenId "started_at")) =
        .ok (Order.arrange (store.executionLogs.find [.textIs "test_run_id" runId])
          (.oldestThenId "started_at"), store) := rfl
  have hother : Collection.executionLogs.name ≠ Collection.testRuns.name := by decide
  refine (connect_upholds hw).bind_unit fun w hw => ?_
  refine query_upholds (Or.inl hother) hw hfind fun w hw => now_upholds hw fun now w hw => ?_
  rw [hread now]
  exact ⟨rfl, hw⟩

theorem perform_getAuditEntries {runId : String} {entries : List AuditEntry} (hw : w.Holds store)
    (hread : ∀ now, Repository.readAll (Repository.auditEntryOf now)
      (Order.arrange (store.executionLogs.find [.textIs "test_run_id" runId])
        (.oldestThenId "started_at")) = .ok entries) :
    (w.perform (Repository.getAuditEntries runId)).1 = .done entries :=
  (perform_upholds (getAuditEntries_upholds hw hread)).1

/-- The documents that count as running and as having begun before a moment, as far as the store can
tell; none when it cannot keep the moment. -/
def staleDocuments (store : Store) (before : Moment) : List Document :=
  match before.stored? with
  | some limit =>
    store.testRuns.find [.textIs "status" TestRun.running, .before "started_at" limit]
  | none => []

theorem mem_staleDocuments {before : Moment} {d : Document} :
    d ∈ staleDocuments store before ↔ d ∈ store.testRuns.documents ∧
      ∃ limit, before.stored? = some limit ∧
        Clause.holds d (.textIs "status" TestRun.running) = true ∧
          Clause.holds d (.before "started_at" limit) = true := by
  unfold staleDocuments
  cases before.stored? with
  | none => simp
  | some limit => simp [Shelf.find]

/-- The store answers a search for stale runs with the stale documents, or it cannot keep the
moment. -/
theorem answer_stale (store : Store) (before : Moment) :
    store.answer (.find .testRuns (Repository.staleFilter before) .insertion) =
      match before.stored? with
      | none => .error .dateRange
      | some _ => .ok (staleDocuments store before, store) := by
  cases hlimit : before.stored? with
  | none =>
    simp [Store.answer, Repository.staleFilter, Store.storedClause?, hlimit]
    rfl
  | some limit =>
    simp [Store.answer, Repository.staleFilter, Store.storedClause?, hlimit, staleDocuments]
    rfl

/-- A search for stale runs finds those of the stale documents, or none if there was an error. -/
theorem getStaleTestRuns_upholds (before : Moment) (hw : w.Holds store) :
    (Repository.getStaleTestRuns before).Upholds setting w fun w o =>
      ∃ runs, o = .done runs ∧ w.Holds store ∧
        (runs = [] ∨ ∃ now, List.Forall₂ (fun d run => Repository.testRunOf now d = .ok run)
          (staleDocuments store before) runs) := by
  have hnone : ∀ (e : StoreError) {w : World}, w.Holds store →
      (Program.error Repository.speaker ("Error getting stale test runs: " ++ e.message) >>=
        fun _ => (pure [] : Program (List TestRun))).Upholds setting w fun w o =>
          ∃ runs, o = .done runs ∧ w.Holds store ∧
            (runs = [] ∨ ∃ now, List.Forall₂ (fun d run => Repository.testRunOf now d = .ok run)
              (staleDocuments store before) runs) := by
    intro e w hw
    refine ⟨trivial, fun u w' hmoves => ⟨[], rfl, ?_, Or.inl rfl⟩⟩
    exact (keeps_holds store w (.report _) trivial hw).2 u w' hmoves
  have hq : Collection.testRuns.name ≠ Collection.testRuns.name ∨ "find" ≠ "update_one" :=
    Or.inr (by decide)
  unfold Repository.getStaleTestRuns
  refine (connect_upholds hw).bind_unit fun w hw => ?_
  have hanswer := answer_stale store before
  cases hlimit : before.stored? with
  | none =>
    rw [hlimit] at hanswer
    refine refused_upholds hq hw hanswer fun w hw => now_upholds hw fun now w hw => ?_
    exact hnone _ hw
  | some limit =>
    rw [hlimit] at hanswer
    refine query_upholds hq hw hanswer fun w hw => now_upholds hw fun now w hw => ?_
    simp only [Except.bind]
    cases hread : Repository.readAll (Repository.testRunOf now) (staleDocuments store before) with
    | error e => exact hnone e hw
    | ok runs => exact ⟨runs, rfl, hw, Or.inr ⟨now, forall₂_of_readAll hread⟩⟩

end World

end Automation
