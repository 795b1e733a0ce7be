import Automation.Proofs.Runner.Outline
import Automation.Proofs.Service.Isolation
import Automation.Proofs.Sweep.Marked
import Automation.Proofs.World.Performance

/-!
# What a sweep does, exactly

A sweep is carried out on a store of any test runs that can be read, while some runs may be in the
background, the clock shows any time whenever it is looked at, and any of the updates fail
(`Sweep.Conditions`). It marks exactly the records that count as running, began before the cutoff,
are not active and whose update succeeded, in their order in the store; it leaves all others as they
were, and when no update failed the next sweep finds nothing to mark (`Sweep.run_exact`).
-/

set_option autoImplicit false

namespace Automation

open World (Outcome)
open Program

/-! ## Test runs that can be read -/

namespace Reader

variable {α : Type}

/-- Whether a field can be read does not depend on what stands in for its absence. -/
theorem withDefault_ok {name : String} {value : α} {read : Reader α} {fields : Fields} {a : α}
    (h : withDefault name value read fields = .ok a) (value' : α) :
    ∃ b, withDefault name value' read fields = .ok b := by
  unfold withDefault at h ⊢
  cases hfield : fields.get? name with
  | none => exact ⟨value', rfl⟩
  | some v =>
    rw [hfield] at h
    exact ⟨a, h⟩

end Reader

/-- A test run can be read at any time if it can be read at one, with the same summary. -/
theorem TestRun.readFields_anytime {now : Moment} {fields : Fields} {run : TestRun}
    (h : readFields now fields = .ok run) (now' : Moment) :
    ∃ run', readFields now' fields = .ok run' ∧ run'.summary = run.summary := by
  simp only [readFields, Checked.seq_eq_ok, Checked.map_eq_ok] at h
  obtain ⟨-, ⟨-, ⟨-, ⟨-, ⟨-, ⟨-, ⟨-, ⟨-, ⟨-, ⟨-, ⟨id, hid, rfl⟩, flowId, hflow, rfl⟩, recipient,
    hrecipient, rfl⟩, status, hstatus, rfl⟩, node, hnode, rfl⟩, startedAt, hstarted, rfl⟩,
    finishedAt, hfinished, rfl⟩, error, herror, rfl⟩, summary, hsummary, rfl⟩, createdAt, hcreated,
    rfl⟩, updatedAt, hupdated, rfl⟩ := h
  -- only the three moments have a default that depends on the time
  obtain ⟨startedAt', hstarted'⟩ := Reader.withDefault_ok hstarted now'
  obtain ⟨createdAt', hcreated'⟩ := Reader.withDefault_ok hcreated now'
  obtain ⟨updatedAt', hupdated'⟩ := Reader.withDefault_ok hupdated now'
  refine ⟨⟨id, flowId, recipient, status, node, startedAt', finishedAt, error, summary, createdAt',
    updatedAt'⟩, ?_, rfl⟩
  simp only [readFields, hid, hflow, hrecipient, hstatus, hnode, hstarted', hfinished, herror,
    hsummary, hcreated', hupdated', Checked.map_ok, Checked.seq_ok]

/-- A document that reads as a test run. -/
def Document.IsTestRun (d : Document) : Prop :=
  ∃ now run, Repository.testRunOf now d = .ok run

theorem Document.IsTestRun.anytime {d : Document} (h : d.IsTestRun) (now : Moment) :
    ∃ run, Repository.testRunOf now d = .ok run := by
  obtain ⟨now', run, hrun⟩ := h
  obtain ⟨run', hrun', -⟩ := TestRun.readFields_anytime (Repository.readAs_eq_ok.1 hrun) now
  exact ⟨run', Repository.readAs_eq_ok.2 hrun'⟩

/-- The summary of a test run is read alike at all times. -/
theorem summary_of_testRunOf {d : Document} {now now' : Moment} {run run' : TestRun}
    (h : Repository.testRunOf now d = .ok run) (h' : Repository.testRunOf now' d = .ok run') :
    run'.summary = run.summary := by
  obtain ⟨same, hsame, hsummary⟩ := TestRun.readFields_anytime (Repository.readAs_eq_ok.1 h) now'
  rw [Repository.readAs_eq_ok.2 hsame |>.symm.trans h' |> Except.ok.inj |>.symm, hsummary]

/-- Documents that all read as test runs are read one by one. -/
theorem exists_readAll (now : Moment) {docs : List Document} (h : ∀ d ∈ docs, d.IsTestRun) :
    ∃ runs, Repository.readAll (Repository.testRunOf now) docs = .ok runs := by
  induction docs with
  | nil => exact ⟨[], rfl⟩
  | cons d rest ih =>
    obtain ⟨run, hrun⟩ := (h d List.mem_cons_self).anytime now
    obtain ⟨runs, hruns⟩ := ih fun d hd => h d (List.mem_cons_of_mem _ hd)
    refine ⟨run :: runs, ?_⟩
    rw [Repository.readAll, hrun, hruns]
    rfl

/-- The store in which fields of a test run were set. -/
def Store.setRun (store : Store) (oid : ObjectId) (changes : Fields) : Store :=
  { store with testRuns := store.testRuns.change oid (Value.keptFields changes) }

/-! ## Exchanges of a sweep -/

/-- The test run that an exchange updated. -/
def Exchange.updated? : Exchange → Option ObjectId
  | ⟨.query (.update .testRuns oid _), .ok true⟩ => some oid
  | _ => none

/-- The test run that an exchange failed to update. -/
def Exchange.missed? : Exchange → Option ObjectId
  | ⟨.query (.update .testRuns _ _), .ok true⟩ => none
  | ⟨.query (.update .testRuns oid _), _⟩ => some oid
  | _ => none

namespace Stand

/-- The test runs that were updated. -/
def updated (s : Stand) : List ObjectId := s.past.filterMap Exchange.updated?

/-- The test runs whose update failed. -/
def missed (s : Stand) : List ObjectId := s.past.filterMap Exchange.missed?

end Stand

namespace Sweep

/-- What a sweep meets besides the store: the time at each look at the clock, the runs that are in
the background, and the updates that fail without taking effect, with an error or with nothing
found. Time and mishaps may depend on everything that was exchanged before. -/
structure Conditions where
  clock : List Exchange → Moment
  active : String → Bool
  mishap : List Exchange → Option (Option StoreError)

namespace Conditions

variable {α : Type}

/-- The answer to a request, and the store after it. -/
def respond (k : Conditions) (s : Stand) : (r : Request) → r.Answer × Store
  | .clock => (k.clock s.past, s.store)
  | .isActive id => (k.active id, s.store)
  | .query (.update c oid changes) =>
    match k.mishap s.past with
    | some (some e) => (.error e, s.store)
    | some none => (.ok false, s.store)
    | none => s.store.respond (.query (.update c oid changes))
  | r => s.store.respond r

/-- The store and the exchanges after an exchange. -/
def after (k : Conditions) (s : Stand) (r : Request) : Stand :=
  ⟨(k.respond s r).2, s.past ++ [⟨r, (k.respond s r).1⟩]⟩

/-- A program carried out to its end. -/
def carryOut (k : Conditions) (s : Stand) : Program α → Outcome α × Stand
  | .done a => (.done a, s)
  | .failed f => (.failed f, s)
  | .cancelled => (.cancelled, s)
  | .ask r next => k.carryOut (k.after s r) (next (k.respond s r).1)

/-- The conditions as a setting, in which every request is answered in one way. -/
def setting (k : Conditions) : Setting Stand where
  fits _ _ := True
  moves s e s' := (k.respond s e.request).1 = e.answer ∧ s' = k.after s e.request

/-- What a program upholds holds of it when it is carried out. -/
theorem carryOut_upholds {k : Conditions} {p : Program α} {s : Stand}
    {Q : Stand → Outcome α → Prop} (h : p.Upholds k.setting s Q) :
    Q (k.carryOut s p).2 (k.carryOut s p).1 := by
  induction p generalizing s with
  | done a => exact h
  | failed f => exact h
  | cancelled => exact h
  | ask r next ih => exact ih _ (h.2 _ _ ⟨rfl, rfl⟩)

end Conditions

/-- Where a sweep stands: the store, the runs that it updated and those that it failed to. -/
structure Stands (store : Store) (updated missed : List ObjectId) (s : Stand) : Prop where
  store : s.store = store
  updated : s.updated = updated
  missed : s.missed = missed

variable {k : Conditions} {store : Store} {updated missed : List ObjectId} {s : Stand} {α : Type}

/-- An exchange adds what it updated and what it missed. -/
theorem Stands.after (h : Stands store updated missed s) {r : Request} :
    Stands (k.respond s r).2 (updated ++ (Exchange.updated? ⟨r, (k.respond s r).1⟩).toList)
      (missed ++ (Exchange.missed? ⟨r, (k.respond s r).1⟩).toList) (k.after s r) := by
  have hsingle : ∀ (f : Exchange → Option ObjectId) (e : Exchange),
      List.filterMap f [e] = (f e).toList := by
    intro f e
    rw [List.filterMap_cons]
    cases f e <;> rfl
  refine ⟨rfl, ?_, ?_⟩
  · rw [Stand.updated, Conditions.after, List.filterMap_append, hsingle, ← h.updated]
    rfl
  · rw [Stand.missed, Conditions.after, List.filterMap_append, hsingle, ← h.missed]
    rfl

/-- An exchange that is no update leaves a sweep where it stands, if the store stays. -/
theorem Stands.after_aside (h : Stands store updated missed s) {r : Request}
    (hstore : (k.respond s r).2 = s.store)
    (hr : ∀ x : r.Answer, Exchange.updated? ⟨r, x⟩ = none ∧ Exchange.missed? ⟨r, x⟩ = none) :
    Stands store updated missed (k.after s r) := by
  have hafter := h.after (k := k) (r := r)
  rw [(hr _).1, (hr _).2, hstore, h.store] at hafter
  simpa using hafter

/-- Quiet requests leave a sweep where it stands. -/
theorem keeps_stands : k.setting.Keeps Request.IsQuiet (Stands store updated missed) := by
  intro s r hr h
  refine ⟨trivial, fun x s' hmoves => ?_⟩
  rw [hmoves.2]
  rcases hr.eq with rfl | ⟨e, rfl⟩ | rfl <;> exact h.after_aside rfl fun _ => ⟨rfl, rfl⟩

theorem connect_stands (h : Stands store updated missed s) :
    Repository.connect.Upholds k.setting s fun s o =>
      o = .done () ∧ Stands store updated missed s := by
  refine ⟨trivial, fun x s' hmoves => ?_⟩
  have hs' := (keeps_stands s .connect trivial h).2 x s' hmoves
  obtain rfl : Except.ok false = x := hmoves.1
  exact ⟨rfl, hs'⟩

theorem now_stands {next : Moment → Program α} {Q : Stand → Outcome α → Prop}
    (h : Stands store updated missed s)
    (hnext : ∀ past s, Stands store updated missed s →
      (next (k.clock past)).Upholds k.setting s Q) :
    (Program.now >>= next).Upholds k.setting s Q := by
  refine ⟨trivial, fun x s' hmoves => ?_⟩
  have hs' := (keeps_stands s .clock trivial h).2 x s' hmoves
  obtain rfl : k.clock s.past = x := hmoves.1
  exact hnext s.past s' hs'

/-! ## Marking one run -/

/-- The answer to an update of a record that is there: it takes effect, or it fails. -/
theorem respond_update {oid : ObjectId} (huses : s.store.testRuns.uses oid = true)
    (changes : Fields) :
    k.respond s (.query (.update .testRuns oid changes)) =
        (.ok true, s.store.setRun oid changes) ∨
      (k.respond s (.query (.update .testRuns oid changes))).1 ≠ .ok true ∧
        (k.respond s (.query (.update .testRuns oid changes))).2 = s.store := by
  simp only [Conditions.respond]
  split
  · exact Or.inr ⟨by rintro ⟨⟩, rfl⟩
  · exact Or.inr ⟨by rintro ⟨⟩, rfl⟩
  · simp only [Store.respond, Store.answer]
    cases hkept : Value.storedFields? changes with
    | error e => exact Or.inr ⟨by rintro ⟨⟩, rfl⟩
    | ok kept =>
      obtain rfl := Value.storedFields?_eq_kept _ hkept
      exact Or.inl (by rw [show s.store.shelf .testRuns = s.store.testRuns from rfl, huses]; rfl)

/-- An update of a record takes effect, or it is missed. -/
theorem update_stands (h : Stands store updated missed s) {oid : ObjectId} {id : String}
    (hid : ObjectId.ofText? id = some oid) (huses : store.testRuns.uses oid = true)
    (changes : Fields) :
    (Repository.updateTestRun id changes).Upholds k.setting s fun s o =>
      (o = .done true ∧ ∃ now, Stands (store.setRun oid (changes.insert "updated_at" (.date now)))
        (updated ++ [oid]) missed s) ∨
      o = .done false ∧ Stands store updated (missed ++ [oid]) s := by
  unfold Repository.updateTestRun
  rw [hid]
  refine (connect_stands h).bind_unit fun s h => now_stands h fun past s h => ?_
  generalize hsets : changes.insert "updated_at" (.date (k.clock past)) = sets
  refine ⟨trivial, fun x s' ⟨hx, hs'⟩ => ?_⟩
  have hafter := h.after (k := k) (r := .query (.update .testRuns oid sets))
  have huses' : s.store.testRuns.uses oid = true := by rw [h.store]; exact huses
  rw [← hs', hx] at hafter
  rcases respond_update (k := k) huses' sets with htakes | ⟨hfails, hstore⟩
  · rw [htakes] at hx hafter
    cases hx
    rw [h.store, ← hsets] at hafter
    refine Or.inl ⟨rfl, k.clock past, ?_⟩
    simpa [Exchange.updated?, Exchange.missed?] using hafter
  · rw [hstore, h.store] at hafter
    rw [hx] at hfails
    cases x with
    | error e =>
      have hmissed : Stands store updated (missed ++ [oid]) s' := by
        simpa [Exchange.updated?, Exchange.missed?] using hafter
      exact (report_upholds keeps_stands _ hmissed).bind_unit fun s h => Or.inr ⟨rfl, h⟩
    | ok matched =>
      cases matched with
      | true => exact absurd rfl hfails
      | false => exact Or.inr ⟨rfl, by simpa [Exchange.updated?, Exchange.missed?] using hafter⟩

/-- What a sweep sets of the record of a run that ended at one moment, at another. -/
def changesOf (run : TestRun) (endedAt updatedAt : Moment) : Fields :=
  (TestRun.failing endedAt reason (summaryOf run)).insert "updated_at" (.date updatedAt)

variable {owns : Bool} {moment : Option Moment} {ds : List Document} {run : TestRun}

/-- A run that nobody asks after is marked, or the sweep fails to mark it. -/
theorem mark_idle {oid : ObjectId} {id : String} (h : Stands store updated missed s)
    (hrun : run.id = some id) (hid : ObjectId.ofText? id = some oid)
    (huses : store.testRuns.uses oid = true) :
    (mark false moment run).Upholds k.setting s fun s o =>
      (o = .done (some id) ∧ ∃ past updatedAt,
        Stands (store.setRun oid (changesOf run (moment.getD (k.clock past)) updatedAt))
          (updated ++ [oid]) missed s) ∨
      o = .done none ∧ Stands store updated (missed ++ [oid]) s := by
  unfold mark
  simp only [hrun, Option.getD_some]
  refine now_stands h fun past s h => ?_
  refine (update_stands h hid huses _).bind ?_ ?_ ?_
  · rintro s marked (⟨ho, updatedAt, h⟩ | ⟨ho, h⟩)
    · cases ho
      exact (report_upholds keeps_stands _ h).bind_unit fun s h => Or.inl ⟨rfl, past, updatedAt, h⟩
    · cases ho
      exact (report_upholds keeps_stands _ h).bind_unit fun s h => Or.inr ⟨rfl, h⟩
  · rintro s f (⟨ho, -⟩ | ⟨ho, -⟩) <;> cases ho
  · rintro s (⟨ho, -⟩ | ⟨ho, -⟩) <;> cases ho

/-- How a sweep deals with a run: it passes over it, it marks it, or it fails to. -/
inductive Deals (k : Conditions) (owns : Bool) (moment : Option Moment) (store : Store)
    (updated missed : List ObjectId) (run : TestRun) (oid : ObjectId) (id : String) :
    Outcome (Option String) → Stand → Prop
  | spared {s : Stand} (hspares : (owns && k.active id) = true)
      (h : Stands store updated missed s) :
      Deals k owns moment store updated missed run oid id (.done none) s
  | marked {s : Stand} (hspares : (owns && k.active id) = false) (past : List Exchange)
      (updatedAt : Moment)
      (h : Stands (store.setRun oid (changesOf run (moment.getD (k.clock past)) updatedAt))
        (updated ++ [oid]) missed s) :
      Deals k owns moment store updated missed run oid id (.done (some id)) s
  | missed {s : Stand} (hspares : (owns && k.active id) = false)
      (h : Stands store updated (missed ++ [oid]) s) :
      Deals k owns moment store updated missed run oid id (.done none) s

variable (k owns moment) in
theorem mark_deals {oid : ObjectId} {id : String} (h : Stands store updated missed s)
    (hrun : run.id = some id) (hid : ObjectId.ofText? id = some oid)
    (huses : store.testRuns.uses oid = true) :
    (mark owns moment run).Upholds k.setting s fun s o =>
      Deals k owns moment store updated missed run oid id o s := by
  have hidle : (owns && k.active id) = false → ∀ s, Stands store updated missed s →
      (mark false moment run).Upholds k.setting s fun s o =>
        Deals k owns moment store updated missed run oid id o s := by
    refine fun hspares s h => (mark_idle h hrun hid huses).mono ?_
    rintro s o (⟨rfl, past, updatedAt, h⟩ | ⟨rfl, h⟩)
    · exact .marked hspares past updatedAt h
    · exact .missed hspares h
  cases owns with
  | false => exact hidle rfl s h
  | true =>
    -- the answer decides whether the rest is the sweep that does not ask
    refine ⟨trivial, fun active s' ⟨hactive, hs'⟩ => ?_⟩
    have hspares : (true && k.active id) = active := by
      have hasked : k.active (run.id.getD "") = active := hactive
      rw [← hasked, hrun]
      rfl
    have h' : Stands store updated missed s' := by
      rw [hs']
      exact h.after_aside rfl fun _ => ⟨rfl, rfl⟩
    cases active with
    | true => exact .spared hspares h'
    | false => exact hidle hspares s' h'

/-- Whether a sweep passes over a record because its run is active. -/
def spares (k : Conditions) (owns : Bool) (d : Document) : Bool := owns && k.active d.id.text

/-- How a sweep goes through the records that it found: those that it marks, those that it fails to
mark, and the store after it. -/
inductive Marking (k : Conditions) (owns : Bool) (moment : Option Moment) :
    Store → List Document → List ObjectId → List ObjectId → Store → Prop
  | nil (store : Store) : Marking k owns moment store [] [] [] store
  | spared {store store' : Store} {d : Document} {ds : List Document}
      {marked failed : List ObjectId} (hspares : spares k owns d = true)
      (hrest : Marking k owns moment store ds marked failed store') :
      Marking k owns moment store (d :: ds) marked failed store'
  | marked {store store' : Store} {d : Document} {ds : List Document}
      {marked failed : List ObjectId} (hspares : spares k owns d = false) {now : Moment}
      {run : TestRun} (hread : Repository.testRunOf now d = .ok run) (past : List Exchange)
      (updatedAt : Moment)
      (hrest : Marking k owns moment
        (store.setRun d.id (changesOf run (moment.getD (k.clock past)) updatedAt)) ds marked failed
          store') :
      Marking k owns moment store (d :: ds) (d.id :: marked) failed store'
  | missed {store store' : Store} {d : Document} {ds : List Document}
      {marked failed : List ObjectId} (hspares : spares k owns d = false)
      (hrest : Marking k owns moment store ds marked failed store') :
      Marking k owns moment store (d :: ds) marked (d.id :: failed) store'

/-- A sweep has gone through the records that it found, and marked those of some ids. -/
def Went (k : Conditions) (owns : Bool) (moment : Option Moment) (store : Store)
    (updated missed : List ObjectId) (ds : List Document) (ids : List String) (s : Stand) : Prop :=
  ∃ marked failed store', ids = marked.map ObjectId.text ∧
    Stands store' (updated ++ marked) (missed ++ failed) s ∧
      Marking k owns moment store ds marked failed store'

/-- A sweep goes through the records that it found. -/
theorem markAll_went {now : Moment} {runs : List TestRun}
    (hread : List.Forall₂ (fun d run => Repository.testRunOf now d = .ok run) ds runs)
    (hproper : ∀ d ∈ ds, d.id.IsProper) (huses : ∀ d ∈ ds, store.testRuns.uses d.id = true)
    (h : Stands store updated missed s) :
    (markAll owns moment runs).Upholds k.setting s fun s o =>
      ∃ ids, o = .done ids ∧ Went k owns moment store updated missed ds ids s := by
  induction hread generalizing store updated missed s with
  | nil => exact ⟨[], rfl, [], [], store, rfl, by simpa using h, .nil store⟩
  | @cons d run ds runs hfirst hrest ih =>
    have hproper' := fun d hd => hproper d (List.mem_cons_of_mem _ hd)
    have huses' := fun d hd => huses d (List.mem_cons_of_mem _ hd)
    have hmark := mark_deals k owns moment h (id_of_testRunOf hfirst)
      (ObjectId.ofText?_text (hproper d List.mem_cons_self)) (huses d List.mem_cons_self)
    unfold markAll
    refine hmark.bind ?_ (fun s f h => nomatch h) (fun s h => nomatch h)
    intro s id h
    refine Upholds.bind_done (P := fun s ids => Went k owns moment store updated missed (d :: ds)
      (id.toList ++ ids) s) ?_ fun s ids h => ⟨_, rfl, h⟩
    cases h with
    | spared hspares h =>
      refine (ih hproper' huses' h).mono ?_
      rintro s o ⟨ids, rfl, marked, failed, store', rfl, hs, hmarking⟩
      exact ⟨_, rfl, marked, failed, store', rfl, hs, .spared hspares hmarking⟩
    | marked hspares past updatedAt h =>
      refine (ih hproper' (fun d hd => ?_) h).mono ?_
      · exact (uses_change _ _ _ _).trans (huses' d hd)
      · rintro s o ⟨ids, rfl, marked, failed, store', rfl, hs, hmarking⟩
        refine ⟨_, rfl, d.id :: marked, failed, store', rfl, ?_,
          .marked hspares hfirst past updatedAt hmarking⟩
        rwa [List.append_assoc] at hs
    | missed hspares h =>
      refine (ih hproper' huses' h).mono ?_
      rintro s o ⟨ids, rfl, marked, failed, store', rfl, hs, hmarking⟩
      refine ⟨_, rfl, marked, d.id :: failed, store', rfl, ?_, .missed hspares hmarking⟩
      rwa [List.append_assoc] at hs

/-! ## What a sweep finds -/

/-- Whether a record counts as running and says that its run began before a moment, both cut to the
millisecond. -/
def isStale (before : Moment) (d : Document) : Bool :=
  match d.fields.get? "status", d.fields.get? "started_at" with
  | some (.text status), some (.date began) =>
    status == TestRun.running &&
      decide (Moment.cutToMillisecond began.instant < Moment.cutToMillisecond before.instant)
  | _, _ => false

variable {before : Moment} {grace : Int}

/-- A search finds the stale records, in the order of their insertion. -/
theorem staleDocuments_eq (hbefore : before.stored?.isSome) :
    World.staleDocuments store before = store.testRuns.documents.filter (isStale before) := by
  obtain ⟨limit, hlimit⟩ := Option.isSome_iff_exists.1 hbefore
  have hcut : ∀ t t' : Int, Moment.cutToMillisecond t < Moment.cutToMillisecond t' ↔
      t < Moment.cutToMillisecond t' := by
    intro t t'
    unfold Moment.cutToMillisecond
    omega
  simp only [World.staleDocuments, hlimit, Shelf.find]
  refine List.filter_congr fun d _ => ?_
  rw [Moment.stored?_eq_kept hlimit]
  simp only [List.all_cons, List.all_nil, Bool.and_true, Clause.holds, isStale, hcut,
    Moment.instant_kept]
  cases d.fields.get? "status" with
  | none => rfl
  | some status =>
    cases d.fields.get? "started_at" with
    | none => cases status <;> simp
    | some began => cases status <;> cases began <;> simp

/-- The records that a sweep with a cutoff finds. -/
def staleIn (store : Store) (before : Moment) : List Document :=
  store.testRuns.documents.filter (isStale before)

theorem mem_of_mem_staleIn {d : Document} (hd : d ∈ staleIn store before) :
    d ∈ store.testRuns.documents :=
  (List.mem_filter.1 hd).1

/-- The search for stale records gives the runs that they are read as. -/
theorem getStaleTestRuns_stands (hreads : ∀ d ∈ staleIn store before, d.IsTestRun)
    (hbefore : before.stored?.isSome) (h : Stands store updated missed s) :
    (Repository.getStaleTestRuns before).Upholds k.setting s fun s o =>
      ∃ runs, o = .done runs ∧ Stands store updated missed s ∧ ∃ now,
        List.Forall₂ (fun d run => Repository.testRunOf now d = .ok run)
          (staleIn store before) runs := by
  have hfound : store.answer (.find .testRuns (Repository.staleFilter before) .insertion) =
      .ok (staleIn store before, store) := by
    obtain ⟨limit, hlimit⟩ := Option.isSome_iff_exists.1 hbefore
    rw [staleIn, ← staleDocuments_eq hbefore, World.answer_stale, hlimit]
  unfold Repository.getStaleTestRuns
  refine (connect_stands h).bind_unit fun s h => ?_
  refine ⟨trivial, fun x s' ⟨hx, hs'⟩ => ?_⟩
  have hanswer : k.respond s (.query (.find .testRuns (Repository.staleFilter before) .insertion))
      = (.ok (staleIn store before), store) := by
    simp only [Conditions.respond, Store.respond, h.store, hfound]
  have h' : Stands store updated missed s' := by
    rw [hs']
    refine h.after_aside ?_ fun _ => ⟨rfl, rfl⟩
    rw [hanswer, h.store]
  obtain rfl : Except.ok (staleIn store before) = x :=
    (congrArg Prod.fst hanswer).symm.trans hx
  refine now_stands h' fun past s h => ?_
  obtain ⟨runs, hruns⟩ := exists_readAll (k.clock past) hreads
  simp only [Except.bind, hruns]
  exact ⟨runs, rfl, h, _, World.forall₂_of_readAll hruns⟩

variable (owns) in
/-- A sweep finds the stale records and goes through them. -/
theorem run_went (hproper : ∀ d ∈ staleIn store before, d.id.IsProper)
    (hreads : ∀ d ∈ staleIn store before, d.IsTestRun)
    (hcutoff : cutoff grace (moment.getD (k.clock [])) = .ok before)
    (hbefore : before.stored?.isSome) :
    (Sweep.run owns grace moment).Upholds k.setting ⟨store, []⟩ fun s o =>
      ∃ ids, o = .done ids ∧ Went k owns moment store [] [] (staleIn store before) ids s := by
  have hstart : Stands store [] [] ⟨store, []⟩ := ⟨rfl, rfl, rfl⟩
  unfold Sweep.run
  -- the cutoff counts from the first reading of the clock
  refine ⟨trivial, fun x s ⟨hx, hs⟩ => ?_⟩
  obtain rfl : k.clock [] = x := hx
  have hstands : Stands store [] [] s := by
    rw [hs]
    exact hstart.after_aside rfl fun _ => ⟨rfl, rfl⟩
  show Upholds _ (Program.ofExcept ((cutoff grace (moment.getD (k.clock []))).mapError .span) >>= _)
    s _
  rw [hcutoff]
  show Upholds _ (Repository.getStaleTestRuns before >>= _) s _
  refine (getStaleTestRuns_stands hreads hbefore hstands).bind_done ?_
  rintro s runs ⟨h, now, hruns⟩
  have huses : ∀ d ∈ staleIn store before, store.testRuns.uses d.id = true := fun d hd =>
    List.any_eq_true.2 ⟨d, mem_of_mem_staleIn hd, beq_self_eq_true d.id⟩
  cases runs with
  | nil => exact markAll_went hruns hproper huses h
  | cons first rest =>
    exact (report_upholds keeps_stands _ h).bind_unit fun s h =>
      markAll_went hruns hproper huses h

/-! ## What a sweep leaves -/

/-- A record before and after a sweep that marked it: it counts as failed now for the reason of
sweeps, with what the run used before, and says the same as before in every other field but the time
of its update. -/
structure Marks (k : Conditions) (moment : Option Moment) (d d' : Document) : Prop where
  id : d'.id = d.id
  status : d'.fields.get? "status" = some (.text TestRun.failed)
  finishedAt : ∃ past,
    d'.fields.get? "finished_at" = some (.date (moment.getD (k.clock past)).kept)
  error : d'.fields.get? "error" = some (.text reason)
  summary : ∀ now run, Repository.testRunOf now d = .ok run →
    d'.fields.get? "summary" = some (Summary.write
      ⟨(run.summary.getD .zero).steps, (run.summary.getD .zero).delayMs, some reason⟩)
  others : ∀ name, name ∉ ["status", "finished_at", "error", "summary", "updated_at"] →
    d'.fields.get? name = d.fields.get? name

/-- The changes of a sweep mark the record that the run was read from. -/
theorem marks_updated {now : Moment} {d : Document} (hread : Repository.testRunOf now d = .ok run)
    (past : List Exchange) (updatedAt : Moment) :
    Marks k moment d
      (d.updated (Value.keptFields (changesOf run (moment.getD (k.clock past)) updatedAt))) where
  id := rfl
  status := by
    simp [Document.updated, Fields.get?_merge, changesOf, TestRun.failing, Fields.insert,
      Value.keptFields, Fields.get?_cons]
  finishedAt := ⟨past, by
    simp [Document.updated, Fields.get?_merge, changesOf, TestRun.failing, Fields.insert,
      Value.keptFields, Fields.get?_cons]⟩
  error := by
    simp [Document.updated, Fields.get?_merge, changesOf, TestRun.failing, Fields.insert,
      Value.keptFields, Fields.get?_cons]
  summary := by
    intro now' run' hread'
    rw [summary_of_testRunOf hread hread']
    simp [Document.updated, Fields.get?_merge, changesOf, TestRun.failing, Fields.insert,
      Value.keptFields, Fields.get?_cons, summaryOf]
  others := by
    intro name hname
    refine Fields.get?_merge_of_none (Fields.get?_keptFields_of_none ?_)
    simp only [List.mem_cons, List.not_mem_nil, or_false, not_or] at hname
    obtain ⟨hstatus, hfinished, herror, hsummary, hupdated⟩ := hname
    simp [changesOf, TestRun.failing, Fields.insert, Fields.get?_cons, Fields.get?_nil,
      Ne.symm hstatus, Ne.symm hfinished, Ne.symm herror, Ne.symm hsummary, Ne.symm hupdated]

/-- A store before and after a sweep that marked the records of some ids. -/
structure Leaves (k : Conditions) (moment : Option Moment) (marked : List ObjectId)
    (store store' : Store) : Prop where
  flows : store'.flows = store.flows
  executionLogs : store'.executionLogs = store.executionLogs
  lastNumber : store'.testRuns.lastNumber = store.testRuns.lastNumber
  testRuns : List.Forall₂ (fun d d' => if d.id ∈ marked then Marks k moment d d' else d' = d)
    store.testRuns.documents store'.testRuns.documents

theorem Leaves.refl (store : Store) : Leaves k moment [] store store where
  flows := rfl
  executionLogs := rfl
  lastNumber := rfl
  testRuns := List.forall₂_same.2 fun d _ => by simp

variable {marked failed : List ObjectId} {store' : Store}

theorem Marking.sublist (h : Marking k owns moment store ds marked failed store') :
    marked.Sublist (ds.map Document.id) := by
  induction h with
  | nil => exact List.Sublist.slnil
  | spared hspares hrest ih => exact ih.cons _
  | marked hspares hread past updatedAt hrest ih => exact ih.cons_cons _
  | missed hspares hrest ih => exact ih.cons _

/-- A sweep marks those that it does not pass over and whose update succeeded, in their order. -/
theorem Marking.marked_eq (h : Marking k owns moment store ds marked failed store')
    (hnodup : (ds.map Document.id).Nodup) :
    marked = (ds.filter fun d => !spares k owns d && marked.contains d.id).map Document.id := by
  induction h with
  | nil => rfl
  | spared hspares hrest ih =>
    obtain ⟨-, hnodup⟩ := List.nodup_cons.1 hnodup
    rw [List.filter_cons, hspares]
    exact ih hnodup
  | @marked store store' d ds marked failed hspares now run hread past updatedAt hrest ih =>
    obtain ⟨hnot, hnodup⟩ := List.nodup_cons.1 hnodup
    have hlater : (ds.filter fun e => !spares k owns e && (d.id :: marked).contains e.id) =
        ds.filter fun e => !spares k owns e && marked.contains e.id := by
      refine List.filter_congr fun e he => ?_
      have hne : e.id ≠ d.id := fun heq => hnot (heq ▸ List.mem_map_of_mem he)
      simp [hne]
    rw [List.filter_cons, hspares, List.contains_cons, beq_self_eq_true, hlater]
    show _ = d.id :: List.map Document.id _
    rw [← ih hnodup]
  | @missed store store' d ds marked failed hspares hrest ih =>
    obtain ⟨hnot, hnodup⟩ := List.nodup_cons.1 hnodup
    have hunmarked : marked.contains d.id = false := by
      have hmem : d.id ∉ marked := fun hmem => hnot (hrest.sublist.subset hmem)
      simpa using hmem
    rw [List.filter_cons, hunmarked, Bool.and_false]
    exact ih hnodup

/-- What a sweep does not pass over it marks or fails to mark. -/
theorem Marking.attempted (h : Marking k owns moment store ds marked failed store') {d : Document}
    (hd : d ∈ ds) (hspares : spares k owns d = false) : d.id ∈ marked ∨ d.id ∈ failed := by
  induction h with
  | nil => exact absurd hd List.not_mem_nil
  | spared hspared hrest ih =>
    rcases List.mem_cons.1 hd with rfl | hd
    · exact absurd (hspared.symm.trans hspares) (by decide)
    · exact ih hd
  | marked hnot hread past updatedAt hrest ih =>
    rcases List.mem_cons.1 hd with rfl | hd
    · exact Or.inl List.mem_cons_self
    · exact (ih hd).imp_left (List.mem_cons_of_mem _)
  | missed hnot hrest ih =>
    rcases List.mem_cons.1 hd with rfl | hd
    · exact Or.inr List.mem_cons_self
    · exact (ih hd).imp_right (List.mem_cons_of_mem _)

/-- A sweep that passes over everything that it found marks none and leaves the store as it is. -/
theorem Marking.of_all_spared (h : Marking k owns moment store ds marked failed store')
    (hspares : ∀ d ∈ ds, spares k owns d = true) : marked = [] ∧ store' = store := by
  induction h with
  | nil => exact ⟨rfl, rfl⟩
  | spared hspared hrest ih => exact ih fun d hd => hspares d (List.mem_cons_of_mem _ hd)
  | marked hnot hread past updatedAt hrest ih =>
    exact absurd (hnot.symm.trans (hspares _ List.mem_cons_self)) (by decide)
  | missed hnot hrest ih =>
    exact absurd (hnot.symm.trans (hspares _ List.mem_cons_self)) (by decide)

/-- A sweep changes the records that it marks, and no others. -/
theorem Marking.leaves (h : Marking k owns moment store ds marked failed store')
    (hids : (store.testRuns.documents.map Document.id).Nodup)
    (hds : ∀ d ∈ ds, d ∈ store.testRuns.documents) (hnodup : (ds.map Document.id).Nodup) :
    Leaves k moment marked store store' := by
  induction h with
  | nil store => exact Leaves.refl store
  | spared hspares hrest ih =>
    exact ih hids (fun d hd => hds d (List.mem_cons_of_mem _ hd)) (List.nodup_cons.1 hnodup).2
  | missed hspares hrest ih =>
    exact ih hids (fun d hd => hds d (List.mem_cons_of_mem _ hd)) (List.nodup_cons.1 hnodup).2
  | @marked store store' d ds marked failed hspares now run hread past updatedAt hrest ih =>
    obtain ⟨hnot, hnodup⟩ := List.nodup_cons.1 hnodup
    have hd := hds d List.mem_cons_self
    have hothers : ∀ e ∈ ds, e.id ≠ d.id := fun e he heq => hnot (heq ▸ List.mem_map_of_mem he)
    -- the records to come are as they were before this one was marked
    have hrest' := ih (by
        show ((store.testRuns.change d.id _).documents.map Document.id).Nodup
        rw [Shelf.map_id_change]
        exact hids)
      (fun e he => Shelf.mem_change_of_ne (hds e (List.mem_cons_of_mem _ he)) (hothers e he))
      hnodup
    refine ⟨hrest'.flows, hrest'.executionLogs, hrest'.lastNumber, ?_⟩
    have hdocs := List.forall₂_map_left_iff.1 hrest'.testRuns
    have hpairs := (List.forall₂_and_left _ _).2 ⟨fun e he => he, hdocs⟩
    refine hpairs.imp fun e e' ⟨he, he'⟩ => ?_
    by_cases heq : e.id = d.id
    · obtain rfl : e = d := List.inj_on_of_nodup_map hids he hd heq
      have hunmarked : e.id ∉ marked := fun hmem => hnot (hrest.sublist.subset hmem)
      rw [if_pos List.mem_cons_self]
      rw [if_pos rfl] at he'
      rw [if_neg (show (e.updated _).id ∉ marked from hunmarked)] at he'
      rw [he']
      exact marks_updated hread past updatedAt
    · rw [if_neg heq] at he'
      simpa [heq] using he'

/-! ## The sweep and the next one -/

/-- A record that a sweep marked is stale no more. -/
theorem Marks.isStale {d d' : Document} (h : Marks k moment d d') : isStale before d' = false := by
  unfold Sweep.isStale
  rw [h.status]
  split
  · rename_i status began hstatus hbegan
    cases hstatus
    rfl
  · rfl

/-- What is stale after a sweep was stale before, and the sweep did not mark it. -/
theorem Leaves.stale (h : Leaves k moment marked store store') :
    ∀ d' ∈ store'.testRuns.documents, isStale before d' = true →
      d' ∈ store.testRuns.documents ∧ d'.id ∉ marked := by
  intro d' hd' hstale
  obtain ⟨d, hd, hpair⟩ := exists_of_forall₂ h.testRuns hd'
  by_cases hmarked : d.id ∈ marked
  · rw [if_pos hmarked] at hpair
    exact absurd (hstale.symm.trans hpair.isStale) (by decide)
  · rw [if_neg hmarked] at hpair
    rw [hpair]
    exact ⟨hd, hmarked⟩

/-- When no update failed, what is stale after a sweep is what the sweep passed over. -/
theorem Marking.spares_of_stale
    (h : Marking k owns moment store (staleIn store before) marked [] store')
    (hleaves : Leaves k moment marked store store') :
    ∀ d ∈ staleIn store' before, d ∈ store.testRuns.documents ∧ spares k owns d = true := by
  intro d hd
  obtain ⟨hmem, hstale⟩ := List.mem_filter.1 hd
  obtain ⟨hbefore, hunmarked⟩ := hleaves.stale d hmem hstale
  refine ⟨hbefore, ?_⟩
  by_contra hspares
  rcases h.attempted (List.mem_filter.2 ⟨hbefore, hstale⟩) (Bool.eq_false_iff.2 hspares) with
    hdone | hfailed
  · exact hunmarked hdone
  · exact List.not_mem_nil hfailed

variable (owns) in
/-- A sweep ends with the ids that it updated, and goes through the stale records. -/
theorem run_marking (hproper : ∀ d ∈ staleIn store before, d.id.IsProper)
    (hreads : ∀ d ∈ staleIn store before, d.IsTestRun)
    (hcutoff : cutoff grace (moment.getD (k.clock [])) = .ok before)
    (hbefore : before.stored?.isSome) :
    let ended := k.carryOut ⟨store, []⟩ (Sweep.run owns grace moment)
    ended.1 = .done (ended.2.updated.map ObjectId.text) ∧
      Marking k owns moment store (staleIn store before) ended.2.updated ended.2.missed
        ended.2.store := by
  intro ended
  obtain ⟨ids, hended, marked, failed, store', rfl, hstands, hmarking⟩ :=
    Conditions.carryOut_upholds (Q := fun s o =>
      ∃ ids, o = .done ids ∧ Went k owns moment store [] [] (staleIn store before) ids s)
      (run_went owns hproper hreads hcutoff hbefore)
  have hupdated : ended.2.updated = marked := hstands.updated
  have hmissed : ended.2.missed = failed := hstands.missed
  have hstore : ended.2.store = store' := hstands.store
  rw [hupdated, hmissed, hstore]
  exact ⟨hended, hmarking⟩

variable (owns) in
/-- A sweep that passes over every stale record marks none and changes nothing. -/
theorem run_of_all_spared (hproper : ∀ d ∈ staleIn store before, d.id.IsProper)
    (hreads : ∀ d ∈ staleIn store before, d.IsTestRun)
    (hcutoff : cutoff grace (moment.getD (k.clock [])) = .ok before)
    (hbefore : before.stored?.isSome)
    (hspares : ∀ d ∈ staleIn store before, spares k owns d = true) :
    let ended := k.carryOut ⟨store, []⟩ (Sweep.run owns grace moment)
    ended.1 = .done [] ∧ ended.2.store = store := by
  intro ended
  obtain ⟨hended, hmarking⟩ := run_marking owns hproper hreads hcutoff hbefore
  obtain ⟨hnone, hstore⟩ := hmarking.of_all_spared hspares
  rw [hnone] at hended
  exact ⟨hended, hstore⟩

/-- A sweep marks exactly the stale records that it does not pass over and whose update succeeds: it
gives their ids, each once and in the order of the records, it sets them to failed, and it leaves
everything else as it was. Every stale record that it does not pass over it tries to update, and
when no update failed another sweep with the same moment and the same active runs marks none and
changes nothing. -/
theorem run_exact (k : Conditions) (store : Store) (owns : Bool) (grace : Int)
    (moment : Option Moment) {before : Moment}
    (hids : (store.testRuns.documents.map Document.id).Nodup)
    (hproper : ∀ d ∈ store.testRuns.documents, d.id.IsProper)
    (hreads : ∀ d ∈ store.testRuns.documents, d.IsTestRun)
    (hcutoff : cutoff grace (moment.getD (k.clock [])) = .ok before)
    (hbefore : before.stored?.isSome) :
    let ended := k.carryOut ⟨store, []⟩ (Sweep.run owns grace moment)
    let marked := (store.testRuns.documents.filter fun d =>
      isStale before d && !spares k owns d && ended.2.updated.contains d.id).map Document.id
    ended.1 = .done (marked.map ObjectId.text) ∧ (marked.map ObjectId.text).Nodup ∧
      Leaves k moment marked store ended.2.store ∧
      (∀ d ∈ store.testRuns.documents, isStale before d = true → spares k owns d = false →
        d.id ∈ ended.2.updated ∨ d.id ∈ ended.2.missed) ∧
      (ended.2.missed = [] → ∀ k' : Conditions, k'.active = k.active →
        moment.getD (k'.clock []) = moment.getD (k.clock []) →
          let next := k'.carryOut ⟨ended.2.store, []⟩ (Sweep.run owns grace moment)
          next.1 = .done [] ∧ next.2.store = ended.2.store) := by
  intro ended marked
  have hnodup : ((staleIn store before).map Document.id).Nodup :=
    hids.sublist (List.Sublist.map _ List.filter_sublist)
  obtain ⟨hended, hmarking⟩ := run_marking owns
    (fun d hd => hproper d (mem_of_mem_staleIn hd)) (fun d hd => hreads d (mem_of_mem_staleIn hd))
    hcutoff hbefore
  have hmarked : marked = ended.2.updated := by
    refine Eq.trans ?_ (hmarking.marked_eq hnodup).symm
    show List.map _ _ = _
    rw [staleIn, List.filter_filter]
    congr 1
    refine List.filter_congr fun d _ => ?_
    rw [Bool.and_assoc, Bool.and_comm]
  have hleaves := hmarking.leaves hids (fun d hd => mem_of_mem_staleIn hd) hnodup
  rw [hmarked]
  refine ⟨hended, ?_, hleaves, ?_, ?_⟩
  · have hmem : ∀ id ∈ ended.2.updated, id.IsProper := by
      intro id hid
      obtain ⟨d, hd, rfl⟩ := List.mem_map.1 (hmarking.sublist.subset hid)
      exact hproper d (mem_of_mem_staleIn hd)
    refine (hnodup.sublist hmarking.sublist).map_on fun id hid id' hid' htext => ?_
    exact ObjectId.text_inj (hmem id hid) (hmem id' hid') htext
  · intro d hd hstale hspares
    exact hmarking.attempted (List.mem_filter.2 ⟨hd, hstale⟩) hspares
  · intro hnone k' hactive hnow
    rw [hnone] at hmarking
    have hleft := hmarking.spares_of_stale hleaves
    refine run_of_all_spared owns (fun d hd => hproper d (hleft d hd).1)
      (fun d hd => hreads d (hleft d hd).1) (by rw [hnow]; exact hcutoff) hbefore fun d hd => ?_
    rw [spares, hactive]
    exact (hleft d hd).2

/-- Runs that began with 1970: one that nobody runs, one that is active, and one whose record cannot
be updated; and a run that began half a day later. -/
def sampleStore : Store :=
  let record (n : Nat) (began : Int) : Document := ⟨Collection.testRuns.numbered n,
    (TestRun.begin "f" "to@example.com" "start-1" (.ofInstant began)).document⟩
  ⟨.empty, ⟨[record 1 0, record 2 0, record 3 0, record 4 43200000000], 4⟩, .empty⟩

/-- A day after the beginning of 1970 the second run is active, and after the first update every
other one finds nothing. -/
def sampleConditions : Conditions where
  clock _ := .ofInstant 86400001000
  active id := id == (Collection.testRuns.numbered 2).text
  mishap past := if (past.filterMap Exchange.updated?).isEmpty then none else some none

/-- A sweep marks the run that nobody runs. -/
theorem run_exact_sample :
    cutoff 0 (.ofInstant 86400001000) = .ok (.ofInstant 1000) ∧
    let ended := sampleConditions.carryOut ⟨sampleStore, []⟩ (Sweep.run true 0 none)
    ended.1 = .done [(Collection.testRuns.numbered 1).text] ∧
      ended.2.missed = [Collection.testRuns.numbered 3] ∧
      Leaves sampleConditions none [Collection.testRuns.numbered 1] sampleStore ended.2.store := by
  have hcutoff : cutoff 0 (.ofInstant 86400001000) = .ok (.ofInstant 1000) := by rfl
  have hrecords : ∀ d ∈ sampleStore.testRuns.documents,
      ∃ n ≤ 4, ∃ r : TestRun, d = ⟨Collection.testRuns.numbered n, r.document⟩ := by
    intro d hd
    simp only [sampleStore, List.mem_cons, List.not_mem_nil, or_false] at hd
    rcases hd with rfl | rfl | rfl | rfl
    · exact ⟨1, by decide, _, rfl⟩
    · exact ⟨2, by decide, _, rfl⟩
    · exact ⟨3, by decide, _, rfl⟩
    · exact ⟨4, by decide, _, rfl⟩
  have hproper : ∀ d ∈ sampleStore.testRuns.documents, d.id.IsProper := by
    intro d hd
    obtain ⟨n, hn, r, rfl⟩ := hrecords d hd
    exact Collection.numbered_isProper (Nat.lt_of_le_of_lt hn (by decide))
  have hreads : ∀ d ∈ sampleStore.testRuns.documents, d.IsTestRun := by
    intro d hd
    obtain ⟨n, -, r, rfl⟩ := hrecords d hd
    exact ⟨.ofInstant 0, _, testRunOf_document _ _ r⟩
  obtain ⟨hmarked, -, hleaves, -, -⟩ := run_exact sampleConditions sampleStore true 0 none
    (by decide +kernel) hproper hreads hcutoff (by decide)
  have hids : (sampleStore.testRuns.documents.filter fun d =>
      isStale (.ofInstant 1000) d && !spares sampleConditions true d &&
        (sampleConditions.carryOut ⟨sampleStore, []⟩
          (Sweep.run true 0 none)).2.updated.contains d.id).map Document.id =
      [Collection.testRuns.numbered 1] := by
    decide +kernel
  rw [hids] at hmarked hleaves
  exact ⟨hcutoff, hmarked, by decide +kernel, hleaves⟩

end Sweep

end Automation
