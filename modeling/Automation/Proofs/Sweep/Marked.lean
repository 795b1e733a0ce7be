import Automation.Proofs.Service.Sweeping
import Automation.Proofs.Sweep.Spared

/-!
# What a sweep marks

Where no run is in the background and no call of the store fails, a sweep marks the records that
count as running and began before its cutoff, both cut to the millisecond, and no others
(`mem_finds_iff`). A run that was marked has ended, so of any number of sweeps the first that
catches a run is the one that marks it (`HoldsRun.marked_iff`).
-/

set_option autoImplicit false

namespace Automation

open World (Outcome)
open Program
open TestRun (Update)

/-! ## Sweeps -/

/-- A sweep: the time at which it comes, whether it is one of the process that owns the runs, its
grace, and the moment that it is to take for now, if it is told one. -/
structure Round where
  time : Int
  owns : Bool
  graceSeconds : Int
  moment : Option Moment

namespace Round

/-- The time as a moment. -/
def clock (x : Round) : Moment := .ofInstant x.time

/-- The moment that the sweep takes for now. -/
def now (x : Round) : Moment := x.moment.getD x.clock

/-- Whether a sweep catches a run that began at a moment and still counts as running: its cutoff is
later, both cut to the millisecond. -/
def catches (x : Round) (began : Moment) : Bool :=
  match Sweep.cutoff x.graceSeconds x.now with
  | .ok before =>
    Moment.cutToMillisecond began.instant < Moment.cutToMillisecond before.instant
  | .error _ => false

/-- The dates of a sweep are such that the store can keep them. -/
structure IsKept (x : Round) : Prop where
  clock : x.clock.stored?.isSome
  now : x.now.stored?.isSome
  cutoff : ∀ before, Sweep.cutoff x.graceSeconds x.now = .ok before → before.stored?.isSome

/-- The update of a record that a sweep marks. -/
def update (x : Round) : Update := .fail x.now Sweep.reason ⟨0, 0, some Sweep.reason⟩

/-- A run that a sweep has marked, as a document keeps it. -/
def marked (x : Round) (run : TestRun) : TestRun := x.update.apply x.clock run

/-- The fields that a sweep sets of a record. -/
def changes (x : Round) : Fields := Value.keptFields (x.update.fields x.clock)

/-- The records that a sweep of a store finds. -/
def finds (x : Round) (store : Store) : List ObjectId :=
  match Sweep.cutoff x.graceSeconds x.now with
  | .ok before => (World.staleDocuments store before).map Document.id
  | .error _ => []

theorem update_isSound (x : Round) : x.update.IsSound := ⟨by decide, rfl⟩

end Round

/-! ## Worlds at rest -/

namespace World

/-- A world with a store of which no call fails, at some time, with nothing in the background. -/
structure Rests (w : World) (store : Store) (clock : Int) : Prop where
  database : w.database = ⟨store, []⟩
  tasks : w.tasks = []
  clock : w.clock = clock

/-- The answer of a world to a sweep: the ids of the runs that it marked, and the world after it. -/
def sweepAt (w : World) (x : Round) : List String × World :=
  match ({ w with clock := x.time } : World).perform
    (Sweep.run x.owns x.graceSeconds x.moment) with
  | (.done marked, w) => (marked, w)
  | (_, w) => ([], w)

/-- The world after sweeps. -/
def sweepAll (w : World) (xs : List Round) : World := xs.foldl (fun w x => (w.sweepAt x).2) w

variable {α : Type} {w : World} {store : Store} {clock : Int}

theorem Rests.holds (h : w.Rests store clock) : w.Holds store := by
  refine ⟨by rw [h.database], fun f hf => ?_⟩
  rw [h.database] at hf
  exact absurd hf List.not_mem_nil

/-- Quiet requests leave a world at rest. -/
theorem keeps_rests (store : Store) (clock : Int) :
    setting.Keeps Request.IsQuiet fun w => w.Rests store clock := by
  refine setting_keeps fun w r hr h => ⟨?_, ?_, ?_⟩
  · rw [database_answer h.holds (isPlain_of_isQuiet hr), h.database]
  · rw [(tasks_answer w hr.launchesNone).1, h.tasks]
  · rw [← h.clock]
    rcases hr.eq with rfl | ⟨e, rfl⟩ | rfl
    · rfl
    · simp only [answer, World.report]
      split <;> rfl
    · simp only [answer]
      split
      · rfl
      · split <;> rfl

/-- A client of the store can be made in a world at rest. -/
theorem connect_rests (h : w.Rests store clock) :
    Repository.connect.Upholds setting w fun w o => o = .done () ∧ w.Rests store clock := by
  refine ((connect_upholds h.holds).and
    (asks_connect.keeps (keeps_rests store clock) h)).mono ?_
  rintro w o ⟨⟨ho, -⟩, hw⟩
  exact ⟨ho, hw⟩

/-- A world at rest tells the time. -/
theorem now_rests {k : Moment → Program α} {Q : World → Outcome α → Prop} (h : w.Rests store clock)
    (hk : ∀ w, w.Rests store clock → (k (.ofInstant clock)).Upholds setting w Q) :
    (Program.now >>= k).Upholds setting w Q := by
  refine ⟨trivial, fun x w' hmoves => ?_⟩
  have hanswer : (w.now, w) = (x, w') := hmoves
  cases hanswer
  rw [now, h.clock]
  exact hk w h

/-- A world at rest answers a query as its store does. -/
theorem query_rests {q : Query} {y : q.Answer} {store' : Store}
    {k : Except StoreError q.Answer → Program α} {Q : World → Outcome α → Prop}
    (h : w.Rests store clock) (hy : store.answer q = .ok (y, store'))
    (hk : ∀ w, w.Rests store' clock → (k (.ok y)).Upholds setting w Q) :
    (Program.query q >>= k).Upholds setting w Q := by
  refine ⟨trivial, fun x w' hmoves => ?_⟩
  have hanswer : (Except.ok y, { w with database := ⟨store', []⟩ }) = (x, w') := by
    have hdatabase := answer_of_faults_nil (show (Database.mk store []).faults = [] from rfl) q
    rw [← show w.answer (.query q) = (x, w') from hmoves, answer, h.database, hdatabase, hy]
  cases hanswer
  exact hk _ ⟨rfl, h.tasks, h.clock⟩

end World

/-! ## Marking -/

namespace Sweep

variable {store : Store} {x : Round} {w : World} {run : TestRun} {oid : ObjectId}

/-- What a sweep sets of a record can be kept. -/
theorem storedFields?_update (hkept : x.IsKept) :
    Value.storedFields? (x.update.fields x.clock) = .ok x.changes := by
  have hdate : ∀ {m : Moment}, m.stored?.isSome → ∃ v, (Value.date m).stored? = .ok v := by
    intro m hm
    obtain ⟨m', hm'⟩ := Option.isSome_iff_exists.1 hm
    exact ⟨.date m', by rw [Value.stored?, hm']⟩
  obtain ⟨clock, hclock⟩ := hdate hkept.clock
  obtain ⟨now, hnow⟩ := hdate hkept.now
  have hsummary : (Summary.mk 0 0 (some reason)).write.stored? =
      .ok (Summary.mk 0 0 (some reason)).write :=
    Value.stored?_record <| Value.storedFields?_cons rfl (Value.stored?_int rfl) <|
      Value.storedFields?_cons rfl (Value.stored?_int rfl) <|
        Value.storedFields?_cons rfl (Value.stored?_ofText? _) Value.storedFields?_nil
  have hfields : Value.storedFields? (x.update.fields x.clock) = .ok _ :=
    Value.storedFields?_cons rfl (Value.stored?_text _) <| Value.storedFields?_cons rfl hnow <|
      Value.storedFields?_cons rfl (Value.stored?_text _) <|
        Value.storedFields?_cons rfl hsummary <|
          Value.storedFields?_cons rfl hclock Value.storedFields?_nil
  rw [hfields, Value.storedFields?_eq_kept _ hfields]
  rfl

/-- Updating a record sets its fields. -/
theorem update_rests {id : String} (hkept : x.IsKept) (hid : ObjectId.ofText? id = some oid)
    (huses : store.testRuns.uses oid = true) (hw : w.Rests store x.time) :
    (Repository.updateTestRun id (TestRun.failing x.now reason ⟨0, 0, some reason⟩)).Upholds
      World.setting w fun w o => o = .done true ∧
        w.Rests { store with testRuns := store.testRuns.change oid x.changes } x.time := by
  have hanswer : store.answer (.update .testRuns oid (x.update.fields x.clock)) =
      .ok (true, { store with testRuns := store.testRuns.change oid x.changes }) := by
    simp only [Store.answer, storedFields?_update hkept, Store.shelf, Store.withShelf, huses]
  unfold Repository.updateTestRun
  rw [hid]
  refine (World.connect_rests hw).bind_unit fun w hw => World.now_rests hw fun w hw => ?_
  exact World.query_rests hw hanswer fun w hw => ⟨rfl, hw⟩

/-- Marking a run that is not in the background sets the fields of its record. -/
theorem mark_rests {id : String} (hkept : x.IsKept) (hrun : run.id = some id)
    (hid : ObjectId.ofText? id = some oid) (hsummary : run.summary = none)
    (huses : store.testRuns.uses oid = true) (hw : w.Rests store x.time) :
    (mark x.owns x.moment run).Upholds World.setting w fun w o => o = .done (some id) ∧
      w.Rests { store with testRuns := store.testRuns.change oid x.changes } x.time := by
  have hsummaryOf : summaryOf run = ⟨0, 0, some reason⟩ := by
    rw [summaryOf, hsummary]
    rfl
  have hmark : ∀ w : World, w.Rests store x.time → (Program.now >>= fun clock =>
      Repository.updateTestRun id
        (TestRun.failing (x.moment.getD clock) reason ⟨0, 0, some reason⟩) >>= fun marked =>
          if marked = true then
            Program.warning speaker ("Test run " ++ id ++ " (flow " ++ run.flowId ++
              ") marked as failed: " ++ reason) >>= fun _ => pure (some id)
          else
            Program.error speaker ("Failed to mark stale test run " ++ id ++ " as failed") >>=
              fun _ => pure none).Upholds World.setting w fun w o =>
        o = .done (some id) ∧
          w.Rests { store with testRuns := store.testRuns.change oid x.changes } x.time := by
    refine fun w hw => World.now_rests hw fun w hw => ?_
    refine Upholds.bind_eq (update_rests hkept hid huses hw) fun w hw => ?_
    exact (report_upholds (World.keeps_rests _ _) _ hw).bind_unit fun w hw => ⟨rfl, hw⟩
  unfold mark
  simp only [hrun, Option.getD_some, hsummaryOf]
  cases x.owns with
  | false => exact hmark w hw
  | true =>
    refine ⟨trivial, fun active w' hmoves => ?_⟩
    have hanswer : (w.isActive (run.id.getD ""), w) = (active, w') := hmoves
    have hnone : w.isActive (run.id.getD "") = false := by
      rw [World.isActive, hw.tasks, List.any_nil]
    rw [hnone] at hanswer
    cases hanswer
    exact hmark w hw

/-- A store in which the fields of some records were set, one after the other. -/
def withChanges (store : Store) (ids : List ObjectId) (changes : Fields) : Store :=
  ids.foldl (fun store oid => { store with testRuns := store.testRuns.change oid changes }) store

/-- A run that was read from a record which counts as running. -/
structure ReadFrom (store : Store) (oid : ObjectId) (run : TestRun) : Prop where
  id : run.id = some oid.text
  proper : oid.IsProper
  summary : run.summary = none
  uses : store.testRuns.uses oid = true

/-- Changes of other records leave it open whether an id is in use. -/
theorem uses_change (s : Shelf) (id oid : ObjectId) (changes : Fields) :
    (s.change id changes).uses oid = s.uses oid := by
  have hany : ∀ s : Shelf, s.uses oid = (s.documents.map Document.id).any (· == oid) := by
    intro s
    rw [Shelf.uses, List.any_map]
    rfl
  rw [hany, hany, Shelf.map_id_change]

/-- Marking runs one after the other sets the fields of their records. -/
theorem markAll_rests (hkept : x.IsKept) {ids : List ObjectId} {runs : List TestRun}
    (hruns : List.Forall₂ (ReadFrom store) ids runs) (hw : w.Rests store x.time) :
    (markAll x.owns x.moment runs).Upholds World.setting w fun w o =>
      o = .done (ids.map ObjectId.text) ∧ w.Rests (withChanges store ids x.changes) x.time := by
  induction ids generalizing w store runs with
  | nil =>
    cases hruns
    exact ⟨rfl, hw⟩
  | cons oid ids ih =>
    obtain ⟨run, runs, hrun, hrest, rfl⟩ := List.forall₂_cons_left_iff.1 hruns
    have hid := ObjectId.ofText?_text hrun.proper
    have hmark := mark_rests hkept hrun.id hid hrun.summary hrun.uses hw
    have hlater := hrest.imp fun oid' run' (h : ReadFrom store oid' run') =>
      (⟨h.id, h.proper, h.summary, (uses_change _ _ _ _).trans h.uses⟩ :
        ReadFrom { store with testRuns := store.testRuns.change oid x.changes } oid' run')
    rw [List.map_cons]
    generalize oid.text = text at hmark
    refine Upholds.bind_eq hmark fun w hw => ?_
    exact Upholds.bind_eq (ih hlater hw) fun w hw => ⟨rfl, hw⟩

/-! ## Searching -/

/-- Records of a store that count as running are all read. -/
theorem exists_readFrom (now : Moment) {docs : List Document}
    (hrecords : ∀ d ∈ docs, d ∈ store.testRuns.documents ∧ d.id.IsProper ∧
      ∃ r : TestRun, d.fields = r.document ∧ r.summary = none) :
    ∃ runs, Repository.readAll (Repository.testRunOf now) docs = .ok runs ∧
      List.Forall₂ (ReadFrom store) (docs.map Document.id) runs := by
  induction docs with
  | nil => exact ⟨[], rfl, .nil⟩
  | cons d rest ih =>
    obtain ⟨runs, hruns, hrest⟩ := ih fun d hd => hrecords d (List.mem_cons_of_mem _ hd)
    obtain ⟨hmem, hproper, r, hfields, hsummary⟩ := hrecords d List.mem_cons_self
    have huses : store.testRuns.uses d.id = true :=
      List.any_eq_true.2 ⟨d, hmem, beq_self_eq_true d.id⟩
    have hread := testRunOf_document now d.id r
    rw [← hfields] at hread
    have hfirst : ReadFrom store d.id { r with id := some d.id.text } :=
      ⟨rfl, hproper, hsummary, huses⟩
    refine ⟨_ :: runs, ?_, .cons hfirst hrest⟩
    rw [Repository.readAll, hread, hruns]
    rfl

/-- The records that a sweep with a cutoff finds, in the order of their insertion. -/
theorem search_rests {before : Moment} (hregister : store.testRuns.IsRegister)
    (hids : store.testRuns.lastNumber < World.ids) (hbefore : before.stored?.isSome)
    (hw : w.Rests store x.time) :
    (Repository.getStaleTestRuns before).Upholds World.setting w fun w o =>
      ∃ runs, o = .done runs ∧ w.Rests store x.time ∧ List.Forall₂ (ReadFrom store)
        ((World.staleDocuments store before).map Document.id) runs := by
  obtain ⟨limit, hlimit⟩ := Option.isSome_iff_exists.1 hbefore
  have hfound : store.answer (.find .testRuns (Repository.staleFilter before) .insertion) =
      .ok (World.staleDocuments store before, store) := by
    simp [Store.answer, Repository.staleFilter, Store.storedClause?, hlimit, World.staleDocuments]
    rfl
  have hrecords : ∀ d ∈ World.staleDocuments store before, d ∈ store.testRuns.documents ∧
      d.id.IsProper ∧ ∃ r : TestRun, d.fields = r.document ∧ r.summary = none := by
    intro d hd
    obtain ⟨hmem, limit, -, hstatus, -⟩ := World.mem_staleDocuments.1 hd
    obtain ⟨n, hn, hgiven⟩ := hregister.given d hmem
    obtain ⟨r, hfields, hcoherent⟩ := hregister.records d hmem
    have hrunning := (Document.isRunning_iff hfields).1 (Clause.holds_textIs_iff.1 hstatus)
    refine ⟨hmem, ?_, r, hfields, (hcoherent.isUnended hrunning).summary⟩
    rw [hgiven]
    exact Collection.numbered_isProper (Nat.lt_of_le_of_lt hn hids)
  obtain ⟨runs, hruns, hread⟩ := exists_readFrom (.ofInstant x.time) hrecords
  unfold Repository.getStaleTestRuns
  refine (World.connect_rests hw).bind_unit fun w hw => ?_
  refine World.query_rests hw hfound fun w hw => World.now_rests hw fun w hw => ?_
  simp only [Except.bind, hruns]
  exact ⟨runs, rfl, hw, hread⟩

/-- A sweep of a world at rest marks the records that it finds. -/
theorem run_rests (hkept : x.IsKept) (hregister : store.testRuns.IsRegister)
    (hids : store.testRuns.lastNumber < World.ids) (hw : w.Rests store x.time) :
    (Sweep.run x.owns x.graceSeconds x.moment).Upholds World.setting w fun w o =>
      (o = .done ((x.finds store).map ObjectId.text) ∨ (∃ f, o = .failed f) ∧ x.finds store = []) ∧
        w.Rests (withChanges store (x.finds store) x.changes) x.time := by
  unfold Sweep.run
  refine World.now_rests hw fun w hw => ?_
  rw [show x.moment.getD (Moment.ofInstant x.time) = x.now from rfl]
  cases hcutoff : cutoff x.graceSeconds x.now with
  | error e =>
    have hnone : x.finds store = [] := by rw [Round.finds, hcutoff]
    rw [hnone]
    exact ⟨Or.inr ⟨⟨_, rfl⟩, rfl⟩, hw⟩
  | ok before =>
    have hfinds : x.finds store = (World.staleDocuments store before).map Document.id := by
      rw [Round.finds, hcutoff]
    rw [hfinds]
    show Upholds _ (Repository.getStaleTestRuns before >>= _) w _
    refine Upholds.bind_done (search_rests hregister hids (hkept.cutoff _ hcutoff) hw) ?_
    rintro w runs ⟨hw, hruns⟩
    cases runs with
    | nil =>
      rw [List.forall₂_nil_right_iff.1 hruns]
      exact ⟨Or.inl rfl, hw⟩
    | cons first rest =>
      refine (report_upholds (World.keeps_rests _ _) _ hw).bind_unit fun w hw => ?_
      exact (markAll_rests hkept hruns hw).mono fun w o ⟨ho, hw⟩ => ⟨Or.inl ho, hw⟩

/-! ## Records -/

theorem nodup_finds (hregister : store.testRuns.IsRegister) : (x.finds store).Nodup := by
  unfold Round.finds
  split
  · refine hregister.nodup.sublist (List.Sublist.map _ ?_)
    unfold World.staleDocuments
    split
    · exact List.filter_sublist
    · exact List.nil_sublist _
  · exact List.nodup_nil

/-- What a sweep finds are records that count as running. -/
theorem exists_of_mem_finds (hfound : oid ∈ x.finds store) :
    ∃ d ∈ store.testRuns.documents, d.id = oid ∧ d.IsRunning := by
  unfold Round.finds at hfound
  split at hfound
  · obtain ⟨d, hd, hid⟩ := List.mem_map.1 hfound
    obtain ⟨hmem, limit, -, hstatus, -⟩ := World.mem_staleDocuments.1 hd
    exact ⟨d, hmem, hid, Clause.holds_textIs_iff.1 hstatus⟩
  · exact absurd hfound List.not_mem_nil

theorem isRunning_of_mem_finds (hregister : store.testRuns.IsRegister) {d : Document}
    (hd : d ∈ store.testRuns.documents) (hfound : d.id ∈ x.finds store) : d.IsRunning := by
  obtain ⟨d', hd', hid, hrunning⟩ := exists_of_mem_finds hfound
  rwa [hregister.eq_of_id_eq hd hd' hid.symm]

/-- A sweep finds a run exactly when it counts as running and the sweep catches it. -/
theorem mem_finds_iff (hkept : x.IsKept) (hregister : store.testRuns.IsRegister) {run : TestRun}
    {began : Moment} (hrecord : ⟨oid, run.document⟩ ∈ store.testRuns.documents)
    (hbegan : run.startedAt = began.kept) :
    oid ∈ x.finds store ↔ run.status = TestRun.running ∧ x.catches began = true := by
  have hstarted : Fields.get? run.document "started_at" = some (.date began.kept) := by
    rw [← hbegan]
    simp [TestRun.document, Fields.get?_cons]
  unfold Round.finds Round.catches
  cases hcutoff : cutoff x.graceSeconds x.now with
  | error e => simp
  | ok before =>
    obtain ⟨limit, hlimit⟩ := Option.isSome_iff_exists.1 (hkept.cutoff _ hcutoff)
    have hholds : Clause.holds ⟨oid, run.document⟩ (.before "started_at" limit) =
        decide (Moment.cutToMillisecond began.instant <
          Moment.cutToMillisecond before.instant) := by
      simp only [Clause.holds, hstarted, Moment.instant_kept, Moment.stored?_eq_kept hlimit]
    have hrunning : Clause.holds ⟨oid, run.document⟩ (.textIs "status" TestRun.running) = true ↔
        run.status = TestRun.running :=
      Clause.holds_textIs_iff.trans (Document.isRunning_iff rfl)
    simp only [List.mem_map]
    constructor
    · rintro ⟨d, hd, hid⟩
      obtain ⟨hmem, limit', hlimit', hstatus, hbefore⟩ := World.mem_staleDocuments.1 hd
      obtain rfl := hregister.eq_of_id_eq hmem hrecord hid
      obtain rfl : limit' = limit := Option.some.inj (hlimit'.symm.trans hlimit)
      exact ⟨hrunning.1 hstatus, hholds.symm.trans hbefore⟩
    · rintro ⟨hstatus, hcaught⟩
      refine ⟨_, World.mem_staleDocuments.2 ⟨hrecord, limit, hlimit, hrunning.2 hstatus, ?_⟩, rfl⟩
      exact hholds.trans hcaught

/-- The changes of some running records leave a register, in which exactly these are changed. -/
theorem withChanges_register (hregister : store.testRuns.IsRegister) {ids : List ObjectId}
    (hnodup : ids.Nodup) (hrunning : ∀ d ∈ store.testRuns.documents, d.id ∈ ids → d.IsRunning) :
    (withChanges store ids x.changes).testRuns.IsRegister ∧
      (withChanges store ids x.changes).testRuns.lastNumber = store.testRuns.lastNumber ∧
      ∀ oid, (withChanges store ids x.changes).testRuns.findOne [.idIs oid] =
        if oid ∈ ids then
          (store.testRuns.findOne [.idIs oid]).map fun d => d.updated x.changes
        else store.testRuns.findOne [.idIs oid] := by
  induction ids generalizing store with
  | nil => exact ⟨hregister, rfl, fun oid => by simp [withChanges]⟩
  | cons first rest ih =>
    have hfirst := hregister.change x.clock x.update_isSound fun d hd hid =>
      hrunning d hd (by rw [hid]; exact List.mem_cons_self)
    obtain ⟨hnot, hrest⟩ := List.nodup_cons.1 hnodup
    -- the other records are as they were
    have hothers : ∀ d ∈ (store.testRuns.change first x.changes).documents, d.id ∈ rest →
        d.IsRunning := by
      intro d hd hid
      have hne : d.id ≠ first := fun heq => hnot (heq ▸ hid)
      exact hrunning d ((hfirst.others d hne).1 hd) (List.mem_cons_of_mem _ hid)
    obtain ⟨hregister', hlast, hfind⟩ :=
      @ih { store with testRuns := store.testRuns.change first x.changes } hfirst.register hrest
        hothers
    refine ⟨hregister', hlast, fun oid => (hfind oid).trans ?_⟩
    by_cases hoid : oid = first
    · subst hoid
      rw [if_neg hnot, if_pos List.mem_cons_self]
      exact Shelf.findOne_change _ _ _
    · have hmem : oid ∈ first :: rest ↔ oid ∈ rest := by simp [hoid]
      rw [Shelf.findOne_change_of_ne _ (Ne.symm hoid)]
      simp only [hmem]

end Sweep

/-! ## One sweep after the other -/

namespace World

variable {store : Store} {clock : Int} {x : Round} {xs : List Round} {w : World} {oid : ObjectId}
  {run : TestRun} {began : Moment}

/-- A world at rest marks the records that its sweep finds. -/
theorem sweepAt_rests (hkept : x.IsKept) (hregister : store.testRuns.IsRegister)
    (hids : store.testRuns.lastNumber < ids) (hw : w.Rests store clock) :
    (w.sweepAt x).1 = (x.finds store).map ObjectId.text ∧
      (w.sweepAt x).2.Rests (Sweep.withChanges store (x.finds store) x.changes) x.time := by
  have hrests : ({ w with clock := x.time } : World).Rests store x.time :=
    ⟨hw.database, hw.tasks, rfl⟩
  have hafter := perform_upholds (Q := fun w o => _ ∧ World.Rests w _ _)
    (Sweep.run_rests hkept hregister hids hrests)
  unfold sweepAt
  generalize ({ w with clock := x.time } : World).perform
    (Sweep.run x.owns x.graceSeconds x.moment) = result at hafter ⊢
  obtain ⟨o, w'⟩ := result
  rcases hafter with ⟨ho | ⟨⟨f, ho⟩, hnone⟩, hw'⟩
  · obtain rfl : o = _ := ho
    exact ⟨rfl, hw'⟩
  · obtain rfl : o = _ := ho
    exact ⟨by rw [hnone]; rfl, hw'⟩

/-- A world at rest whose test runs are in order, with the record of a run. -/
structure HoldsRun (w : World) (oid : ObjectId) (run : TestRun) : Prop where
  rests : ∃ clock, w.Rests w.database.store clock
  register : w.shelf.IsRegister
  room : w.shelf.lastNumber < ids
  record : w.shelf.findOne [.idIs oid] = some ⟨oid, run.document⟩

/-- A sweep marks a run exactly when it counts as running and the sweep catches it. -/
theorem HoldsRun.sweepAt (h : w.HoldsRun oid run) (hbegan : run.startedAt = began.kept)
    (hkept : x.IsKept) :
    (oid.text ∈ (w.sweepAt x).1 ↔ run.status = TestRun.running ∧ x.catches began = true) ∧
      (w.sweepAt x).2.HoldsRun oid
        (if run.status = TestRun.running ∧ x.catches began = true then x.marked run else run) := by
  obtain ⟨clock, hrests⟩ := h.rests
  have hrecord := List.mem_of_find?_eq_some h.record
  obtain ⟨hmarked, hafter⟩ := sweepAt_rests hkept h.register h.room hrests
  have hfinds := Sweep.mem_finds_iff hkept h.register hrecord hbegan
  obtain ⟨hregister, hlast, hfind⟩ := Sweep.withChanges_register (x := x) h.register
    (Sweep.nodup_finds (x := x) h.register) fun d hd => Sweep.isRunning_of_mem_finds h.register hd
  have hproper : ∀ d ∈ w.shelf.documents, d.id.IsProper := by
    intro d hd
    obtain ⟨n, hn, hgiven⟩ := h.register.given d hd
    rw [hgiven]
    exact Collection.numbered_isProper (Nat.lt_of_le_of_lt hn h.room)
  constructor
  · rw [hmarked, ← hfinds]
    constructor
    · intro hmem
      obtain ⟨oid', hoid', htext⟩ := List.mem_map.1 hmem
      obtain ⟨d, hd, rfl, -⟩ := Sweep.exists_of_mem_finds hoid'
      rwa [ObjectId.text_inj (hproper d hd) (hproper _ hrecord) htext] at hoid'
    · exact List.mem_map_of_mem
  · have hstore : (w.sweepAt x).2.database.store =
        Sweep.withChanges w.database.store (x.finds w.database.store) x.changes := by
      rw [hafter.database]
    refine ⟨⟨x.time, by rw [hstore]; exact hafter⟩, ?_, ?_, ?_⟩
    · rw [shelf, hstore]
      exact hregister
    · rw [shelf, hstore, hlast]
      exact h.room
    · rw [shelf, hstore, hfind oid, show w.database.store.testRuns.findOne _ = _ from h.record]
      by_cases hcaught : run.status = TestRun.running ∧ x.catches began = true
      · rw [if_pos (hfinds.2 hcaught), if_pos hcaught, Option.map_some, Document.updated,
          Round.changes, Update.merge_fields]
        rfl
      · rw [if_neg (fun hmem => hcaught (hfinds.1 hmem)), if_neg hcaught]

/-- A run that has ended stays as it is, whatever sweeps come. -/
theorem HoldsRun.sweepAll_ended (h : w.HoldsRun oid run) (hbegan : run.startedAt = began.kept)
    (hended : run.status ≠ TestRun.running) (hkept : ∀ x ∈ xs, x.IsKept) :
    (w.sweepAll xs).HoldsRun oid run := by
  induction xs generalizing w with
  | nil => exact h
  | cons x rest ih =>
    have hafter := (h.sweepAt hbegan (hkept x List.mem_cons_self)).2
    rw [if_neg fun hcaught => hended hcaught.1] at hafter
    exact ih hafter fun y hy => hkept y (List.mem_cons_of_mem _ hy)

/-- A run that counts as running is marked by the first sweep that catches it, and stays so. -/
theorem HoldsRun.sweepAll (h : w.HoldsRun oid run) (hbegan : run.startedAt = began.kept)
    (hrunning : run.status = TestRun.running) (hkept : ∀ x ∈ xs, x.IsKept) :
    (w.sweepAll xs).HoldsRun oid
      ((xs.find? fun x => x.catches began).elim run fun x => x.marked run) := by
  induction xs generalizing w with
  | nil => exact h
  | cons x rest ih =>
    have hafter := (h.sweepAt hbegan (hkept x List.mem_cons_self)).2
    have hlater := fun y hy => hkept y (List.mem_cons_of_mem x hy)
    cases hcaught : x.catches began with
    | true =>
      rw [if_pos ⟨hrunning, hcaught⟩] at hafter
      simp only [List.find?_cons, hcaught]
      have hfailed : (x.marked run).status ≠ TestRun.running := by
        show TestRun.failed ≠ TestRun.running
        decide
      show ((w.sweepAt x).2.sweepAll rest).HoldsRun oid (x.marked run)
      exact HoldsRun.sweepAll_ended hafter hbegan hfailed hlater
    | false =>
      rw [if_neg fun hboth => Bool.false_ne_true (hcaught.symm.trans hboth.2)] at hafter
      simp only [List.find?_cons, hcaught]
      exact ih hafter hlater

/-- Of any number of sweeps the first that catches a run marks it, and no other does. -/
theorem HoldsRun.marked_iff (h : w.HoldsRun oid run) (hbegan : run.startedAt = began.kept)
    (hrunning : run.status = TestRun.running) (hkept : ∀ x ∈ xs, x.IsKept) (hx : x.IsKept) :
    oid.text ∈ ((w.sweepAll xs).sweepAt x).1 ↔
      x.catches began = true ∧ ∀ y ∈ xs, y.catches began = false := by
  have hbefore := h.sweepAll hbegan hrunning hkept
  cases hfirst : xs.find? fun x => x.catches began with
  | none =>
    rw [hfirst] at hbefore
    have hnone : ∀ y ∈ xs, y.catches began = false := fun y hy =>
      Bool.eq_false_iff.2 (List.find?_eq_none.1 hfirst y hy)
    rw [(hbefore.sweepAt hbegan hx).1]
    exact ⟨fun hcaught => ⟨hcaught.2, hnone⟩, fun hcaught => ⟨hrunning, hcaught.1⟩⟩
  | some y =>
    rw [hfirst] at hbefore
    have hmem := List.mem_of_find?_eq_some hfirst
    have hcaught := List.find?_some hfirst
    rw [(HoldsRun.sweepAt hbefore hbegan hx).1]
    constructor
    · rintro ⟨hstatus, -⟩
      exact absurd hstatus (by show TestRun.failed ≠ TestRun.running; decide)
    · rintro ⟨-, hnone⟩
      exact absurd ((hnone y hmem).symm.trans hcaught) Bool.false_ne_true

end World

end Automation
