import Automation.Proofs.Service.Sweeping

/-!
# The records of test runs are final

Each step of the service leaves it in order, so it is in order after any number of them, for as long
as there are ids: every record is coherent, one that has ended is never touched again, and one that
counts as running has a run in the background, unless that run was cancelled or could not write its
end (`records_final`).
-/

set_option autoImplicit false

namespace Automation

open Program

/-- A store with another test run. -/
def Store.withRun (store : Store) (run : TestRun) : Store :=
  { store with testRuns := ⟨store.testRuns.documents ++
    [⟨Collection.testRuns.numbered (store.freshNumber .testRuns), run.kept.document⟩],
    store.freshNumber .testRuns⟩ }

namespace World

variable {w w' : World} {es es' : List Event}

/-! ## Beginning runs -/

theorem asks_createTestRun (run : TestRun) :
    (Repository.createTestRun run).Asks Request.LaunchesNone :=
  Asks.createTestRun (fun _ h => h.launchesNone) trivial

/-- A new record is the last of the test runs, or the store could not keep it. -/
theorem createTestRun_upholds {store : Store} (run : TestRun) (hw : w.Holds store) :
    (Repository.createTestRun run).Upholds setting w fun w o =>
      (o = .done none ∧ w.Holds store) ∨
        o = .done (some { run with
          id := some (Collection.testRuns.numbered (store.freshNumber .testRuns)).text }) ∧
          w.Holds (store.withRun run) := by
  have hq : Collection.testRuns.name ≠ Collection.testRuns.name ∨ "insert_one" ≠ "update_one" :=
    Or.inr (by decide)
  refine (connect_upholds hw).bind_unit fun w hw => ?_
  cases hkept : Value.storedFields? run.document with
  | error e =>
    have hrefused : store.answer (.insert .testRuns run.document) = .error e := by
      simp only [Store.answer, hkept]
    refine refused_upholds hq hw hrefused fun w hw => ?_
    refine (report_upholds (keeps_holds store) _ hw).bind_unit fun w hw => ?_
    exact Or.inl ⟨rfl, hw⟩
  | ok kept =>
    obtain rfl := Value.storedFields?_eq_kept _ hkept
    have hmade : store.answer (.insert .testRuns run.document) =
        .ok (some (Collection.testRuns.numbered (store.freshNumber .testRuns)),
          store.withRun run) := by
      simp only [Store.answer, hkept, TestRun.keptFields_document]
      rfl
    exact query_upholds hq hw hmade fun w hw => Or.inr ⟨rfl, hw⟩

/-- The runs in the background have older records. -/
theorem InOrder.owner_ne (h : w.InOrder es) {n : Nat} (hn : w.shelf.lastNumber < n)
    (hroom : n < ids) {t : Task} (ht : t ∈ w.tasks) :
    t.owner ≠ .run (Collection.testRuns.numbered n).text := by
  intro howner
  obtain ⟨oid, stage, howner', -, ⟨d, hd, rfl⟩, -⟩ := h.tasks t ht
  rw [howner, Owner.run.injEq] at howner'
  exact h.numbered_ne hn hroom hd howner'

/-- A new record that counts as running, and a task for its run, leave the service in order. -/
theorem InOrder.begin (h : w.InOrder es) {n : Nat} {r : TestRun} {p : Program Unit}
    (hn : w.shelf.lastNumber < n) (hroom : n < ids) (hr : r.IsCoherent)
    (hrunning : r.status = TestRun.running)
    (hp : p.Upholds (Stage.setting (Collection.testRuns.numbered n)) .underway Stage.Ends)
    (hshelf : w'.shelf =
      ⟨w.shelf.documents ++ [⟨Collection.testRuns.numbered n, r.document⟩], n⟩)
    (hfaults : ∀ f ∈ w'.database.faults, f.IsOfUpdates)
    (htasks : w'.tasks =
      w.tasks ++ [⟨w.turns, .run (Collection.testRuns.numbered n).text, .ready p⟩])
    (hturns : w'.turns = w.turns + 1) : w'.InOrder es := by
  obtain ⟨hregister, hprecedes⟩ := h.register.insert hn hr
  rw [← hshelf] at hregister hprecedes
  have hdocuments : ∀ d, d ∈ w'.shelf.documents ↔ d ∈ w.shelf.documents ∨
      d = ⟨Collection.testRuns.numbered n, r.document⟩ := by
    intro d
    rw [hshelf, List.mem_append, List.mem_singleton]
  have hmem : ∀ t, t ∈ w'.tasks ↔ t ∈ w.tasks ∨
      t = ⟨w.turns, .run (Collection.testRuns.numbered n).text, .ready p⟩ := by
    intro t
    rw [htasks, List.mem_append, List.mem_singleton]
  refine ⟨hfaults, hregister, by rw [hshelf]; exact hroom, ?_, ?_, ?_, ?_, ?_⟩
  · -- the number is the turn, which no task has had
    rw [htasks, List.map_append, List.map_singleton, ← List.concat_eq_append]
    refine h.numbers.concat fun hnumber => ?_
    obtain ⟨t, ht, hsame⟩ := List.mem_map.1 hnumber
    exact Nat.ne_of_lt (h.turns t ht) hsame
  · intro t ht
    rw [hturns]
    rcases (hmem t).1 ht with ht | rfl
    · exact Nat.lt_succ_of_lt (h.turns t ht)
    · exact Nat.lt_succ_self _
  · rw [htasks, List.map_append, List.map_singleton, ← List.concat_eq_append]
    refine h.owners.concat fun howner => ?_
    obtain ⟨t, ht, hsame⟩ := List.mem_map.1 howner
    exact h.owner_ne hn hroom ht hsame
  · intro t ht
    rcases (hmem t).1 ht with ht | rfl
    · -- the new record is not one of an older task
      refine isSound_mono (h.tasks t ht) (fun e he => he) hprecedes ?_
      intro oid howner hproper d hd hid
      rcases (hdocuments d).1 hd with hd | rfl
      · exact hd
      · rw [← hid] at howner
        exact absurd howner (h.owner_ne hn hroom ht)
    · have hnew := (hdocuments _).2 (Or.inr rfl)
      refine ⟨_, .underway, rfl, Collection.numbered_isProper hroom, ⟨_, hnew, rfl⟩, hp, ?_⟩
      intro d hd hid
      rw [hregister.eq_of_id_eq hd hnew hid]
      exact (Document.isRunning_iff rfl).2 hrunning
  · intro d hd hstill
    rcases (hdocuments d).1 hd with hd | rfl
    · refine (h.live d hd hstill).imp_left fun hlive => ?_
      obtain ⟨t, ht, howner⟩ := isActive_iff.1 hlive
      exact isActive_iff.2 ⟨t, (hmem t).2 (Or.inl ht), howner⟩
    · exact Or.inl (isActive_iff.2 ⟨_, (hmem _).2 (Or.inr rfl), rfl⟩)

/-- A world that has gone on from another one and is in order, if there are still ids. -/
structure Continues (w₀ : World) (es : List Event) (w : World) : Prop where
  holds : w.Holds w.database.store
  precedes : w₀.shelf.Precedes w.shelf
  order : w.shelf.lastNumber < ids → w.InOrder es

theorem keeps_continues (w₀ : World) : setting.Keeps Request.IsQuiet (Continues w₀ es) := by
  refine keeps_matching (fun w hw => ⟨_, hw.holds⟩) fun w w' hmatches hw => ⟨⟨rfl, ?_⟩, ?_, ?_⟩
  · rw [hmatches.database]
    exact hw.holds.faults
  · rw [hmatches.shelf_eq]
    exact hw.precedes
  · rw [hmatches.shelf_eq]
    exact fun hids => (hw.order hids).matches hmatches

theorem InOrder.continues (h : w'.InOrder es) (hshelf : w'.shelf = w.shelf) :
    Continues w es w' := by
  refine ⟨h.holds, ?_, fun _ => h⟩
  rw [hshelf]
  exact Shelf.Precedes.refl _

/-- The run of a new record is begun. -/
theorem InOrder.launch (h : w.InOrder es) {run : TestRun} (hrun : run.kept.IsCoherent)
    (hrunning : run.kept.status = TestRun.running) (hw : w'.Holds (w.database.store.withRun run))
    (htasks : w'.tasks = w.tasks) (hturns : w'.turns = w.turns) (flow : Flow)
    (recipient : String) :
    let id := (Collection.testRuns.numbered (w.database.store.freshNumber .testRuns)).text
    Continues w es (w'.begin (.run id) (w'.runTask flow recipient id)) := by
  intro id
  have hshelf : w'.shelf = ⟨w.shelf.documents ++
      [⟨Collection.testRuns.numbered (w.database.store.freshNumber .testRuns), run.kept.document⟩],
        w.database.store.freshNumber .testRuns⟩ := by
    rw [shelf, hw.store]
    rfl
  have hfresh : w.shelf.lastNumber < w.database.store.freshNumber .testRuns :=
    Store.lastNumber_lt_freshNumber _ .testRuns
  have hprecedes := (h.register.insert hfresh hrun).2
  rw [← hshelf] at hprecedes
  refine ⟨⟨rfl, hw.faults⟩, hprecedes, fun hids => ?_⟩
  have hroom : w.database.store.freshNumber .testRuns < ids := by
    have hlast : w'.shelf.lastNumber < ids := hids
    rw [hshelf] at hlast
    exact hlast
  have hid := ObjectId.ofText?_text (Collection.numbered_isProper (c := .testRuns) hroom)
  have hrunTask := Stage.runTask_upholds w' flow recipient hid
  refine h.begin hfresh hroom hrun hrunning hrunTask hshelf hw.faults ?_ ?_
  · show w'.tasks ++ [⟨w'.turns, .run id, .ready (w'.runTask flow recipient id)⟩] = _
    rw [htasks, hturns]
  · show w'.turns + 1 = w.turns + 1
    rw [hturns]

/-- A flow that is tested leaves the records and the tasks as they are, or has a new record and a
task for its run: what holds then, and is kept by what says nothing about them, holds afterwards. -/
theorem start_leads {P : World → Prop} (hfaults : ∀ f ∈ w.database.faults, f.IsOfUpdates)
    (flow : Flow) (recipient : String) (hkeeps : setting.Keeps Request.IsQuiet P)
    (hrefused : ∀ w' : World, w'.Holds w.database.store → w'.tasks = w.tasks →
      w'.turns = w.turns → P w')
    (hbegun : ∀ (w' : World) (run : TestRun), run.kept.IsCoherent →
      run.kept.status = TestRun.running → w'.Holds (w.database.store.withRun run) →
      w'.tasks = w.tasks → w'.turns = w.turns →
      let id := (Collection.testRuns.numbered (w.database.store.freshNumber .testRuns)).text
      P (w'.begin (.run id) (w'.runTask flow recipient id))) :
    P (w.perform (Runner.start flow recipient)).2 := by
  refine perform_upholds (Q := fun w' _ => P w') ?_
  have hquiet : setting.Keeps Request.IsQuiet fun w' =>
      w'.Holds w.database.store ∧ w'.tasks = w.tasks ∧ w'.turns = w.turns := by
    refine keeps_matching (fun w' hw' => ⟨_, hw'.1⟩) fun w' w'' hmatches hw' => ?_
    exact ⟨hw'.1.of_database_eq hmatches.database, hmatches.tasks.trans hw'.2.1,
      hmatches.turns.trans hw'.2.2⟩
  unfold Runner.start
  refine ((Runner.asks_admission flow).keeps hquiet ⟨⟨rfl, hfaults⟩, rfl, rfl⟩).bind ?_
    (fun w' f hw' => hrefused w' hw'.1 hw'.2.1 hw'.2.2)
    fun w' hw' => hrefused w' hw'.1 hw'.2.1 hw'.2.2
  rintro w' ⟨id, node⟩ hw'
  have hclock := hquiet w' .clock trivial hw'
  refine ⟨hclock.1, fun now w' hmoves => ?_⟩
  obtain ⟨hholds, htasks, hturns⟩ := hclock.2 now w' hmoves
  show Upholds setting
    (Repository.createTestRun (TestRun.begin id recipient node.id now) >>= _) w' _
  have hcreated := (createTestRun_upholds (TestRun.begin id recipient node.id now) hholds).and
    ((asks_createTestRun _).keeps (keeps_tasks w') ⟨rfl, rfl⟩)
  refine hcreated.bind ?_ ?_ ?_
  · rintro w'' record ⟨⟨ho, hholds'⟩ | ⟨ho, hholds'⟩, htasks', hturns'⟩
    · cases ho
      exact hrefused w'' hholds' (htasks'.trans htasks) (hturns'.trans hturns)
    · cases ho
      obtain ⟨hcoherent, hrunning⟩ := TestRun.isCoherent_begin id recipient node.id now
      have hlaunched := hbegun w'' _ hcoherent hrunning hholds' (htasks'.trans htasks)
        (hturns'.trans hturns)
      refine ⟨trivial, fun u w₃ hmoves => ?_⟩
      obtain rfl := congrArg Prod.snd hmoves
      exact (report_upholds hkeeps _ hlaunched).bind_unit fun w hw => hw
  · rintro w'' f ⟨⟨ho, -⟩ | ⟨ho, -⟩, -⟩ <;> cases ho
  · rintro w'' ⟨⟨ho, -⟩ | ⟨ho, -⟩, -⟩ <;> cases ho

/-- A flow that is tested leaves the service in order, as long as there are ids. -/
theorem InOrder.start (h : w.InOrder es) (flow : Flow) (recipient : String) :
    Continues w es (w.perform (Runner.start flow recipient)).2 := by
  refine start_leads h.faults flow recipient (keeps_continues w) ?_ ?_
  · intro w' hholds htasks hturns
    have hshelf : w'.shelf = w.shelf := congrArg Store.testRuns hholds.store
    exact (h.congr hshelf hholds.faults htasks (Nat.le_of_eq hturns.symm)).continues hshelf
  · intro w' run hrun hrunning hw htasks hturns
    exact h.launch hrun hrunning hw htasks hturns flow recipient

/-! ## Ids are only ever given out -/

theorem lastNumber_answer (w : World) (r : Request) :
    w.shelf.lastNumber ≤ (w.answer r).2.shelf.lastNumber := by
  rcases w.store_answer r with hstore | ⟨q, y, -, hanswer⟩
  · rw [shelf, shelf, hstore]
  · simp only [shelf]
    cases Store.answer_testRuns hanswer with
    | same heq => rw [heq]
    | inserted fields heq hinsert =>
      rw [heq]
      exact Nat.le_of_lt (Store.lastNumber_lt_freshNumber _ .testRuns)
    | changed oid changes heq hset =>
      rw [heq]
      exact Nat.le_refl _
    | deleted oid heq hdelete =>
      rw [heq]
      exact Nat.le_refl _

theorem lastNumber_perform {α : Type} (w : World) (p : Program α) :
    w.shelf.lastNumber ≤ (w.perform p).2.shelf.lastNumber := by
  induction p generalizing w with
  | ask r next ih => exact Nat.le_trans (lastNumber_answer w r) (ih _ _)
  | _ => exact Nat.le_refl _

theorem lastNumber_carryOn (w : World) (p : Program Unit) :
    w.shelf.lastNumber ≤ (w.carryOn p).2.shelf.lastNumber := by
  induction p generalizing w with
  | ask r next ih =>
    have hrest := Nat.le_trans (lastNumber_answer w r) (ih (w.answer r).1 (w.answer r).2)
    cases r with
    | sleep ms =>
      unfold carryOn
      split
      · exact Nat.le_refl _
      · exact ih .elapsed w
    | _ => exact hrest
  | _ => exact Nat.le_refl _

theorem lastNumber_cancelRuns (w : World) :
    w.shelf.lastNumber ≤ w.cancelRuns.shelf.lastNumber := by
  have hcancel : ∀ (w : World) t, w.shelf.lastNumber ≤ (w.cancel t).shelf.lastNumber := by
    intro w t
    unfold cancel
    split
    · exact Nat.le_refl _
    · exact lastNumber_carryOn w _
  have hall : ∀ (runs : List Task) (w : World),
      w.shelf.lastNumber ≤ (runs.foldl cancel w).shelf.lastNumber := by
    intro runs
    induction runs with
    | nil => exact fun w => Nat.le_refl _
    | cons t rest ih => exact fun w => Nat.le_trans (hcancel w t) (ih _)
  refine Nat.le_trans (hall (w.tasks.filter Task.isRun) w) ?_
  unfold cancelRuns
  simp only [World.report]
  split
  · exact Nat.le_refl _
  · split <;> exact Nat.le_refl _

theorem Step.lastNumber_le (h : Step w es w') : w.shelf.lastNumber ≤ w'.shelf.lastNumber := by
  cases h with
  | start flow recipient => exact lastNumber_perform w _
  | request ht howner hstate hr => exact lastNumber_answer w _
  | sweep graceSeconds now => exact lastNumber_perform w _
  | shutdown => exact lastNumber_cancelRuns w
  | _ => exact Nat.le_refl _

theorem Steps.lastNumber_le (h : Steps w es w') : w.shelf.lastNumber ≤ w'.shelf.lastNumber := by
  induction h with
  | refl => exact Nat.le_refl _
  | step hsteps hstep ih => exact Nat.le_trans ih hstep.lastNumber_le

/-! ## Every step -/

/-- A step leaves the service in order, as long as there are ids. -/
theorem InOrder.step (h : w.InOrder es) (hstep : Step w es' w') (hids : w'.shelf.lastNumber < ids) :
    w'.InOrder (es ++ es') ∧ w.shelf.Precedes w'.shelf := by
  cases hstep with
  | start flow recipient =>
    have hstart := h.start flow recipient
    rw [List.append_nil]
    exact ⟨hstart.order hids, hstart.precedes⟩
  | request ht howner hstate hr => exact h.request ht howner hstate hr rfl
  | fallAsleep ht hstate hms =>
    rw [List.append_nil]
    refine h.goOn_alone { w with turns := w.turns + 1 } ht rfl rfl (Nat.le_succ _) ?_
    intro oid stage hupholds
    rw [hstate] at hupholds
    exact upholds_of_sleep hupholds _ _
  | skip ht hstate hms =>
    rw [List.append_nil]
    refine h.goOn_alone w ht rfl rfl (Nat.le_refl _) ?_
    intro oid stage hupholds
    rw [hstate] at hupholds
    exact (upholds_of_sleep hupholds 0 0).1
  | wake ht hstate hdue =>
    rw [List.append_nil]
    refine h.goOn_alone w ht rfl rfl (Nat.le_refl _) ?_
    intro oid stage hupholds
    rw [hstate] at hupholds
    exact hupholds.1
  | finish ht hstate hp =>
    rw [List.append_nil]
    exact h.finish ht hstate hp
  | tick hclock =>
    rw [List.append_nil]
    exact ⟨h.congr rfl h.faults rfl (Nat.le_refl _), Shelf.Precedes.refl _⟩
  | fault hfaults =>
    rw [List.append_nil]
    exact ⟨h.congr rfl hfaults rfl (Nat.le_refl _), Shelf.Precedes.refl _⟩
  | sweep graceSeconds now =>
    rw [List.append_nil]
    exact h.sweep graceSeconds now
  | shutdown => exact h.shutdown

/-- So do all steps of a way. -/
theorem InOrder.steps (h : w.InOrder es) (hsteps : Steps w es' w')
    (hids : w'.shelf.lastNumber < ids) : w'.InOrder (es ++ es') ∧ w.shelf.Precedes w'.shelf := by
  induction hsteps with
  | refl =>
    rw [List.append_nil]
    exact ⟨h, Shelf.Precedes.refl _⟩
  | step hsteps hstep ih =>
    obtain ⟨horder, hprecedes⟩ := ih (Nat.lt_of_le_of_lt hstep.lastNumber_le hids)
    obtain ⟨horder', hprecedes'⟩ := horder.step hstep hids
    rw [← List.append_assoc]
    exact ⟨horder', hprecedes.trans hprecedes'⟩

/-- A service that begins without test runs is in order. -/
theorem inOrder_of_nil (hfaults : ∀ f ∈ w.database.faults, f.IsOfUpdates) (htasks : w.tasks = [])
    (hruns : w.shelf.documents = []) (hids : w.shelf.lastNumber < ids) : w.InOrder [] where
  faults := hfaults
  register := Shelf.isRegister_of_nil hruns
  room := hids
  numbers := by rw [htasks]; exact List.nodup_nil
  turns t ht := absurd (htasks ▸ ht) List.not_mem_nil
  owners := by rw [htasks]; exact List.nodup_nil
  tasks t ht := absurd (htasks ▸ ht) List.not_mem_nil
  live d hd := absurd (hruns ▸ hd) List.not_mem_nil

/-- The records of test runs are coherent at any time, and final once they have ended. A service
that begins without test runs, of which at most updates of test runs fail from time to time, goes on
by any steps, and then by any more. A record that counts as running in between has a run in the
background, unless that run was cancelled or its end could not be written; and afterwards the record
is still there, coherent, and the same if it did not count as running. -/
theorem records_final {w₀ : World} (hfaults : ∀ f ∈ w₀.database.faults, f.IsOfUpdates)
    (htasks : w₀.tasks = []) (hruns : w₀.shelf.documents = []) (hsteps : Steps w₀ es w)
    (hmore : Steps w es' w') (hids : w'.shelf.lastNumber < ids) :
    (w'.shelf.documents.map Document.id).Nodup ∧
    ∀ d ∈ w.shelf.documents, ∃ r : TestRun, d.fields = r.document ∧ r.IsCoherent ∧
      (r.status = TestRun.running → w.isActive d.id.text = true ∨
        Event.cancelled d.id.text ∈ es ∨ Event.unrecorded d.id.text ∈ es) ∧
      ∃ d' ∈ w'.shelf.documents, d'.id = d.id ∧
        (∃ r' : TestRun, d'.fields = r'.document ∧ r'.IsCoherent) ∧
        (r.status ≠ TestRun.running → d' = d) := by
  have hlast : w.shelf.lastNumber < ids := Nat.lt_of_le_of_lt hmore.lastNumber_le hids
  have hbegin := inOrder_of_nil hfaults htasks hruns
    (Nat.lt_of_le_of_lt hsteps.lastNumber_le hlast)
  obtain ⟨horder, -⟩ := hbegin.steps hsteps hlast
  obtain ⟨horder', hprecedes⟩ := horder.steps hmore hids
  refine ⟨horder'.register.nodup, fun d hd => ?_⟩
  obtain ⟨r, hfields, hcoherent⟩ := horder.register.records d hd
  obtain ⟨d', hd', hid, hsame⟩ := hprecedes.documents d hd
  have hrunning := Document.isRunning_iff hfields
  exact ⟨r, hfields, hcoherent, fun h => horder.live d hd (hrunning.2 h), d', hd', hid,
    horder'.register.records d' hd', fun h => hsame fun h' => h (hrunning.1 h')⟩

/-- A flow of two nodes, saved under an id. -/
def briefFlow : Flow where
  id := some "f"
  name := "Brief"
  nodes := [⟨"start", none, .start [], []⟩, ⟨"end", none, .finish [], []⟩]
  edges := [⟨"only", "start", "end", none, none, none, []⟩]
  createdAt := none
  updatedAt := none

/-- A world at the beginning of 1970 in which nothing has happened yet. -/
def idleWorld : World :=
  World.make ⟨"", "", 0, "", "", "", "", "", "", "", "", 0, 0, ""⟩ ⟨.nobody, Runner.defaultSubject⟩
    .empty ⟨[], 0⟩ 0 .info

/-- The world after a run was begun and cancelled at once. -/
def leftWorld : World :=
  (idleWorld.perform (Runner.start briefFlow "to@example.com")).2.cancelRuns

/-- The world after a sweep that came more than a day later. -/
def sweptWorld : World :=
  (({ leftWorld with clock := 100000000000 } : World).perform (Sweep.run true 3600 none)).2

/-- A run that was cancelled before its first step leaves a record that counts as running, until a
sweep fails it. -/
theorem records_final_swept :
    (∃ d ∈ leftWorld.shelf.documents, d.IsRunning) ∧
    ∀ d ∈ leftWorld.shelf.documents, ∃ d' ∈ sweptWorld.shelf.documents, d'.id = d.id ∧
      (∃ r' : TestRun, d'.fields = r'.document ∧ r'.IsCoherent) ∧ ¬ d'.IsRunning := by
  have hsteps : Steps idleWorld [.cancelled "b00000000000000000000001"] leftWorld :=
    .step (.step (.refl _) (.start idleWorld briefFlow "to@example.com")) (.shutdown _)
  have htick : Step leftWorld [] { leftWorld with clock := 100000000000 } := .tick (by decide)
  have hmore : Steps leftWorld [] sweptWorld := .step (.step (.refl _) htick) (.sweep _ 3600 none)
  have hstatus : leftWorld.shelf.documents.map (fun d => d.fields.get? "status") =
      [some (.text "running")] := by rfl
  have hstatus' : sweptWorld.shelf.documents.map (fun d => d.fields.get? "status") =
      [some (.text "failed")] := by rfl
  have hended : ∀ d' ∈ sweptWorld.shelf.documents, ¬ d'.IsRunning := by
    intro d' hd' hrunning
    have hmem : d'.fields.get? "status" ∈
        sweptWorld.shelf.documents.map fun d => d.fields.get? "status" := List.mem_map_of_mem hd'
    rw [hstatus', List.mem_singleton, hrunning] at hmem
    exact absurd (Value.text.inj (Option.some.inj hmem)) (by decide)
  have hfaults : ∀ f ∈ idleWorld.database.faults, f.IsOfUpdates :=
    fun f hf => absurd hf List.not_mem_nil
  obtain ⟨-, hrecords⟩ := records_final hfaults rfl rfl hsteps hmore (by decide)
  refine ⟨?_, fun d hd => ?_⟩
  · obtain ⟨d, hd, hrunning⟩ := List.mem_map.1
      (hstatus ▸ List.mem_singleton.2 rfl : some (.text "running") ∈
        leftWorld.shelf.documents.map fun d => d.fields.get? "status")
    exact ⟨d, hd, hrunning⟩
  · obtain ⟨r, -, -, -, d', hd', hid, hcoherent, -⟩ := hrecords d hd
    exact ⟨d', hd', hid, hcoherent, hended d' hd'⟩

end World

end Automation
