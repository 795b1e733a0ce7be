import Automation.Proofs.Sweep.Watch
import Automation.Proofs.World.Performance
import Automation.Sweep

/-!
# Sweeps spare healthy runs

A sweep takes a run for stale that began before the longest time a run may sleep and the grace,
counted back from now. A run sleeps no longer than that, so as long as it spends no more than the
grace outside of its pauses, no sweep catches it: not even one by a process that knows nothing of
the run but what the store says.
-/

set_option autoImplicit false

namespace Automation

open World (Outcome passing)
open Program

namespace Watch

variable {α : Type} {s : Watch}

/-- How much of the time up to a moment a program has slept in the pause that it stands in. -/
def pausedFor (s : Watch) (now : Moment) : Program α → Int
  | .ask (.sleep _) _ => now.instant - s.clock
  | _ => 0

/-- The time that a run has spent outside of its pauses from when it began up to a moment. -/
def awakeFor (s : Watch) (startedAt now : Moment) (p : Program α) : Int :=
  now.instant - startedAt.instant - s.slept - s.pausedFor now p

/-- What a run has slept up to a moment at which no pause is over that it stands in. -/
theorem slept_le {p : Program α} {Q : Watch → Outcome α → Prop}
    (hp : p.Upholds setting s Q) (hQ : ∀ s o, Q s o → s.Idles) {now : Moment}
    (hpause : ∀ ms next, p = .ask (.sleep ms) next → now.instant ≤ s.clock + passing ms) :
    s.slept + s.pausedFor now p ≤ longest := by
  have hend : s.Idles → s.slept + 0 ≤ longest := by
    rintro ⟨time, hs⟩
    rw [hs.slept, Int.add_zero]
    exact hs.le
  cases p with
  | done a => exact hend (hQ _ _ hp)
  | failed f => exact hend (hQ _ _ hp)
  | cancelled => exact hend (hQ _ _ hp)
  | ask r next =>
    have hfits := hp.1.2
    cases r with
    | sleep ms =>
      have hnow := hpause ms next rfl
      show s.slept + (now.instant - s.clock) ≤ longest
      have hpausing : s.slept + passing ms ≤ longest := hfits
      omega
    | _ => exact hfits

end Watch

namespace Sweep

/-- A moment counted back from another by the window of a sweep. -/
theorem instant_of_cutoff {grace : Int} {now before : Moment}
    (h : cutoff grace now = .ok before) :
    before.instant = now.instant - (Watch.longest + grace * 1000000) := by
  unfold cutoff at h
  split at h
  · cases h
  · rename_i micros hwindow
    split at h
    · rename_i m hm
      cases h
      have hmicros : micros = Watch.longest + grace * 1000000 := by
        unfold window? at hwindow
        simp only at hwindow
        split at hwindow
        · cases hwindow
        · split at hwindow
          · cases hwindow
          · cases hwindow
            rfl
      unfold Moment.plus? at hm
      split at hm
      · cases hm
        simp only [Moment.instant]
        omega
      · cases hm
    · cases h

/-- A run that began no earlier than a moment does not count as having begun before it. -/
theorem ne_of_mem_staleDocuments {store : Store} {id : ObjectId} {startedAt before : Moment}
    (h : store.Begins id startedAt) (hle : before.instant ≤ startedAt.instant) {d : Document}
    (hd : d ∈ World.staleDocuments store before) : d.id ≠ id := by
  intro hid
  obtain ⟨hmem, limit, hlimit, -, hbefore⟩ := World.mem_staleDocuments.1 hd
  rw [Clause.holds, h.dated d hmem hid] at hbefore
  have hlt : startedAt.kept.instant < limit.instant := by simpa using hbefore
  rw [Moment.stored?_eq_kept hlimit, Moment.instant_kept, Moment.instant_kept] at hlt
  exact absurd (Moment.cutToMillisecond_le hle) (Int.not_le.2 hlt)

/-- What was read from documents one by one was each read from one of them. -/
theorem exists_of_forall₂ {α β : Type} {R : α → β → Prop} {as : List α} {bs : List β}
    (h : List.Forall₂ R as bs) {b : β} (hb : b ∈ bs) : ∃ a ∈ as, R a b := by
  induction h with
  | nil => exact absurd hb List.not_mem_nil
  | cons hab hrest ih =>
    rcases List.mem_cons.1 hb with rfl | hb
    · exact ⟨_, List.mem_cons_self, hab⟩
    · obtain ⟨a, ha, hR⟩ := ih hb
      exact ⟨a, List.mem_cons_of_mem _ ha, hR⟩

/-- The requests of a sweep that leaves a record alone. -/
def Spares (id : ObjectId) : Request → Prop
  | .query (.update .testRuns oid _) => oid ≠ id
  | r => r.IsQuiet

theorem spares_of_isQuiet {id : ObjectId} {r : Request} (h : r.IsQuiet) : Spares id r := by
  cases r <;> first | exact h | exact h.elim

/-- A sweep by a process that owns no runs changes the records of the runs that it marks. -/
theorem asks_markAll {id : ObjectId} (now : Option Moment) (runs : List TestRun)
    (h : ∀ run ∈ runs, ObjectId.ofText? (run.id.getD "") ≠ some id) :
    (markAll false now runs).Asks (Spares id) := by
  induction runs with
  | nil => trivial
  | cons run rest ih =>
    have hmark : (mark false now run).Asks (Spares id) := by
      refine ⟨trivial, fun clock => ?_⟩
      show Asks _ (Repository.updateTestRun (run.id.getD "") _ >>= _)
      refine Asks.bind ?_ fun marked => ?_
      · unfold Repository.updateTestRun
        cases hrun : ObjectId.ofText? (run.id.getD "") with
        | none => trivial
        | some oid =>
          refine (asks_connect.mono fun _ => spares_of_isQuiet).bind fun _ =>
            ⟨trivial, fun now => ⟨?_, fun x => ?_⟩⟩
          · intro heq
            exact h run List.mem_cons_self (by rw [hrun, heq])
          · cases x with
            | ok matched => trivial
            | error e => exact ⟨trivial, fun _ => trivial⟩
      · cases marked with
        | true => exact ⟨trivial, fun _ => trivial⟩
        | false => exact ⟨trivial, fun _ => trivial⟩
    refine hmark.bind fun id => (ih fun run hrun => h run (List.mem_cons_of_mem _ hrun)).bind ?_
    exact fun ids => trivial

/-- Such requests leave the record of the run as it is. -/
theorem keeps_record (id : ObjectId) (record : Option Document) :
    World.setting.Keeps (Spares id) fun w => ∃ store, w.Holds store ∧
      store.testRuns.findOne [.idIs id] = record := by
  refine World.setting_keeps fun w r hr ⟨store, hw, hrecord⟩ => ?_
  match r, hr with
  | .query (.update .testRuns oid changes), hr =>
    rcases World.answer_update hw oid changes with ⟨-, hw⟩ | ⟨-, hw⟩
    · exact ⟨_, hw, (Shelf.findOne_change_of_ne _ hr _).trans hrecord⟩
    · exact ⟨_, hw, hrecord⟩
  | .clock, _ => exact ⟨store, hw.of_database_eq (World.database_answer hw trivial), hrecord⟩
  | .report e, _ => exact ⟨store, hw.of_database_eq (World.database_answer hw trivial), hrecord⟩
  | .connect, _ => exact ⟨store, hw.of_database_eq (World.database_answer hw trivial), hrecord⟩

/-- A search for stale runs finds other runs than one that began no earlier than they had to. -/
theorem search_upholds {store : Store} {id : ObjectId} {startedAt before : Moment}
    (h : store.Begins id startedAt) (hle : before.instant ≤ startedAt.instant)
    (hids : ∀ d ∈ store.testRuns.documents, d.id.IsProper) {w : World} (hw : w.Holds store) :
    (Repository.getStaleTestRuns before).Upholds World.setting w fun w o =>
      ∃ runs, o = .done runs ∧ w.Holds store ∧ ∀ run ∈ runs, ∃ oid, oid.IsProper ∧ oid ≠ id ∧
        run.id = some oid.text := by
  refine (World.getStaleTestRuns_upholds before hw).mono ?_
  rintro w o ⟨runs, ho, hw, hruns⟩
  refine ⟨runs, ho, hw, fun run hrun => ?_⟩
  rcases hruns with rfl | ⟨now, hread⟩
  · exact absurd hrun List.not_mem_nil
  · obtain ⟨d, hd, hread⟩ := exists_of_forall₂ hread hrun
    have hmem := (World.mem_staleDocuments.1 hd).1
    exact ⟨d.id, hids d hmem, ne_of_mem_staleDocuments h hle hd, id_of_testRunOf hread⟩

/-- A sweep leaves the record of such a run as it is. -/
theorem run_upholds {store : Store} {id : ObjectId} {startedAt now before : Moment} {grace : Int}
    (h : store.Begins id startedAt) (hbefore : cutoff grace now = .ok before)
    (hle : before.instant ≤ startedAt.instant)
    (hids : ∀ d ∈ store.testRuns.documents, d.id.IsProper) {w : World} (hw : w.Holds store) :
    (run false grace (some now)).Upholds World.setting w fun w _ =>
      w.database.store.testRuns.findOne [.idIs id] = store.testRuns.findOne [.idIs id] := by
  unfold run
  refine World.now_upholds hw fun clock w hw => ?_
  rw [Option.getD_some, hbefore]
  show Upholds _ (Repository.getStaleTestRuns before >>= _) w _
  refine Upholds.bind_done (search_upholds h hle hids hw) ?_
  rintro w runs ⟨hw, hruns⟩
  cases runs with
  | nil =>
    show w.database.store.testRuns.findOne [.idIs id] = _
    rw [hw.store]
  | cons first rest =>
    have hmarks : (markAll false (some now) (first :: rest)).Asks (Spares id) := by
      refine asks_markAll _ _ fun run hrun => ?_
      obtain ⟨oid, hproper, hne, hother⟩ := hruns run hrun
      rw [hother, Option.getD_some, ObjectId.ofText?_text hproper]
      exact fun heq => hne (Option.some.inj heq)
    have hrest : Asks (Spares id) (info speaker ("Found " ++
        toString (first :: rest).length ++ " stale test run(s) to reconcile") >>= fun _ =>
          markAll false (some now) (first :: rest)) := ⟨trivial, fun _ => hmarks⟩
    refine (hrest.keeps (keeps_record id _) ⟨store, hw, rfl⟩).mono ?_
    rintro w o ⟨store', hw, hrecord⟩
    rw [hw.store, hrecord]

/-- A sweep catches no healthy run. When a run of a flow without a defect has, from its beginning up
to now, spent no more time outside of its pauses than the grace, a search of the store for stale
runs does not find it, and a sweep by a process that owns no runs leaves its record as it is. -/
theorem healthy_run_spared (r : Runner) (flow : Flow) (recipient : String)
    (hvalid : flow.defect? = none) {s₀ s : Watch} {p : Program Summary}
    (hbegin : s₀.record = none ∧ s₀.slept = 0)
    (hway : Leads Watch.Moves s₀
      (Runner.start flow recipient >>= fun runId => r.run ⟨flow, recipient, runId⟩) s p)
    {id : ObjectId} {startedAt now before : Moment} {grace : Int}
    (hrecord : s.record = some (id, startedAt))
    (hpause : ∀ ms next, p = .ask (.sleep ms) next → now.instant ≤ s.clock + passing ms)
    (hhealthy : s.awakeFor startedAt now p ≤ grace * 1000000)
    (hbefore : cutoff grace now = .ok before)
    (hids : ∀ d ∈ s.store.testRuns.documents, d.id.IsProper)
    (hnumber : s.store.testRuns.lastNumber < 10 ^ 23)
    {w : World} (hw : w.Holds s.store) :
    (∃ runs, (w.perform (Repository.getStaleTestRuns before)).1 = .done runs ∧
      ∀ run ∈ runs, run.id ≠ some id.text) ∧
    (w.perform (run false grace (some now))).2.database.store.testRuns.findOne [.idIs id] =
      s.store.testRuns.findOne [.idIs id] := by
  have hwell : flow.WellFormed := (Flow.defect?_eq_none_iff flow).1 hvalid
  have hrests : s₀.Rests 0 := by
    refine ⟨fun id startedAt h => ?_, hbegin.2, by decide⟩
    rw [hbegin.1] at h
    cases h
  have hupholds := Watch.start_upholds r hwell recipient hrests
  have hslept := Watch.slept_le (hupholds.leads hway) (fun _ _ h => h) hpause
  have hdated : s.IsDated :=
    hupholds.holds (fun _ _ h => h.1) (fun _ _ ⟨_, h⟩ => h.dated) hway
  have hbegins := hdated id startedAt hrecord
  have hle : before.instant ≤ startedAt.instant := by
    rw [instant_of_cutoff hbefore]
    unfold Watch.awakeFor at hhealthy
    omega
  have hid : id.IsProper := by
    obtain ⟨n, hn, rfl⟩ := hbegins.given
    exact Collection.numbered_isProper (Nat.lt_of_le_of_lt hn hnumber)
  constructor
  · refine World.perform_upholds (Q := fun _ o => ∃ runs : List TestRun, o = .done runs ∧
      ∀ run ∈ runs, run.id ≠ some id.text) ((search_upholds hbegins hle hids hw).mono ?_)
    rintro w' o ⟨runs, ho, -, hruns⟩
    refine ⟨runs, ho, fun run hrun hrunid => ?_⟩
    obtain ⟨oid, hproper, hne, hother⟩ := hruns run hrun
    rw [hother] at hrunid
    exact hne (ObjectId.text_inj hproper hid (Option.some.inj hrunid))
  · exact World.perform_upholds (Q := fun w _ => w.database.store.testRuns.findOne [.idIs id] =
      s.store.testRuns.findOne [.idIs id]) (run_upholds hbegins hbefore hle hids hw)

/-- The sample flow, saved under an id. -/
def savedFlow : Flow := { Script.sampleFlow default with id := some "f" }

/-- A run of the saved flow just after its record was made at the beginning of 1970, in a store that
holds nothing else. -/
def heldRun : Watch where
  clock := 0
  slept := 0
  record := some (Collection.testRuns.numbered 1, .ofInstant 0)
  store := ⟨.empty, ⟨[⟨Collection.testRuns.numbered 1,
    (TestRun.begin "f" "to@example.com" "start-1" (.ofInstant 0)).document⟩], 1⟩, .empty⟩

/-- A run that is held up for an hour before its first visit is spared when the grace is an hour. -/
theorem healthy_run_spared_held :
    savedFlow.defect? = none ∧ ∃ p : Program Summary,
      Leads Watch.Moves ⟨0, 0, none, .empty⟩
        (Runner.start savedFlow "to@example.com" >>= fun runId =>
          (Runner.mk .nobody Runner.defaultSubject).run ⟨savedFlow, "to@example.com", runId⟩)
        heldRun p ∧
      heldRun.awakeFor (.ofInstant 0) (.ofInstant 3600000000) p = 3600000000 ∧
      ∀ w : World, w.Holds heldRun.store →
        (w.perform
          (run false 3600 (some (.ofInstant 3600000000)))).2.database.store.testRuns.findOne
            [.idIs (Collection.testRuns.numbered 1)] =
          heldRun.store.testRuns.findOne [.idIs (Collection.testRuns.numbered 1)] := by
  have hvalid : savedFlow.defect? = none := by decide
  have hids : ∀ d ∈ heldRun.store.testRuns.documents, d.id.IsProper := by
    intro d hd
    rw [List.mem_singleton.1 hd]
    exact Collection.numbered_isProper (by decide)
  have hcutoff : cutoff 3600 (.ofInstant 3600000000) = .ok (.ofInstant (-86400000000)) := by rfl
  have hinsert : Store.empty.answer (.insert .testRuns
      (TestRun.begin "f" "to@example.com" "start-1" (.ofInstant 0)).document) =
        .ok (some (Collection.testRuns.numbered 1), heldRun.store) := by rfl
  -- the time is asked for, a client is there, and the record is made
  have hstart : Watch.Moves ⟨0, 0, none, .empty⟩ ⟨.clock, Moment.ofInstant 0⟩
      ⟨0, 0, none, .empty⟩ :=
    ⟨Int.le_refl 0, ⟨Int.le_refl 0, Int.le_refl 0, rfl⟩, rfl, _, rfl, Store.Evolves.refl _⟩
  have hconnect : Watch.Moves ⟨0, 0, none, .empty⟩ ⟨.connect, Except.ok false⟩
      ⟨0, 0, none, .empty⟩ :=
    ⟨Int.le_refl 0, rfl, rfl, _, rfl, Store.Evolves.refl _⟩
  have hmade : Watch.Moves ⟨0, 0, none, .empty⟩ ⟨.query (.insert .testRuns
      (TestRun.begin "f" "to@example.com" "start-1" (.ofInstant 0)).document),
        Except.ok (some (Collection.testRuns.numbered 1))⟩ heldRun :=
    ⟨Int.le_refl 0, rfl, rfl, _, Or.inl ⟨_, hinsert, rfl⟩, Store.Evolves.refl _⟩
  obtain ⟨p, hway, hawake, hpause⟩ : ∃ p : Program Summary,
      Leads Watch.Moves ⟨0, 0, none, .empty⟩
        (Runner.start savedFlow "to@example.com" >>= fun runId =>
          (Runner.mk .nobody Runner.defaultSubject).run ⟨savedFlow, "to@example.com", runId⟩)
        heldRun p ∧
      heldRun.awakeFor (.ofInstant 0) (.ofInstant 3600000000) p = 3600000000 ∧
      ∀ ms next, p = .ask (.sleep ms) next →
        (Moment.ofInstant 3600000000).instant ≤ heldRun.clock + passing ms :=
    ⟨_, Leads.step hstart (Leads.step hconnect (Leads.step hmade (Leads.refl heldRun _))), rfl,
      fun ms next h => nomatch h⟩
  refine ⟨hvalid, p, hway, hawake, fun w hw => ?_⟩
  exact (healthy_run_spared ⟨.nobody, Runner.defaultSubject⟩ savedFlow "to@example.com" hvalid
    ⟨rfl, rfl⟩ hway rfl hpause (by rw [hawake]; decide) hcutoff hids (by decide) hw).2

end Sweep

end Automation
