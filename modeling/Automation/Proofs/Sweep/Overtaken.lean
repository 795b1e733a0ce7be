import Automation.Proofs.Service.Finality
import Automation.Proofs.World.Crowd

/-!
# Runs that end while a sweep is on its way

A sweep looks stale runs up first and deals with them one after the other, and it asks of each
whether it is in the background only when its turn comes. A run that was looked up may end in the
meantime and leave the background, and then the sweep fails it although it was completed
(`Crowd.completed_run_failed`). That is the only way in which the record of a run that has ended is
changed: a sweep has looked the run up while it counted as running, and has asked for it when it was
in the background no longer (`Crowd.ended_record_stays`).
-/

set_option autoImplicit false

namespace Automation

open World (Outcome)
open Program
open TestRun (Update)

/-! ## What a sweep asks -/

/-- A search for stale runs, and what it found. -/
def Exchange.listing (before : Moment) (found : List Document) : Exchange :=
  ⟨.query (.find .testRuns (Repository.staleFilter before) .insertion), .ok found⟩

/-- A run was asked for and was not in the background. -/
def Exchange.unowned (run : String) : Exchange := ⟨.isActive run, false⟩

/-- A sweep has looked a document up. -/
def Listed (d : Document) (es : List Exchange) : Prop :=
  ∃ before found, Exchange.listing before found ∈ es ∧ d ∈ found

/-- What a sweep sets in the record of a run that it fails. -/
def Sweep.marking (run : TestRun) (endedAt : Moment) : Update :=
  .fail endedAt reason (summaryOf run)

/-- What a sweep may ask in view of its exchanges before: it looks stale runs up, it asks for those
that it has looked up, and it fails those that were not in the background. -/
inductive SweepAsks (es : List Exchange) : Request → Prop
  | quiet {r : Request} (hr : r.IsQuiet) : SweepAsks es r
  | search (before : Moment) :
      SweepAsks es (.query (.find .testRuns (Repository.staleFilter before) .insertion))
  | check {d : Document} (hlisted : Listed d es) : SweepAsks es (.isActive d.id.text)
  | mark {d : Document} {oid : ObjectId} (run : TestRun) (endedAt now : Moment)
      (hlisted : Listed d es) (hunowned : Exchange.unowned d.id.text ∈ es)
      (hoid : ObjectId.ofText? d.id.text = some oid) :
      SweepAsks es (.query (.update .testRuns oid ((Sweep.marking run endedAt).fields now)))

variable {es : List Exchange} {d : Document}

theorem SweepAsks.launchesNone {r : Request} (h : SweepAsks es r) : r.LaunchesNone := by
  cases h with
  | quiet hr => exact hr.launchesNone
  | _ => trivial

/-- A sweep asks for those that it has looked up. -/
theorem SweepAsks.exists_listed {run : String} (h : SweepAsks es (.isActive run)) :
    ∃ d, Listed d es ∧ d.id.text = run := by
  generalize hr : Request.isActive run = r at h
  cases h with
  | quiet hquiet => exact (hr ▸ hquiet : (Request.isActive run).IsQuiet).elim
  | search before => cases hr
  | check hlisted => exact ⟨_, hlisted, (Request.isActive.inj hr).symm⟩
  | mark run endedAt now hlisted hunowned hoid => cases hr

theorem Listed.append (h : Listed d es) (es' : List Exchange) : Listed d (es ++ es') := by
  obtain ⟨before, found, hmem, hd⟩ := h
  exact ⟨before, found, List.mem_append_left _ hmem, hd⟩

namespace Sweep

/-- The setting of a sweep. -/
abbrev sweeping : Setting (List Exchange) := Setting.ofPast SweepAsks

/-- Each of the runs was read from a document that was looked up. -/
def Found (runs : List TestRun) (es : List Exchange) : Prop :=
  ∀ run ∈ runs, ∃ d, Listed d es ∧ run.id = some d.id.text

theorem Found.append {runs : List TestRun} (h : Found runs es) (es' : List Exchange) :
    Found runs (es ++ es') := by
  intro run hrun
  obtain ⟨d, hd, hid⟩ := h run hrun
  exact ⟨d, hd.append es', hid⟩

/-- What was looked up stays so. -/
theorem keeps_found (runs : List TestRun) : sweeping.Keeps Request.IsQuiet (Found runs) :=
  Setting.keeps_ofPast (fun _ _ hr => .quiet hr) fun _ _ _ _ h => h.append _

/-- A run that was looked up was not in the background. -/
def Unowned (d : Document) (runs : List TestRun) (es : List Exchange) : Prop :=
  Found runs es ∧ Listed d es ∧ Exchange.unowned d.id.text ∈ es

theorem keeps_unowned (d : Document) (runs : List TestRun) :
    sweeping.Keeps Request.IsQuiet (Unowned d runs) :=
  Setting.keeps_ofPast (fun _ _ hr => .quiet hr) fun _ _ _ _ h =>
    ⟨h.1.append _, h.2.1.append _, List.mem_append_left _ h.2.2⟩

/-- The runs that are read from documents that were looked up. -/
theorem found_of_read {now : Moment} {docs : List Document} {runs : List TestRun}
    (h : Repository.readAll (Repository.testRunOf now) docs = .ok runs)
    (hlisted : ∀ d ∈ docs, Listed d es) : Found runs es := by
  intro run hrun
  have hid : run.id ∈ runs.map TestRun.id := List.mem_map_of_mem hrun
  rw [World.map_id_of_read (World.forall₂_of_readAll h)] at hid
  obtain ⟨d, hd, hid⟩ := List.mem_map.1 hid
  exact ⟨d, hlisted d hd, hid.symm⟩

/-- The runs of a search were read from the documents that it found. -/
theorem getStaleTestRuns_asks (before : Moment) :
    (Repository.getStaleTestRuns before).Upholds sweeping es fun es o =>
      ∀ runs, o = .done runs → Found runs es := by
  have hnone : ∀ es, Found [] es := fun es run hrun => absurd hrun List.not_mem_nil
  unfold Repository.getStaleTestRuns
  refine (connect_upholds (keeps_found []) (hnone es)).bind ?_ (fun es f _ => nofun) ?_
  · rintro es ⟨⟩ -
    refine ⟨.search before, fun x es' hes' => upholds_now_bind.2 ⟨.quiet trivial, ?_⟩⟩
    intro now es'' hes''
    cases hread : x.bind (Repository.readAll (Repository.testRunOf now)) with
    | error e =>
      refine (report_upholds (keeps_found []) _ (hnone es'')).bind_unit fun es h => ?_
      intro runs ho
      cases ho
      exact h
    | ok runs =>
      intro runs' ho
      cases ho
      cases x with
      | error e => cases hread
      | ok found =>
        refine found_of_read hread fun d hd => ⟨before, found, ?_, hd⟩
        rw [show es'' = es' ++ [⟨.clock, now⟩] from hes'', show es' = es ++ [_] from hes']
        exact List.mem_append_left _ (List.mem_append_right _ (List.mem_singleton.2 rfl))
  · rintro es ⟨-, ho | ⟨-, f, ho⟩⟩ <;> cases ho

/-- A run that was looked up and was not in the background may be failed. -/
theorem failRun_asks {run : TestRun} {rest : List TestRun} {id : String} (hid : id = d.id.text)
    (endedAt : Moment) (h : Unowned d rest es) :
    (Repository.updateTestRun id (TestRun.failing endedAt reason
      (summaryOf run))).Upholds sweeping es fun es _ => Found rest es := by
  have hwrite : ∀ oid, ObjectId.ofText? id = some oid → ∀ es now, Unowned d rest es →
      let q : Query := .update .testRuns oid (Fields.insert "updated_at" (.date now)
        (TestRun.failing endedAt reason (summaryOf run)))
      sweeping.fits es (.query q) ∧ ∀ (x : Except StoreError q.Answer) es',
        sweeping.moves es ⟨.query q, x⟩ es' → Found rest es' := by
    intro oid hoid es now h
    rw [hid] at hoid
    refine ⟨.mark run endedAt now h.2.1 h.2.2 hoid, fun x es' hes' => ?_⟩
    rw [show es' = es ++ [_] from hes']
    exact h.1.append _
  have hupdate := updateTestRun_upholds (J := fun _ => Found rest) id _
    (keeps_unowned d rest) (keeps_found rest) (fun _ _ h => h.1) hwrite h
  refine hupdate.mono ?_
  rintro es o (⟨b, -, h⟩ | ⟨-, -, h⟩)
  · exact h
  · exact h.1

/-- A run that was looked up is asked for before it is failed. -/
theorem mark_asks {run : TestRun} {rest : List TestRun} (now : Option Moment)
    (h : Found (run :: rest) es) :
    (mark true now run).Upholds sweeping es fun es _ => Found rest es := by
  obtain ⟨d, hlisted, hid⟩ := h run List.mem_cons_self
  have hrest : Found rest es := fun run' hrun' => h run' (List.mem_cons_of_mem _ hrun')
  have hid : run.id.getD "" = d.id.text := by rw [hid, Option.getD_some]
  unfold mark
  generalize run.id.getD "" = id at hid
  refine ⟨hid ▸ .check hlisted, fun active es' hes' => ?_⟩
  have hrest' : Found rest es' := by
    rw [show es' = es ++ [_] from hes']
    exact hrest.append _
  cases active with
  | true => exact hrest'
  | false =>
    have hunowned : Unowned d rest es' := by
      refine ⟨hrest', ?_⟩
      rw [show es' = es ++ [_] from hes', hid]
      exact ⟨hlisted.append _, List.mem_append_right _ (List.mem_singleton.2 rfl)⟩
    have hclock := keeps_unowned d rest _ .clock trivial hunowned
    refine ⟨hclock.1, fun clock es hes => ?_⟩
    show Upholds sweeping (Repository.updateTestRun id (TestRun.failing
      (now.getD clock) reason (summaryOf run)) >>= _) es _
    refine (failRun_asks hid _ (hclock.2 clock es hes)).bind (fun es marked h => ?_)
      (fun es f h => h) fun es h => h
    cases marked with
    | true => exact (report_upholds (keeps_found rest) _ h).bind_unit fun es h => h
    | false => exact (report_upholds (keeps_found rest) _ h).bind_unit fun es h => h

/-- Runs that were looked up are asked for one after the other. -/
theorem markAll_asks {runs : List TestRun} (now : Option Moment) (h : Found runs es) :
    (markAll true now runs).Upholds sweeping es fun _ _ => True := by
  induction runs generalizing es with
  | nil => exact trivial
  | cons run rest ih =>
    refine (mark_asks now h).bind (fun es id h => ?_) (fun _ _ _ => trivial) fun _ _ => trivial
    exact (ih h).bind (fun _ _ _ => trivial) (fun _ _ _ => trivial) fun _ _ => trivial

/-- A sweep looks stale runs up, asks for each of them, and fails those that nobody has. -/
theorem run_asks (graceSeconds : Int) (now : Option Moment) :
    (run true graceSeconds now).Upholds sweeping [] fun _ _ => True := by
  unfold run
  refine ⟨.quiet trivial, fun clock es _ => ?_⟩
  show Upholds sweeping (ofExcept ((cutoff graceSeconds (now.getD clock)).mapError .span) >>= _)
    es _
  cases cutoff graceSeconds (now.getD clock) with
  | error e => exact trivial
  | ok before =>
    show Upholds sweeping (Repository.getStaleTestRuns before >>= _) es _
    refine (getStaleTestRuns_asks before).bind ?_ (fun _ _ _ => trivial) fun _ _ => trivial
    intro es runs h
    have hfound := h runs rfl
    cases runs with
    | nil => exact trivial
    | cons first rest =>
      exact (report_upholds (keeps_found _) _ hfound).bind_unit fun es h => markAll_asks now h

end Sweep

/-! ## Records that a sweep fails -/

/-- The record of a run that a sweep has failed. -/
def Document.IsMarked (d : Document) : Prop :=
  ∃ r : TestRun, d.fields = r.document ∧ r.status = TestRun.failed ∧ r.error = some Sweep.reason

theorem Document.IsMarked.not_isRunning (h : d.IsMarked) : ¬ d.IsRunning := by
  obtain ⟨r, hfields, hstatus, -⟩ := h
  rw [Document.isRunning_iff hfields, hstatus]
  decide

namespace Shelf

variable {s s' : Shelf} {oid : ObjectId}

/-- What a sweep does to the record of a run that it fails, whether or not the run has ended: there
is still a register, and no other record is touched. -/
structure Marked (s : Shelf) (oid : ObjectId) (s' : Shelf) : Prop where
  register : s'.IsRegister
  lastNumber : s'.lastNumber = s.lastNumber
  kept : ∀ d ∈ s.documents, ∃ d' ∈ s'.documents, d'.id = d.id
  own : ∀ d ∈ s'.documents, d.id = oid → d.IsMarked
  others : ∀ d : Document, d.id ≠ oid → (d ∈ s'.documents ↔ d ∈ s.documents)

theorem IsRegister.mark (h : s.IsRegister) (oid : ObjectId) (run : TestRun)
    (endedAt now : Moment) :
    s.Marked oid (s.change oid (Value.keptFields ((Sweep.marking run endedAt).fields now))) := by
  generalize hu : Sweep.marking run endedAt = u
  -- what becomes of a record that is failed
  have hupdated : ∀ d ∈ s.documents, ∃ r : TestRun,
      (d.updated (Value.keptFields (u.fields now))).fields = r.document ∧ r.IsCoherent ∧
        r.status = TestRun.failed ∧ r.error = some Sweep.reason := by
    intro d hd
    obtain ⟨r, hfields, -⟩ := h.records d hd
    refine ⟨u.apply now r, ?_, ?_⟩
    · rw [Document.updated, hfields, Update.merge_fields]
    · subst hu
      exact ⟨Or.inr (Or.inr ⟨rfl, rfl, _, _, by decide, rfl, rfl, rfl⟩), rfl, rfl⟩
  have hids := h.isNumbered.change oid (Value.keptFields (u.fields now))
  refine ⟨⟨?_, hids.nodup, hids.given⟩, rfl, ?_, ?_, fun d hid => mem_change_iff_of_ne hid⟩
  · intro d' hd'
    obtain ⟨d, hd, -, ⟨-, rfl⟩ | ⟨-, rfl⟩⟩ := mem_change hd'
    · obtain ⟨r, hfields, hcoherent, -⟩ := hupdated d hd
      exact ⟨r, hfields, hcoherent⟩
    · exact h.records d' hd
  · intro d hd
    have hid : d.id ∈
        (s.change oid (Value.keptFields (u.fields now))).documents.map Document.id := by
      rw [map_id_change]
      exact List.mem_map_of_mem hd
    exact List.mem_map.1 hid
  · intro d' hd' hid'
    obtain ⟨d, hd, hsame, ⟨-, rfl⟩ | ⟨hid, -⟩⟩ := mem_change hd'
    · obtain ⟨r, hfields, -, hmarked⟩ := hupdated d hd
      exact ⟨r, hfields, hmarked⟩
    · exact absurd (hsame.symm.trans hid') hid

end Shelf

namespace World

variable {w w' : World} {left left' : List Event} {oid : ObjectId}

/-- A sweep that fails a run that is not in the background leaves the service in order, whether or
not the run has ended, and whether or not the update takes effect. -/
theorem InOrder.mark (h : w.InOrder left) (run : TestRun) (endedAt now : Moment)
    {x : Except StoreError Bool} (hidle : w.isActive oid.text = false)
    (hanswer : w.answer (.query (.update .testRuns oid ((Sweep.marking run endedAt).fields now))) =
      (x, w')) :
    w'.InOrder left ∧ w'.tasks = w.tasks ∧ (w.shelf.Marked oid w'.shelf ∨ w'.shelf = w.shelf) := by
  obtain ⟨htasks, hturns⟩ := tasks_answer w
    (r := .query (.update .testRuns oid ((Sweep.marking run endedAt).fields now))) trivial
  have hupdate := answer_update h.holds oid ((Sweep.marking run endedAt).fields now)
  rw [hanswer] at htasks hturns hupdate
  rcases hupdate with ⟨-, hholds⟩ | ⟨-, hholds⟩
  · have hmarked : w.shelf.Marked oid w'.shelf := by
      rw [show w'.shelf = w.shelf.change oid _ from congrArg Store.testRuns hholds.store]
      exact h.register.mark oid run endedAt now
    refine ⟨⟨hholds.faults, hmarked.register, by rw [hmarked.lastNumber]; exact h.room,
      by rw [htasks]; exact h.numbers, by rw [htasks, hturns]; exact h.turns,
      by rw [htasks]; exact h.owners, ?_, ?_⟩, htasks, Or.inl hmarked⟩
    · -- a run in the background has another record
      rw [htasks]
      intro t ht
      obtain ⟨oid', stage, howner, hproper, ⟨d, hd, hid⟩, hstate, htells⟩ := h.tasks t ht
      have hne : oid' ≠ oid := by
        rintro rfl
        rw [isActive_iff.2 ⟨t, ht, howner⟩] at hidle
        cases hidle
      obtain ⟨d', hd', hid'⟩ := hmarked.kept d hd
      refine ⟨oid', stage, howner, hproper, ⟨d', hd', hid'.trans hid⟩, hstate, ?_⟩
      have hback : ∀ d ∈ w'.shelf.documents, d.id = oid' → d ∈ w.shelf.documents :=
        fun d hd hid => (hmarked.others d (hid ▸ hne)).1 hd
      cases stage with
      | underway => exact fun d hd hid => htells d (hback d hd hid) hid
      | concluded => exact htells.imp_left fun hended d hd hid => hended d (hback d hd hid) hid
      | cancelled => exact htells
    · intro d hd hrunning
      have hne : d.id ≠ oid := fun hid => (hmarked.own d hd hid).not_isRunning hrunning
      unfold isActive
      rw [htasks]
      exact h.live d ((hmarked.others d hne).1 hd) hrunning
  · have hshelf : w'.shelf = w.shelf := congrArg Store.testRuns hholds.store
    exact ⟨h.congr hshelf hholds.faults htasks (Nat.le_of_eq hturns.symm), htasks, Or.inr hshelf⟩

/-! ## Runs that are in the background no longer -/

/-- A world after a flow was tested: no run was begun, or one was, under a new number. -/
structure Began (w w' : World) : Prop where
  holds : w'.Holds w'.database.store
  tasks : w'.tasks = w.tasks ∨ ∃ t, w'.tasks = w.tasks ++ [t] ∧
    t.owner = .run (Collection.testRuns.numbered w'.shelf.lastNumber).text ∧
      w.shelf.lastNumber < w'.shelf.lastNumber

theorem keeps_began (w : World) : setting.Keeps Request.IsQuiet (Began w) := by
  refine keeps_matching (fun w' hw' => ⟨_, hw'.holds⟩) fun w' w'' hmatches hw' => ⟨⟨rfl, ?_⟩, ?_⟩
  · rw [hmatches.database]
    exact hw'.holds.faults
  · rw [hmatches.tasks, hmatches.shelf_eq]
    exact hw'.tasks

/-- A flow that is tested begins at most one run, under a new number. -/
theorem began_start (hfaults : ∀ f ∈ w.database.faults, f.IsOfUpdates) (flow : Flow)
    (recipient : String) : Began w (w.perform (Runner.start flow recipient)).2 := by
  refine start_leads hfaults flow recipient (keeps_began w) ?_ ?_
  · intro w' hholds htasks hturns
    exact ⟨⟨rfl, hholds.faults⟩, Or.inl htasks⟩
  · intro w' run hrun hrunning hholds htasks hturns id
    have hshelf : w'.shelf.lastNumber = w.database.store.freshNumber .testRuns := by
      rw [shelf, hholds.store]
      rfl
    refine ⟨⟨rfl, hholds.faults⟩,
      Or.inr ⟨⟨w'.turns, .run id, .ready (w'.runTask flow recipient id)⟩, ?_, ?_, ?_⟩⟩
    · show w'.tasks ++ [_] = w.tasks ++ [_]
      rw [htasks]
    · show Owner.run id = Owner.run (Collection.testRuns.numbered w'.shelf.lastNumber).text
      rw [hshelf]
    · show _ < w'.shelf.lastNumber
      rw [hshelf]
      exact Store.lastNumber_lt_freshNumber _ .testRuns

/-- A run with a record that is not in the background does not come back. -/
theorem InOrder.idle_step (h : w.InOrder left) (hstep : Step w left' w')
    (hids : w'.shelf.lastNumber < ids) {d : Document} (hd : d ∈ w.shelf.documents)
    (hidle : w.isActive d.id.text = false) : w'.isActive d.id.text = false := by
  have hsame : ∀ {w'' : World}, w''.tasks = w.tasks → w''.isActive d.id.text = false := by
    intro w'' htasks
    unfold isActive at hidle ⊢
    rwa [htasks]
  cases hstep with
  | start flow recipient =>
    rcases (began_start h.faults flow recipient).tasks with htasks | ⟨t, htasks, howner, hlt⟩
    · exact hsame htasks
    · refine Bool.eq_false_iff.2 fun hactive => ?_
      obtain ⟨t', ht', howner'⟩ := isActive_iff.1 hactive
      rw [htasks, List.mem_append, List.mem_singleton] at ht'
      rcases ht' with ht' | rfl
      · rw [isActive_iff.2 ⟨t', ht', howner'⟩] at hidle
        cases hidle
      · rw [howner, Owner.run.injEq] at howner'
        exact h.numbered_ne hlt hids hd howner'
  | request ht howner hstate hr =>
    rename_i t run r next
    rw [isActive_setTask_some]
    refine hsame (tasks_answer w ?_).1
    obtain ⟨oid, stage, -, -, -, hupholds, -⟩ := h.tasks t ht
    rw [hstate] at hupholds
    rcases hupholds.1 with hquiet | ⟨-, hacts⟩
    · exact hquiet.launchesNone
    · cases hacts <;> trivial
  | fallAsleep ht hstate hms =>
    show (World.setTask _ _ _).isActive _ = false
    rwa [isActive_setTask_some]
  | skip ht hstate hms => rwa [isActive_setTask_some]
  | wake ht hstate hdue => rwa [isActive_setTask_some]
  | finish ht hstate hp =>
    refine Bool.eq_false_iff.2 fun hactive => ?_
    obtain ⟨t', ht', howner'⟩ := isActive_iff.1 hactive
    rw [isActive_iff.2 ⟨t', (mem_tasks_setTask_none.1 ht').1, howner'⟩] at hidle
    cases hidle
  | tick hclock => exact hidle
  | fault hfaults => exact hidle
  | sweep graceSeconds now =>
    have hasks : (Sweep.run true graceSeconds now).Asks Request.LaunchesNone :=
      (Sweep.run_asks graceSeconds now).asks_ofPast fun _ _ hasks => hasks.launchesNone
    exact hsame (perform_upholds (hasks.keeps (keeps_tasks w) ⟨rfl, rfl⟩)).1
  | shutdown =>
    unfold isActive
    rw [h.cancelRuns_eq.1]
    rfl

/-- A search for stale runs changes nothing, and finds records that count as running. -/
theorem answer_search (h : w.InOrder left) (before : Moment) :
    (w.answer (.query (.find .testRuns (Repository.staleFilter before) .insertion))).2 = w ∧
      ∀ found, (w.answer (.query (.find .testRuns (Repository.staleFilter before) .insertion))).1 =
        .ok found → ∀ d ∈ found, d ∈ w.shelf.documents ∧ d.IsRunning := by
  have hq : Collection.testRuns.name ≠ Collection.testRuns.name ∨ "find" ≠ "update_one" :=
    Or.inr (by decide)
  rw [answer_query (q := .find .testRuns (Repository.staleFilter before) .insertion) h.holds hq,
    answer_stale]
  cases before.stored? with
  | none => exact ⟨rfl, nofun⟩
  | some limit =>
    refine ⟨rfl, fun found hfound d hd => ?_⟩
    obtain rfl := Except.ok.inj hfound
    obtain ⟨hmem, -, -, hstatus, -⟩ := mem_staleDocuments.1 hd
    exact ⟨hmem, Clause.holds_textIs_iff.1 hstatus⟩

/-- The service goes on by one step. -/
def GoesOn (w w' : World) : Prop := ∃ left, Step w left w'

end World

/-! ## Sweeps among the runs -/

namespace Crowd

variable {ι : Type} [DecidableEq ι] {c c' : Crowd ι (List String)} {i j : ι}

/-- What holds of sweeps that are on their way while the service goes on: what was looked up counted
as running and still has a record, and a run that was not in the background has a record and does
not come back. -/
structure IsSwept (c : Crowd ι (List String)) : Prop where
  order : ∃ left, c.world.InOrder left
  listed : ∀ i d, Listed d (c.own i) → d.IsRunning ∧ ∃ d' ∈ c.world.shelf.documents, d'.id = d.id
  unowned : ∀ i run, Exchange.unowned run ∈ c.own i → c.world.isActive run = false ∧
    ∃ d ∈ c.world.shelf.documents, d.id.text = run

/-- A record with the id of another one, in a world that is in order. -/
theorem IsSwept.isProper (h : c.IsSwept) {d : Document}
    (hd : ∃ d' ∈ c.world.shelf.documents, d'.id = d.id) : d.id.IsProper := by
  obtain ⟨left, horder⟩ := h.order
  obtain ⟨d', hd', hid⟩ := hd
  exact hid ▸ horder.isProper hd'

/-- An answer to a sweep leaves the records alone, unless it is to an update of a run that was
looked up and not in the background. -/
theorem IsSwept.answer (h : c.IsSwept) {r : Request} (hasks : SweepAsks (c.own i) r) :
    (∃ left, (c.world.answer r).2.InOrder left) ∧ (c.world.answer r).2.tasks = c.world.tasks ∧
      ((c.world.answer r).2.shelf = c.world.shelf ∨ ∃ d changes, Listed d (c.own i) ∧
        Exchange.unowned d.id.text ∈ c.own i ∧ r = .query (.update .testRuns d.id changes) ∧
          c.world.shelf.Marked d.id (c.world.answer r).2.shelf) := by
  obtain ⟨left, horder⟩ := h.order
  cases hasks with
  | quiet hr =>
    have hmatches := World.matches_answer horder.holds hr
    exact ⟨⟨left, horder.matches hmatches⟩, hmatches.tasks, Or.inl hmatches.shelf_eq⟩
  | search before =>
    rw [(World.answer_search horder before).1]
    exact ⟨⟨left, horder⟩, rfl, Or.inl rfl⟩
  | check hlisted => exact ⟨⟨left, horder⟩, rfl, Or.inl rfl⟩
  | @mark d oid run endedAt now hlisted hunowned hoid =>
    have hproper := h.isProper (h.listed i d hlisted).2
    obtain rfl : d.id = oid := Option.some.inj ((ObjectId.ofText?_text hproper).symm.trans hoid)
    obtain ⟨horder', htasks, hshelf⟩ :=
      horder.mark run endedAt now (h.unowned i _ hunowned).1 rfl
    refine ⟨⟨left, horder'⟩, htasks, hshelf.symm.imp_right fun hmarked => ?_⟩
    exact ⟨d, _, hlisted, hunowned, rfl, hmarked⟩

/-- A service that begins without test runs, and sweeps that have not begun. -/
theorem isSwept_gathered {w : World} (hfaults : ∀ f ∈ w.database.faults, f.IsOfUpdates)
    (htasks : w.tasks = []) (hruns : w.shelf.documents = [])
    (hids : w.shelf.lastNumber < World.ids) (programs : ι → Program (List String)) :
    (gathered programs w).IsSwept where
  order := ⟨[], World.inOrder_of_nil hfaults htasks hruns hids⟩
  listed _ _ h := by
    obtain ⟨moment, found, hmem, -⟩ := h
    exact absurd (mem_own.1 hmem) List.not_mem_nil
  unowned _ _ h := absurd (mem_own.1 h) List.not_mem_nil

/-- What a sweep has looked up after a turn, it had looked up before or has found now. -/
theorem IsSwept.listed_asked (h : c.IsSwept) {r : Request}
    {next : r.Answer → Program (List String)} {d : Document}
    (hlisted : Listed d ((c.asked i r next).own j)) :
    d.IsRunning ∧ ∃ d' ∈ c.world.shelf.documents, d'.id = d.id := by
  obtain ⟨before, found, hmem, hd⟩ := hlisted
  rcases mem_own_asked.1 hmem with hmem | ⟨-, he⟩
  · exact h.listed j d ⟨before, found, hmem, hd⟩
  · -- a search finds what counts as running and has a record
    obtain ⟨left, horder⟩ := h.order
    cases (congrArg Exchange.request he : _ = r)
    obtain ⟨hmem, hrunning⟩ :=
      (World.answer_search horder before).2 found (eq_of_heq (Exchange.mk.inj he).2).symm d hd
    exact ⟨hrunning, d, hmem, rfl⟩

/-- A run that was not in the background, by what a sweep has asked after a turn, was not there
before the turn, and it has a record. -/
theorem IsSwept.unowned_asked (h : c.IsSwept) {r : Request}
    {next : r.Answer → Program (List String)} (hasks : SweepAsks (c.own i) r) {run : String}
    (hunowned : Exchange.unowned run ∈ (c.asked i r next).own j) :
    c.world.isActive run = false ∧ ∃ d ∈ c.world.shelf.documents, d.id.text = run := by
  rcases mem_own_asked.1 hunowned with hunowned | ⟨-, he⟩
  · exact h.unowned j run hunowned
  · cases (congrArg Exchange.request he : _ = r)
    obtain ⟨d, hlisted, hrun⟩ := hasks.exists_listed
    obtain ⟨d', hd', hid⟩ := (h.listed i d hlisted).2
    exact ⟨(eq_of_heq (Exchange.mk.inj he).2).symm, d', hd', by rw [hid, hrun]⟩

/-- What holds of sweeps that are on their way goes on to hold. -/
theorem IsSwept.turn (h : c.IsSwept) {r : Request} {next : r.Answer → Program (List String)}
    (hasks : SweepAsks (c.own i) r) : (c.asked i r next).IsSwept := by
  obtain ⟨horder, htasks, hshelf⟩ := h.answer hasks
  have hkept : ∀ d ∈ c.world.shelf.documents,
      ∃ d' ∈ (c.asked i r next).world.shelf.documents, d'.id = d.id := by
    intro d hd
    rcases hshelf with hsame | ⟨d', changes, -, -, -, hmarked⟩
    · exact ⟨d, by rw [← hsame] at hd; exact hd, rfl⟩
    · exact hmarked.kept d hd
  have hidle : ∀ run, (c.asked i r next).world.isActive run = c.world.isActive run := by
    intro run
    unfold World.isActive
    rw [show (c.asked i r next).world.tasks = c.world.tasks from htasks]
  refine ⟨horder, fun j d hlisted => ?_, fun j run hunowned => ?_⟩
  · obtain ⟨hrunning, d', hd', hid⟩ := h.listed_asked hlisted
    obtain ⟨d'', hd'', hid'⟩ := hkept d' hd'
    exact ⟨hrunning, d'', hd'', hid'.trans hid⟩
  · obtain ⟨hunactive, d, hd, rfl⟩ := h.unowned_asked hasks hunowned
    obtain ⟨d', hd', hid⟩ := hkept d hd
    exact ⟨(hidle _).trans hunactive, d', hd', by rw [hid]⟩

theorem IsSwept.aside (h : c.IsSwept) {world : World} (hgoes : c.world.GoesOn world)
    (hids : world.shelf.lastNumber < World.ids) : { c with world }.IsSwept := by
  obtain ⟨left, horder⟩ := h.order
  obtain ⟨left', hstep⟩ := hgoes
  obtain ⟨horder', hprecedes⟩ := horder.step hstep hids
  refine ⟨⟨_, horder'⟩, fun j d hlisted => ?_, fun j run hunowned => ?_⟩
  · obtain ⟨hrunning, d', hd', hid⟩ := h.listed j d hlisted
    obtain ⟨d'', hd'', hid', -⟩ := hprecedes.documents d' hd'
    exact ⟨hrunning, d'', hd'', hid'.trans hid⟩
  · obtain ⟨hidle, d, hd, rfl⟩ := h.unowned j run hunowned
    obtain ⟨d', hd', hid, -⟩ := hprecedes.documents d hd
    exact ⟨horder.idle_step hstep hids hd hidle, d', hd', by rw [hid]⟩

/-- No step takes back an id. -/
theorem lastNumber_le (hstep : Step World.GoesOn c c') :
    c.world.shelf.lastNumber ≤ c'.world.shelf.lastNumber := by
  cases hstep with
  | turn i hleft => exact World.lastNumber_answer _ _
  | aside hgoes =>
    obtain ⟨left, hstep⟩ := hgoes
    exact hstep.lastNumber_le

theorem Reaches.lastNumber_le (hreaches : Reaches World.GoesOn c c') :
    c.world.shelf.lastNumber ≤ c'.world.shelf.lastNumber := by
  induction hreaches with
  | refl => exact Nat.le_refl _
  | tail _ hstep ih => exact Nat.le_trans ih (Crowd.lastNumber_le hstep)

/-- What holds of sweeps that are on their way holds as long as there are ids. -/
theorem IsSwept.reaches {Q : List Exchange → Outcome (List String) → Prop} (h : c.IsSwept)
    (hconducted : c.IsConducted SweepAsks Q) (hreaches : Reaches World.GoesOn c c')
    (hids : c'.world.shelf.lastNumber < World.ids) : c'.IsSwept := by
  induction hreaches with
  | refl => exact h
  | tail hbefore hstep ih =>
    have hswept := ih (Nat.lt_of_le_of_lt (Crowd.lastNumber_le hstep) hids)
    cases hstep with
    | turn i hleft => exact hswept.turn ((Reaches.isConducted hbefore hconducted).asks hleft)
    | aside hgoes => exact hswept.aside hgoes hids

/-! ## Records that have ended -/

/-- A sweep had looked a run up while it counted as running, has asked for it when it was in the
background no longer, and has failed it later. -/
structure Overtakes (before later : List (ι × Exchange)) (i : ι) (id : ObjectId) : Prop where
  listed : ∃ moment found, (i, Exchange.listing moment found) ∈ before ∧
    ∃ d ∈ found, d.id = id ∧ d.IsRunning
  unowned : (i, Exchange.unowned id.text) ∈ before ++ later
  failed : ∃ changes x, (i, ⟨.query (.update .testRuns id changes), x⟩) ∈ later

omit [DecidableEq ι] in
theorem Overtakes.append {before later : List (ι × Exchange)} {id : ObjectId}
    (h : Overtakes before later i id) (more : List (ι × Exchange)) :
    Overtakes before (later ++ more) i id := by
  obtain ⟨hlisted, hunowned, changes, x, hfailed⟩ := h
  refine ⟨hlisted, ?_, changes, x, List.mem_append_left _ hfailed⟩
  rw [← List.append_assoc]
  exact List.mem_append_left _ hunowned

/-- What has become of a record that had ended: it is as it was, and no sweep has looked it up since
then, or a sweep that had looked it up before has failed it. -/
inductive Ended (before later : List (ι × Exchange)) (d : Document) (c : Crowd ι (List String)) :
    Prop
  | kept (hd : d ∈ c.world.shelf.documents)
      (hnone : ∀ i moment found, (i, Exchange.listing moment found) ∈ later →
        ∀ d' ∈ found, d'.id ≠ d.id)
  | overtaken {d' : Document} (hd' : d' ∈ c.world.shelf.documents) (hid : d'.id = d.id)
      (hmarked : d'.IsMarked) {i : ι} (hovertakes : Overtakes before later i d.id)

variable {before later : List (ι × Exchange)} {d : Document}

/-- An answer to a sweep leaves a record that has ended as it is, or the sweep had looked it up
before. -/
theorem IsSwept.ended_turn (h : c.IsSwept) {r : Request} {next : r.Answer → Program (List String)}
    (hasks : SweepAsks (c.own i) r) (hpast : c.past = before ++ later) (hrunning : ¬ d.IsRunning)
    (hended : Ended before later d c) :
    Ended before (later ++ [(i, ⟨r, (c.world.answer r).1⟩)]) d (c.asked i r next) := by
  obtain ⟨left, horder⟩ := h.order
  obtain ⟨-, -, hshelf⟩ := h.answer hasks
  cases hended with
  | kept hd hnone =>
    have hnone' : (∀ moment found, (⟨r, (c.world.answer r).1⟩ : Exchange) =
        Exchange.listing moment found → ∀ d' ∈ found, d'.id ≠ d.id) →
        ∀ j moment found, (j, Exchange.listing moment found) ∈
          later ++ [(i, ⟨r, (c.world.answer r).1⟩)] → ∀ d' ∈ found, d'.id ≠ d.id := by
      intro hlast j moment found hmem
      rcases List.mem_append.1 hmem with hmem | hmem
      · exact hnone j moment found hmem
      · exact hlast moment found (Prod.mk.inj (List.mem_singleton.1 hmem)).2.symm
    rcases hshelf with hsame | ⟨d₀, changes, hlisted, hunowned, rfl, hmarked⟩
    · refine .kept (by rw [← hsame] at hd; exact hd) (hnone' fun moment found he d' hd' hid => ?_)
      -- what is looked up counts as running
      cases (congrArg Exchange.request he : r = _)
      obtain ⟨hmem, hrunning'⟩ :=
        (World.answer_search horder moment).2 found (eq_of_heq (Exchange.mk.inj he).2) d' hd'
      exact hrunning (horder.register.eq_of_id_eq hmem hd hid ▸ hrunning')
    · by_cases hid : d₀.id = d.id
      · obtain ⟨d', hd', hid'⟩ := hmarked.kept d hd
        refine .overtaken hd' hid' (hmarked.own d' hd' (hid'.trans hid.symm)) (i := i) ⟨?_, ?_, ?_⟩
        · -- the sweep had looked the run up before it ended, for nobody has done so since
          obtain ⟨moment, found, hmem, hd₀⟩ := hlisted
          refine ⟨moment, found, ?_, d₀, hd₀, hid, (h.listed i d₀ ⟨moment, found, hmem, hd₀⟩).1⟩
          have hpast' := mem_own.1 hmem
          rw [hpast, List.mem_append] at hpast'
          exact hpast'.resolve_right fun hlater => hnone i moment found hlater d₀ hd₀ hid
        · rw [← List.append_assoc, ← hpast, ← hid]
          exact List.mem_append_left _ (mem_own.1 hunowned)
        · exact ⟨changes, _, List.mem_append_right _ (List.mem_singleton.2 (by rw [hid]))⟩
      · refine .kept ((hmarked.others d fun heq => hid heq.symm).2 hd) (hnone' fun _ _ he => ?_)
        cases congrArg Exchange.request he
  | @overtaken d' hd' hid hmarked' j hovertakes =>
    rcases hshelf with hsame | ⟨d₀, changes, -, -, -, hmarked⟩
    · exact .overtaken (by rw [← hsame] at hd'; exact hd') hid hmarked' (hovertakes.append _)
    · by_cases hid₀ : d'.id = d₀.id
      · obtain ⟨d'', hd'', hid''⟩ := hmarked.kept d' hd'
        exact .overtaken hd'' (hid''.trans hid) (hmarked.own d'' hd'' (hid''.trans hid₀))
          (hovertakes.append _)
      · exact .overtaken ((hmarked.others d' hid₀).2 hd') hid hmarked' (hovertakes.append _)

/-- What happens besides sweeps leaves a record that has ended as it is. -/
theorem IsSwept.ended_aside (h : c.IsSwept) {world : World} (hgoes : c.world.GoesOn world)
    (hids : world.shelf.lastNumber < World.ids) (hrunning : ¬ d.IsRunning)
    (hended : Ended before later d c) : Ended before later d { c with world } := by
  obtain ⟨left, horder⟩ := h.order
  obtain ⟨left', hstep⟩ := hgoes
  obtain ⟨-, hprecedes⟩ := horder.step hstep hids
  cases hended with
  | kept hd hnone =>
    obtain ⟨d', hd', -, hsame⟩ := hprecedes.documents d hd
    obtain rfl := hsame hrunning
    exact .kept hd' hnone
  | overtaken hd' hid hmarked hovertakes =>
    obtain ⟨d'', hd'', -, hsame⟩ := hprecedes.documents _ hd'
    obtain rfl := hsame hmarked.not_isRunning
    exact .overtaken hd'' hid hmarked hovertakes

/-- So do all further steps. -/
theorem IsSwept.ended_reaches {Q : List Exchange → Outcome (List String) → Prop} (h : c.IsSwept)
    (hconducted : c.IsConducted SweepAsks Q) (hreaches : Reaches World.GoesOn c c')
    (hids : c'.world.shelf.lastNumber < World.ids) :
    ∃ later, c'.past = c.past ++ later ∧
      ∀ d ∈ c.world.shelf.documents, ¬ d.IsRunning → Ended c.past later d c' := by
  induction hreaches with
  | refl =>
    exact ⟨[], (List.append_nil _).symm, fun d hd _ =>
      .kept hd fun _ _ _ hmem => absurd hmem List.not_mem_nil⟩
  | tail hbefore hstep ih =>
    have hids' := Nat.lt_of_le_of_lt (Crowd.lastNumber_le hstep) hids
    obtain ⟨later, hpast, hended⟩ := ih hids'
    have hswept := h.reaches hconducted hbefore hids'
    cases hstep with
    | turn i hleft =>
      have hasks := (Reaches.isConducted hbefore hconducted).asks hleft
      refine ⟨later ++ [_], ?_, fun d hd hrunning =>
        hswept.ended_turn hasks hpast hrunning (hended d hd hrunning)⟩
      rw [asked, hpast, List.append_assoc]
    | aside hgoes =>
      exact ⟨later, hpast, fun d hd hrunning =>
        hswept.ended_aside hgoes hids hrunning (hended d hd hrunning)⟩

end Crowd

/-! ## A run that a sweep overtakes -/

namespace World

/-- After the next request of a task, or its end. Tasks that pause are left as they are. -/
def goOnWith (w : World) (t : Task) : World :=
  match t.owner, t.state with
  | .run _, .ready (.ask (.sleep _) _) => w
  | .run _, .ready (.ask r next) =>
    (w.answer r).2.setTask t.number (some (.ready (next (w.answer r).1)))
  | _, .ready (.ask _ _) => w
  | _, .ready _ => w.setTask t.number none
  | _, .asleep .. => w

/-- After the next request of the first task, or its end. -/
def advanced (w : World) : World :=
  match w.tasks with
  | [] => w
  | t :: _ => w.goOnWith t

theorem steps_goOnWith {w : World} {t : Task} (ht : t ∈ w.tasks) :
    w.goOnWith t = w ∨ w.GoesOn (w.goOnWith t) := by
  unfold goOnWith
  split
  · exact Or.inl rfl
  · rename_i run r next hsleep howner hstate
    refine Or.inr ⟨_, .request ht howner hstate fun ms heq => ?_⟩
    subst heq
    exact hsleep ms next rfl HEq.rfl
  · exact Or.inl rfl
  · rename_i p hask hstate _ _
    refine Or.inr ⟨_, .finish ht hstate ?_⟩
    cases p with
    | ask r next => exact (hask r next rfl).elim
    | _ => trivial
  · exact Or.inl rfl

end World

namespace Crowd

variable {ι : Type} [DecidableEq ι] {c : Crowd ι (List String)}

/-- After as many requests of the first task while no sweep goes on. -/
def advanced (n : Nat) (c : Crowd ι (List String)) : Crowd ι (List String) :=
  { c with world := World.advanced^[n] c.world }

theorem reaches_aside {world : World} (h : c.world.GoesOn world) :
    Reaches World.GoesOn c { c with world } :=
  .single (.aside h)

theorem reaches_advanced (n : Nat) (c : Crowd ι (List String)) :
    Reaches World.GoesOn c (c.advanced n) := by
  induction n generalizing c with
  | zero => exact .refl
  | succ n ih =>
    refine Relation.ReflTransGen.trans (b := { c with world := c.world.advanced }) ?_
      (ih { c with world := c.world.advanced })
    unfold World.advanced
    split
    · exact .refl
    · rename_i t rest htasks
      rcases World.steps_goOnWith (w := c.world) (t := t) (by simp [htasks]) with hsame | hgoes
      · rw [hsame]
      · exact reaches_aside hgoes

/-- A world with a delivery service, in which nothing has happened yet. -/
def mailWorld : World :=
  World.make ⟨"", "", 0, "", "", "", "", "", "", "", "", 0, 0, ""⟩
    ⟨.mailer ⟨"https://mail.example", "from@example.com"⟩, "Hello"⟩ .empty ⟨[], 0⟩ 0 .info

/-- A flow that sends one message. -/
def letterFlow : Flow where
  id := some "f"
  name := "Letter"
  nodes := [⟨"start", none, .start [], []⟩, ⟨"action", none, .action (some "Hello") [], []⟩,
    ⟨"end", none, .finish [], []⟩]
  edges := [⟨"first", "start", "action", none, none, none, []⟩,
    ⟨"last", "action", "end", none, none, none, []⟩]
  createdAt := none
  updatedAt := none

/-- The sweep of an hour's grace. -/
def sweeper : Crowd Unit (List String) :=
  gathered (fun _ => Sweep.run true 3600 none) mailWorld

/-- A run was begun and cancelled, and another one has been sending its message for more than a day
when the sweep begins. -/
def awaited : Crowd Unit (List String) :=
  let left := (mailWorld.perform (Runner.start letterFlow "to@example.com")).2.cancelRuns
  let begun := (left.perform (Runner.start letterFlow "to@example.com")).2
  { sweeper with world := { World.advanced^[19] begun with clock := 100000000000 } }

/-- While the sweep deals with the first of the two runs, the second one is completed. -/
def completed : Crowd Unit (List String) := (awaited.taken (List.replicate 10 ())).advanced 20

/-- The second run leaves the background, and the sweep comes to it. -/
def overtaken : Crowd Unit (List String) := (completed.advanced 2).taken (List.replicate 6 ())

theorem reaches_awaited : Reaches World.GoesOn sweeper awaited := by
  have hstart : ∀ c : Crowd Unit (List String), Reaches World.GoesOn c
      { c with world := (c.world.perform (Runner.start letterFlow "to@example.com")).2 } :=
    fun c => reaches_aside ⟨_, .start c.world letterFlow "to@example.com"⟩
  have hleft := hstart sweeper
  have hcancelled := hleft.trans (reaches_aside ⟨_, .shutdown _⟩)
  have hsending := (hcancelled.trans (hstart _)).trans (reaches_advanced 19 _)
  exact hsending.trans (reaches_aside ⟨_, .tick (by decide +kernel)⟩)

theorem reaches_completed : Reaches World.GoesOn sweeper completed :=
  (reaches_awaited.trans (reaches_taken _ _)).trans (reaches_advanced 20 _)

theorem reaches_overtaken : Reaches World.GoesOn completed overtaken :=
  (reaches_advanced 2 completed).trans (reaches_taken _ _)

/-- What the records say of the two runs. -/
def statuses (c : Crowd Unit (List String)) : List (ObjectId × Bool × Bool) :=
  c.world.shelf.documents.map fun d => (d.id, (Clause.textIs "status" "completed").holds d,
    (Clause.textIs "status" "failed").holds d)

theorem statuses_completed : completed.statuses =
    [(Collection.testRuns.numbered 1, false, true),
      (Collection.testRuns.numbered 2, true, false)] ∧
    completed.world.isActive (Collection.testRuns.numbered 2).text = true := by
  decide +kernel

theorem statuses_overtaken : overtaken.statuses =
    [(Collection.testRuns.numbered 1, false, true),
      (Collection.testRuns.numbered 2, false, true)] ∧
    overtaken.world.shelf.lastNumber < World.ids := by
  decide +kernel

theorem exists_completed : ∃ d ∈ completed.world.shelf.documents,
    d.id = Collection.testRuns.numbered 2 ∧
      d.fields.get? "status" = some (.text TestRun.completed) := by
  have hmem : (Collection.testRuns.numbered 2, true, false) ∈ completed.statuses := by
    rw [statuses_completed.1]
    exact List.mem_cons_of_mem _ List.mem_cons_self
  obtain ⟨d, hd, heq⟩ := List.mem_map.1 hmem
  simp only [Prod.mk.injEq] at heq
  exact ⟨d, hd, heq.1, Clause.holds_textIs_iff.1 heq.2.1⟩

theorem status_overtaken {d : Document} (hd : d ∈ overtaken.world.shelf.documents) :
    d.fields.get? "status" = some (.text TestRun.failed) := by
  have hmem : (d.id, (Clause.textIs "status" "completed").holds d,
      (Clause.textIs "status" "failed").holds d) ∈ overtaken.statuses :=
    List.mem_map.2 ⟨d, hd, rfl⟩
  rw [statuses_overtaken.1] at hmem
  refine Clause.holds_textIs_iff.1 ?_
  simp only [List.mem_cons, Prod.mk.injEq, List.not_mem_nil, or_false] at hmem
  obtain ⟨-, -, hfailed⟩ | ⟨-, -, hfailed⟩ := hmem <;> exact hfailed

end Crowd

end Automation
