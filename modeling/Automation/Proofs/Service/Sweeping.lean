import Automation.Proofs.Service.Progress
import Automation.Sweep

/-!
# Sweeps of the service

A sweep of the service fails runs that are not in its background, and no others. It looks them up
first and marks them one after the other; until its turn comes each of them counts as running, since
nothing else goes on meanwhile and no two of them have the same record (`Due`). So a sweep leaves
the service in order, and every record that had ended as it was.
-/

set_option autoImplicit false

namespace Automation

open Program

namespace World

variable {w w' : World} {es : List Event} {oid : ObjectId}

theorem keeps_tasks (w₀ : World) :
    setting.Keeps Request.LaunchesNone fun w => w.tasks = w₀.tasks ∧ w.turns = w₀.turns := by
  refine setting_keeps fun w r hr ⟨htasks, hturns⟩ => ?_
  obtain ⟨htasks', hturns'⟩ := tasks_answer w hr
  exact ⟨htasks'.trans htasks, hturns'.trans hturns⟩

theorem asks_getStaleTestRuns (before : Moment) :
    (Repository.getStaleTestRuns before).Asks Request.LaunchesNone :=
  Asks.getStaleTestRuns (fun _ h => h.launchesNone) before trivial

/-! ## Runs that are due -/

/-- Runs that were looked up and still count as running, each under a record of its own. -/
structure Due (w : World) (runs : List TestRun) : Prop where
  running : ∀ run ∈ runs, ∃ d ∈ w.shelf.documents, run.id = some d.id.text ∧ d.IsRunning
  nodup : (runs.map TestRun.id).Nodup

/-- Runs that were read have the ids of their documents. -/
theorem map_id_of_read {now : Moment} {docs : List Document} {runs : List TestRun}
    (h : List.Forall₂ (fun d run => Repository.testRunOf now d = .ok run) docs runs) :
    runs.map TestRun.id = docs.map fun d => some d.id.text := by
  induction h with
  | nil => rfl
  | cons hfirst hrest ih => rw [List.map_cons, List.map_cons, ih, id_of_testRunOf hfirst]

/-- The runs that a search for stale runs finds are due. -/
theorem due_of_staleDocuments (h : w.InOrder es) {before now : Moment} {runs : List TestRun}
    (hread : List.Forall₂ (fun d run => Repository.testRunOf now d = .ok run)
      (staleDocuments w.database.store before) runs) : w.Due runs := by
  have hids := map_id_of_read hread
  constructor
  · intro run hrun
    have hid : run.id ∈ runs.map TestRun.id := List.mem_map_of_mem hrun
    rw [hids] at hid
    obtain ⟨d, hd, hid⟩ := List.mem_map.1 hid
    obtain ⟨hmem, limit, -, hstatus, -⟩ := mem_staleDocuments.1 hd
    exact ⟨d, hmem, hid.symm, Clause.holds_textIs_iff.1 hstatus⟩
  · have hsub : (staleDocuments w.database.store before).Sublist w.shelf.documents := by
      unfold staleDocuments
      cases before.stored? with
      | none => exact List.nil_sublist _
      | some limit => exact List.filter_sublist
    have hnodup : (staleDocuments w.database.store before).Nodup :=
      (List.Nodup.of_map _ h.register.nodup).sublist hsub
    rw [hids]
    refine hnodup.map_on fun d hd d' hd' heq => ?_
    have hmem := hsub.subset hd
    have hmem' := hsub.subset hd'
    refine h.register.eq_of_id_eq hmem hmem' ?_
    exact ObjectId.text_inj (h.isProper hmem) (h.isProper hmem') (Option.some.inj heq)

/-! ## Marking -/

/-- An update that ends the record of a run that is not in the background leaves the service in
order and the other records alone, whether or not it takes effect. -/
theorem InOrder.endAbandoned (h : w.InOrder es) {u : TestRun.Update} (hu : u.IsSound)
    (hend : u.isEnd = true) {now : Moment} {x : Except StoreError Bool}
    (hrunning : ∀ d ∈ w.shelf.documents, d.id = oid → d.IsRunning)
    (hinactive : w.isActive oid.text = false)
    (hanswer : w.answer (.query (.update .testRuns oid (u.fields now))) = (x, w')) :
    w'.InOrder es ∧ w.shelf.Precedes w'.shelf ∧
      ∀ d ∈ w.shelf.documents, d.id ≠ oid → d ∈ w'.shelf.documents := by
  obtain ⟨htasks, hturns⟩ :=
    tasks_answer w (r := .query (.update .testRuns oid (u.fields now))) trivial
  obtain ⟨hfaults, hupdates⟩ := h.updates hu hrunning now hanswer
  rw [hanswer] at htasks hturns
  rcases hupdates with hafter | ⟨-, hshelf⟩
  · refine ⟨⟨hfaults, hafter.register, by rw [hafter.lastNumber]; exact h.room,
      by rw [htasks]; exact h.numbers, by rw [htasks, hturns]; exact h.turns,
      by rw [htasks]; exact h.owners, ?_, ?_⟩, hafter.precedes,
      fun d hd hid => (hafter.others d hid).2 hd⟩
    · rw [htasks]
      intro t ht
      refine isSound_mono (h.tasks t ht) (fun e he => he) hafter.precedes ?_
      intro oid' howner hproper d hd hid
      refine (hafter.others d fun hsame => ?_).1 hd
      -- a run in the background is not abandoned
      rw [← hid, hsame] at howner
      rw [isActive_iff.2 ⟨t, ht, howner⟩] at hinactive
      cases hinactive
    · intro d hd hstill
      have hother : d.id ≠ oid := by
        intro hsame
        have hnot := (hafter.own d hd hsame).1 hstill
        rw [hend] at hnot
        cases hnot
      unfold isActive
      rw [htasks]
      exact h.live d ((hafter.others d hother).1 hd) hstill
  · refine ⟨h.congr hshelf hfaults htasks (Nat.le_of_eq hturns.symm), ?_, ?_⟩
    · rw [hshelf]
      exact Shelf.Precedes.refl _
    · rw [hshelf]
      exact fun d hd _ => hd

/-- A world in the middle of a sweep: it is in order, the records have gone on since the sweep
began, and these runs are still due. -/
structure Sweeping (w₀ : World) (es : List Event) (runs : List TestRun) (w : World) : Prop where
  order : w.InOrder es
  precedes : w₀.shelf.Precedes w.shelf
  due : w.Due runs

variable {w₀ : World} {runs : List TestRun}

theorem keeps_sweeping : setting.Keeps Request.IsQuiet (Sweeping w₀ es runs) := by
  refine keeps_matching (fun w hw => ⟨_, hw.order.holds⟩) fun w w' hmatches hw => ?_
  refine ⟨hw.order.matches hmatches, ?_, ⟨?_, hw.due.nodup⟩⟩
  · rw [hmatches.shelf_eq]
    exact hw.precedes
  · rw [hmatches.shelf_eq]
    exact hw.due.running

/-- A world in the middle of a sweep whose next run is not in the background. -/
def Marking (w₀ : World) (es : List Event) (run : TestRun) (runs : List TestRun) (w : World) :
    Prop :=
  Sweeping w₀ es (run :: runs) w ∧ w.isActive (run.id.getD "") = false

theorem keeps_marking {run : TestRun} : setting.Keeps Request.IsQuiet (Marking w₀ es run runs) := by
  intro w r hr hw
  obtain ⟨hfits, hmoves⟩ := keeps_sweeping w r hr hw.1
  refine ⟨hfits, fun x w' hanswer => ⟨hmoves x w' hanswer, ?_⟩⟩
  have hmatches := matches_answer hw.1.order.holds hr
  rw [show w.answer r = (x, w') from hanswer] at hmatches
  unfold isActive
  rw [hmatches.tasks]
  exact hw.2

/-- The runs after the next one stay due. -/
theorem Sweeping.tail {run : TestRun} (h : Sweeping w₀ es (run :: runs) w) :
    Sweeping w₀ es runs w :=
  ⟨h.order, h.precedes, fun run' hrun' => h.due.running run' (List.mem_cons_of_mem _ hrun'),
    (List.nodup_cons.1 h.due.nodup).2⟩

/-- Failing a run whose turn it is leaves the rest due, whether or not the update takes effect. -/
theorem Marking.fail {run : TestRun} (hw : Marking w₀ es run runs w)
    (hoid : ObjectId.ofText? (run.id.getD "") = some oid) (finishedAt now : Moment)
    {x : Except StoreError Bool}
    (hanswer : w.answer (.query (.update .testRuns oid ((TestRun.Update.fail finishedAt Sweep.reason
      (Sweep.summaryOf run)).fields now))) = (x, w')) :
    Sweeping w₀ es runs w' := by
  obtain ⟨⟨horder, hprecedes, hdue⟩, hinactive⟩ := hw
  obtain ⟨d, hd, hid, hrunning⟩ := hdue.running run List.mem_cons_self
  rw [hid, Option.getD_some] at hoid hinactive
  rw [ObjectId.ofText?_text (horder.isProper hd)] at hoid
  cases hoid
  have hown : ∀ d' ∈ w.shelf.documents, d'.id = d.id → d'.IsRunning := by
    intro d' hd' hid'
    rw [horder.register.eq_of_id_eq hd' hd hid']
    exact hrunning
  have hsound : (TestRun.Update.fail finishedAt Sweep.reason (Sweep.summaryOf run)).IsSound :=
    ⟨by decide, rfl⟩
  obtain ⟨horder', hprecedes', hothers⟩ := horder.endAbandoned hsound rfl hown hinactive hanswer
  refine ⟨horder', hprecedes.trans hprecedes', ?_, (List.nodup_cons.1 hdue.nodup).2⟩
  intro run' hrun'
  obtain ⟨d', hd', hid', hrunning'⟩ := hdue.running run' (List.mem_cons_of_mem _ hrun')
  -- the other runs have other records
  have hne : d'.id ≠ d.id := by
    intro heq
    refine (List.nodup_cons.1 hdue.nodup).1 ?_
    rw [hid, ← heq, ← hid']
    exact List.mem_map_of_mem hrun'
  exact ⟨d', hothers d' hd' hne, hid', hrunning'⟩

/-- So does failing it with everything around the update. -/
theorem failRun_upholds {run : TestRun} (finishedAt : Moment) (hw : Marking w₀ es run runs w) :
    (Repository.updateTestRun (run.id.getD "") (TestRun.failing finishedAt Sweep.reason
      (Sweep.summaryOf run))).Upholds setting w fun w _ => Sweeping w₀ es runs w := by
  have hwrite : ∀ oid, ObjectId.ofText? (run.id.getD "") = some oid → ∀ w now,
      Marking w₀ es run runs w →
      let q : Query := .update .testRuns oid (Fields.insert "updated_at" (.date now)
        (TestRun.failing finishedAt Sweep.reason (Sweep.summaryOf run)))
      setting.fits w (.query q) ∧ ∀ (x : Except StoreError q.Answer) w',
        setting.moves w ⟨.query q, x⟩ w' → Sweeping w₀ es runs w' := by
    intro oid hoid w now hw
    exact ⟨trivial, fun x w' hmoves => hw.fail hoid finishedAt now hmoves⟩
  have hupdate := updateTestRun_upholds (I := Marking w₀ es run runs)
    (J := fun _ => Sweeping w₀ es runs) (run.id.getD "") _ keeps_marking keeps_sweeping
    (fun _ w hw => hw.1.tail) hwrite hw
  refine hupdate.mono ?_
  rintro w o (⟨b, -, hw⟩ | ⟨-, -, hw⟩)
  · exact hw
  · exact hw.1.tail

/-- Marking a run whose turn it is leaves the rest due. -/
theorem mark_upholds {run : TestRun} (now : Option Moment) (hw : Sweeping w₀ es (run :: runs) w) :
    (Sweep.mark true now run).Upholds setting w fun w _ => Sweeping w₀ es runs w := by
  refine ⟨trivial, fun active w' hmoves => ?_⟩
  have hanswer : (w.isActive (run.id.getD ""), w) = (active, w') := hmoves
  cases hanswer
  show Upholds _ (if w.isActive (run.id.getD "") = true then _ else _) _ _
  cases hactive : w.isActive (run.id.getD "") with
  | true => exact hw.tail
  | false =>
    rw [if_neg Bool.false_ne_true]
    have hclock := keeps_marking w .clock trivial ⟨hw, hactive⟩
    refine ⟨hclock.1, fun clock w hmoves => ?_⟩
    show Upholds setting (Repository.updateTestRun (run.id.getD "") (TestRun.failing
      (now.getD clock) Sweep.reason (Sweep.summaryOf run)) >>= _) w _
    refine (failRun_upholds _ (hclock.2 clock w hmoves)).bind (fun w marked hw => ?_)
      (fun w f hw => hw) fun w hw => hw
    cases marked with
    | true => exact (report_upholds keeps_sweeping _ hw).bind_unit fun w hw => hw
    | false => exact (report_upholds keeps_sweeping _ hw).bind_unit fun w hw => hw

/-- Marking runs one after the other leaves the service in order. -/
theorem markAll_upholds (now : Option Moment) (hw : Sweeping w₀ es runs w) :
    (Sweep.markAll true now runs).Upholds setting w fun w _ =>
      w.InOrder es ∧ w₀.shelf.Precedes w.shelf := by
  induction runs generalizing w with
  | nil => exact ⟨hw.order, hw.precedes⟩
  | cons run rest ih =>
    refine (mark_upholds now hw).bind (fun w id hw => ?_)
      (fun w f hw => ⟨hw.order, hw.precedes⟩) fun w hw => ⟨hw.order, hw.precedes⟩
    exact (ih hw).bind (fun w ids hw => hw) (fun w f hw => hw) fun w hw => hw

/-- A sweep leaves the service in order. -/
theorem InOrder.sweep (h : w.InOrder es) (graceSeconds : Int) (now : Option Moment) :
    (w.perform (Sweep.run true graceSeconds now)).2.InOrder es ∧
      w.shelf.Precedes (w.perform (Sweep.run true graceSeconds now)).2.shelf := by
  refine perform_upholds (Q := fun w' _ => w'.InOrder es ∧ w.shelf.Precedes w'.shelf) ?_
  have hnone : w.Due [] := ⟨fun run hrun => absurd hrun List.not_mem_nil, List.nodup_nil⟩
  have hclock := keeps_sweeping w .clock trivial ⟨h, Shelf.Precedes.refl _, hnone⟩
  refine ⟨hclock.1, fun clock w' hmoves => ?_⟩
  have hw := hclock.2 clock w' hmoves
  show Upholds setting (ofExcept ((Sweep.cutoff graceSeconds (now.getD clock)).mapError .span) >>=
    _) w' _
  cases Sweep.cutoff graceSeconds (now.getD clock) with
  | error e => exact ⟨hw.order, hw.precedes⟩
  | ok before =>
    show Upholds setting (Repository.getStaleTestRuns before >>= _) w' _
    have hfound := (getStaleTestRuns_upholds before hw.order.holds).and
      ((asks_getStaleTestRuns before).keeps (keeps_tasks w') ⟨rfl, rfl⟩)
    refine hfound.bind ?_ ?_ ?_
    · rintro w'' runs ⟨⟨runs', ho, hholds, hruns⟩, htasks, hturns⟩
      cases ho
      have hshelf : w''.shelf = w'.shelf := by
        rw [shelf, hholds.store]
        rfl
      have horder := hw.order.congr hshelf hholds.faults htasks (Nat.le_of_eq hturns.symm)
      have hprecedes : w.shelf.Precedes w''.shelf := by
        rw [hshelf]
        exact hw.precedes
      cases runs with
      | nil => exact ⟨horder, hprecedes⟩
      | cons first rest =>
        have hdue : w''.Due (first :: rest) := by
          rcases hruns with hruns | ⟨now, hread⟩
          · cases hruns
          · rw [← hholds.store] at hread
            exact due_of_staleDocuments horder hread
        refine (report_upholds keeps_sweeping _ ⟨horder, hprecedes, hdue⟩).bind_unit fun w hw => ?_
        exact markAll_upholds now hw
    · rintro w'' f ⟨⟨runs, ho, -⟩, -⟩
      cases ho
    · rintro w'' ⟨⟨runs, ho, -⟩, -⟩
      cases ho

end World

end Automation
