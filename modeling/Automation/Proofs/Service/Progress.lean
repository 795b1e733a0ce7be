import Automation.Proofs.Service.Steps
import Automation.Proofs.Store.Evolution

/-!
# The steps of runs in the background

A run that makes a request, falls asleep, wakes or is over leaves the service in order, and so does
a shutdown, which cancels every run wherever it stands. A run that is under way updates its record,
a run that is not writes nothing; so each record that has ended stays as it is.
-/

set_option autoImplicit false

namespace Automation

open Program

theorem Stage.Tells.append {s : Shelf} {es : List Event} {oid : ObjectId} {stage : Stage}
    (h : stage.Tells s es oid) (es' : List Event) : stage.Tells s (es ++ es') oid := by
  cases stage with
  | underway => exact h
  | concluded => exact h.imp_right (List.mem_append_left _)
  | cancelled => exact h

namespace World

variable {w : World} {es : List Event} {t : Task}

/-- A request that launches nothing leaves the tasks alone. -/
theorem tasks_answer (w : World) {r : Request} (hr : r.LaunchesNone) :
    (w.answer r).2.tasks = w.tasks ∧ (w.answer r).2.turns = w.turns := by
  cases r with
  | report e =>
    simp only [answer, World.report]
    split <;> exact ⟨rfl, rfl⟩
  | connect =>
    simp only [answer]
    split
    · exact ⟨rfl, rfl⟩
    · split <;> exact ⟨rfl, rfl⟩
  | disconnect =>
    simp only [answer]
    split <;> exact ⟨rfl, rfl⟩
  | launch flow recipient run => exact hr.elim
  | _ => exact ⟨rfl, rfl⟩

/-- A world with the database and the tasks of another one. -/
structure Matches (w w' : World) : Prop where
  database : w'.database = w.database
  tasks : w'.tasks = w.tasks
  turns : w'.turns = w.turns

theorem Matches.shelf_eq {w' : World} (h : w.Matches w') : w'.shelf = w.shelf := by
  rw [shelf, h.database]
  rfl

theorem InOrder.matches {w' : World} (h : w.InOrder es) (hw : w.Matches w') : w'.InOrder es := by
  refine h.congr hw.shelf_eq ?_ hw.tasks (Nat.le_of_eq hw.turns.symm)
  rw [hw.database]
  exact h.faults

/-- A quiet request leaves the database and the tasks alone. -/
theorem matches_answer {store : Store} (hw : w.Holds store) {r : Request} (hr : r.IsQuiet) :
    w.Matches (w.answer r).2 := by
  obtain ⟨htasks, hturns⟩ := tasks_answer w hr.launchesNone
  exact ⟨database_answer hw (isPlain_of_isQuiet hr), htasks, hturns⟩

/-- Quiet requests keep whatever depends on nothing but the database and the tasks. -/
theorem keeps_matching {I : World → Prop} (hholds : ∀ w, I w → ∃ store, w.Holds store)
    (hmatches : ∀ w w', w.Matches w' → I w → I w') : setting.Keeps Request.IsQuiet I := by
  refine setting_keeps fun w r hr hw => ?_
  obtain ⟨store, hstore⟩ := hholds w hw
  exact hmatches w _ (matches_answer hstore hr) hw

/-- A quiet request changes no stage, since a client of the store can always be made. -/
theorem moves_answer {store : Store} (hw : w.Holds store) {r : Request} (hr : r.IsQuiet)
    (stage : Stage) : stage.Moves ⟨r, (w.answer r).1⟩ stage := by
  rcases hr.eq with rfl | ⟨e, rfl⟩ | rfl
  · rfl
  · rfl
  · obtain ⟨b, hb⟩ := answer_connect hw
    rw [hb]
    rfl

/-- A query about the audit leaves the test runs alone. -/
theorem shelf_answer_log {store : Store} (hw : w.Holds store) {q : Query}
    (hq : q.collection = .executionLogs) :
    (w.answer (.query q)).2.shelf = w.shelf ∧
      ∀ f ∈ (w.answer (.query q)).2.database.faults, f.IsOfUpdates := by
  rw [answer_query hw (Or.inl (by rw [hq]; decide))]
  cases hanswer : store.answer q with
  | error e => exact ⟨rfl, hw.faults⟩
  | ok y =>
    refine ⟨?_, hw.faults⟩
    show y.2.testRuns = w.shelf
    rw [shelf, hw.store]
    cases Store.answer_testRuns hanswer with
    | same heq => exact heq
    | inserted fields heq hinsert =>
      subst hinsert
      cases hq
    | changed oid changes heq hset => rcases hset with rfl | rfl <;> cases hq
    | deleted oid heq hdelete =>
      subst hdelete
      cases hq

/-- A world that another one has become keeps its order when a task goes on without a change to the
records. -/
theorem InOrder.goOn_same (h : w.InOrder es) {w' : World} (es' : List Event) {oid : ObjectId}
    {stage : Stage} {state : TaskState} (ht : t ∈ w.tasks) (howner : t.owner = .run oid.text)
    (hproper : oid.IsProper) (hfaults : ∀ f ∈ w'.database.faults, f.IsOfUpdates)
    (hshelf : w'.shelf = w.shelf) (htasks : w'.tasks = w.tasks) (hturns : w.turns ≤ w'.turns)
    (hstate : state.Upholds oid stage) (htells : stage.Tells w.shelf (es ++ es') oid) :
    (w'.setTask t.number (some state)).InOrder (es ++ es') ∧
      w.shelf.Precedes (w'.setTask t.number (some state)).shelf := by
  have hprecedes : w.shelf.Precedes w'.shelf := by
    rw [hshelf]
    exact Shelf.Precedes.refl _
  refine ⟨h.goOn ht howner hproper hfaults htasks hturns ?_ ?_ hprecedes ?_ hstate ?_, hprecedes⟩
  · rw [hshelf]
    exact h.register
  · rw [hshelf]
    exact h.room
  · intro d hd _
    rw [hshelf] at hd
    exact hd
  · rw [hshelf]
    exact htells

/-- An update of a running record takes effect, or it comes to nothing. -/
theorem InOrder.updates (h : w.InOrder es) {oid : ObjectId} {u : TestRun.Update} (hu : u.IsSound)
    (hrunning : ∀ d ∈ w.shelf.documents, d.id = oid → d.IsRunning) (now : Moment)
    {x : Except StoreError Bool} {w' : World}
    (hanswer : w.answer (.query (.update .testRuns oid (u.fields now))) = (x, w')) :
    (∀ f ∈ w'.database.faults, f.IsOfUpdates) ∧
      (w.shelf.Updates oid u w'.shelf ∨ x ≠ .ok true ∧ w'.shelf = w.shelf) := by
  have hupdate := answer_update h.holds oid (u.fields now)
  rw [hanswer] at hupdate
  rcases hupdate with ⟨-, hw⟩ | ⟨hx, hw⟩
  · refine ⟨hw.faults, Or.inl ?_⟩
    rw [show w'.shelf = w.shelf.change oid (Value.keptFields (u.fields now)) from
      congrArg Store.testRuns hw.store]
    exact h.register.change now hu hrunning
  · exact ⟨hw.faults, Or.inr ⟨hx, congrArg Store.testRuns hw.store⟩⟩

/-- A run that updates its record goes on to the stage that the update leads to, whether or not the
update takes effect. -/
theorem InOrder.update (h : w.InOrder es) {oid : ObjectId} {u : TestRun.Update} {now : Moment}
    {x : Except StoreError Bool} {w' : World} {p : Program Unit} (ht : t ∈ w.tasks)
    (howner : t.owner = .run oid.text) (hproper : oid.IsProper) (hu : u.IsSound)
    (htells : Stage.underway.Tells w.shelf es oid)
    (hanswer : w.answer (.query (.update .testRuns oid (u.fields now))) = (x, w'))
    (hp : p.Upholds (Stage.setting oid) (if u.isEnd then .concluded else .underway) Stage.Ends) :
    (w'.setTask t.number (some (.ready p))).InOrder
        (es ++ Exchange.losses oid.text ⟨.query (.update .testRuns oid (u.fields now)), x⟩) ∧
      w.shelf.Precedes w'.shelf := by
  obtain ⟨htasks, hturns⟩ :=
    tasks_answer w (r := .query (.update .testRuns oid (u.fields now))) trivial
  obtain ⟨hfaults, hupdates⟩ := h.updates hu htells now hanswer
  rw [hanswer] at htasks hturns
  have hturns' : w.turns ≤ w'.turns := Nat.le_of_eq hturns.symm
  have hstate : (TaskState.ready p).Upholds oid (if u.isEnd then .concluded else .underway) := hp
  rcases hupdates with hafter | ⟨hx, hshelf⟩
  · -- the update takes effect
    have hroom : w'.shelf.lastNumber < ids := by
      rw [hafter.lastNumber]
      exact h.room
    refine ⟨h.goOn ht howner hproper hfaults htasks hturns' hafter.register hroom hafter.precedes
      (fun d hd hid => (hafter.others d hid).1 hd) hstate ?_, hafter.precedes⟩
    cases hend : u.isEnd with
    | true =>
      refine Or.inl fun d hd hid hrunning => ?_
      simpa [hend] using (hafter.own d hd hid).1 hrunning
    | false => exact fun d hd hid => (hafter.own d hd hid).2 hend
  · -- the update comes to nothing, which leaves the record behind if it was to be the end
    refine h.goOn_same _ ht howner hproper hfaults hshelf htasks hturns' hstate ?_
    cases hend : u.isEnd with
    | false => exact htells
    | true =>
      have hends : (u.fields now).endsRun = true :=
        (TestRun.Update.isSome_status now u).trans hend
      have hlost : Exchange.losses oid.text
          ⟨.query (.update .testRuns oid (u.fields now)), x⟩ = [.unrecorded oid.text] := by
        match x, hx with
        | .ok false, _ => simp [Exchange.losses, hends]
        | .error e, _ => simp [Exchange.losses, hends]
        | .ok true, hx => exact absurd rfl hx
      rw [hlost]
      exact Or.inr (List.mem_append_right _ List.mem_cons_self)

/-- A run makes a request and is ready to go on. -/
theorem InOrder.request (h : w.InOrder es) {run : String} {r : Request} {x : r.Answer} {w' : World}
    {next : r.Answer → Program Unit} (ht : t ∈ w.tasks) (howner : t.owner = .run run)
    (hstate : t.state = .ready (.ask r next)) (hr : ∀ ms, r ≠ .sleep ms)
    (hanswer : w.answer r = (x, w')) :
    (w'.setTask t.number (some (.ready (next x)))).InOrder (es ++ Exchange.losses run ⟨r, x⟩) ∧
      w.shelf.Precedes w'.shelf := by
  obtain ⟨oid, stage, howner', hproper, hrecord, hupholds, htells⟩ := h.tasks t ht
  obtain rfl : run = oid.text := by
    rw [howner, Owner.run.injEq] at howner'
    exact howner'
  rw [hstate] at hupholds
  obtain ⟨hfits, hnext⟩ := hupholds
  -- a request that is no query to the test runs leaves the stage and the records alone
  have hsame : r.LaunchesNone → stage.Moves ⟨r, x⟩ stage →
      (∀ f ∈ w'.database.faults, f.IsOfUpdates) → w'.shelf = w.shelf →
        (w'.setTask t.number (some (.ready (next x)))).InOrder
          (es ++ Exchange.losses oid.text ⟨r, x⟩) ∧ w.shelf.Precedes w'.shelf := by
    intro hlaunch hmoves hfaults hshelf
    obtain ⟨htasks, hturns⟩ := tasks_answer w hlaunch
    rw [hanswer] at htasks hturns
    exact h.goOn_same _ ht howner hproper hfaults hshelf htasks (Nat.le_of_eq hturns.symm)
      (hnext _ stage hmoves) (htells.append _)
  rcases hfits with hquiet | ⟨rfl, hacts⟩
  · have hmatches := matches_answer h.holds hquiet
    have hmoves := moves_answer h.holds hquiet stage
    rw [hanswer] at hmatches hmoves
    exact hsame hquiet.launchesNone hmoves (h.matches hmatches).faults hmatches.shelf_eq
  · cases hacts with
    | post p =>
      cases hanswer
      exact hsame trivial rfl h.faults rfl
    | sleep ms => exact absurd rfl (hr ms)
    | enter fields =>
      obtain ⟨hshelf, hfaults⟩ := shelf_answer_log h.holds (q := .insert .executionLogs fields) rfl
      rw [hanswer] at hshelf hfaults
      exact hsame trivial rfl hfaults hshelf
    | change id changes =>
      obtain ⟨hshelf, hfaults⟩ :=
        shelf_answer_log h.holds (q := .change .executionLogs id changes) rfl
      rw [hanswer] at hshelf hfaults
      exact hsame trivial rfl hfaults hshelf
    | update now hu =>
      rename_i u
      refine h.update ht howner hproper hu htells hanswer (hnext x _ ?_)
      have hends : (u.fields now).endsRun = u.isEnd := TestRun.Update.isSome_status now u
      show _ = if (u.fields now).endsRun then Stage.concluded else Stage.underway
      rw [hends]

/-- A run that comes to a pause is under way, and goes on so when the pause is over. -/
theorem upholds_of_sleep {oid : ObjectId} {stage : Stage} {ms : Int} {next : Wake → Program Unit}
    (h : Upholds (Stage.setting oid) (.ask (.sleep ms) next) stage Stage.Ends) (due : Int)
    (turn : Nat) : (TaskState.asleep due turn next).Upholds oid stage := by
  obtain ⟨hfits, hnext⟩ := h
  exact ⟨hnext .elapsed stage rfl, hnext .cancelled .cancelled rfl⟩

/-- What a task does by itself leaves the records alone. -/
theorem InOrder.goOn_alone (h : w.InOrder es) (w' : World) {state : TaskState} (ht : t ∈ w.tasks)
    (hdatabase : w'.database = w.database) (htasks : w'.tasks = w.tasks)
    (hturns : w.turns ≤ w'.turns)
    (hstate : ∀ oid stage, t.state.Upholds oid stage → state.Upholds oid stage) :
    (w'.setTask t.number (some state)).InOrder es ∧
      w.shelf.Precedes (w'.setTask t.number (some state)).shelf := by
  obtain ⟨oid, stage, howner, hproper, hrecord, hupholds, htells⟩ := h.tasks t ht
  have hshelf : w'.shelf = w.shelf := by
    unfold shelf
    rw [hdatabase]
  have hfaults : ∀ f ∈ w'.database.faults, f.IsOfUpdates := by
    rw [hdatabase]
    exact h.faults
  have hafter := h.goOn_same [] ht howner hproper hfaults hshelf htasks hturns
    (hstate oid stage hupholds) (htells.append [])
  rwa [List.append_nil] at hafter

/-- A run that is over has concluded, so nothing counts on its task any more. -/
theorem InOrder.finish (h : w.InOrder es) {p : Program Unit} (ht : t ∈ w.tasks)
    (hstate : t.state = .ready p) (hp : p.IsOver) :
    (w.setTask t.number none).InOrder es ∧ w.shelf.Precedes (w.setTask t.number none).shelf := by
  obtain ⟨oid, stage, howner, hproper, hrecord, hupholds, htells⟩ := h.tasks t ht
  rw [hstate] at hupholds
  have hended : ∀ o : Outcome Unit, Stage.Ends stage o → stage = .concluded := by
    rintro o (⟨hconcluded, -⟩ | ⟨rfl, -⟩)
    · exact hconcluded
    · exact htells.elim
  obtain rfl : stage = .concluded := by
    cases p with
    | done a => exact hended _ hupholds
    | failed f => exact hended _ hupholds
    | cancelled => exact hended _ hupholds
    | ask r next => exact hp.elim
  refine ⟨⟨h.faults, h.register, h.room, ?_, ?_, ?_, ?_, ?_⟩, Shelf.Precedes.refl _⟩
  · exact h.numbers.sublist (tasks_setTask_none_sublist.map _)
  · exact fun t' ht' => h.turns t' (mem_tasks_setTask_none.1 ht').1
  · exact h.owners.sublist (tasks_setTask_none_sublist.map _)
  · exact fun t' ht' => h.tasks t' (mem_tasks_setTask_none.1 ht').1
  · intro d hd hrunning
    rcases h.live d hd hrunning with hlive | hlost
    · obtain ⟨t', ht', howner'⟩ := isActive_iff.1 hlive
      by_cases hnumber : t'.number = t.number
      · -- the record of the run that is over
        obtain rfl := h.eq_of_number_eq ht' ht hnumber
        rw [howner, Owner.run.injEq] at howner'
        rcases htells with hended | hlost
        · have hid := ObjectId.text_inj (h.isProper hd) hproper howner'.symm
          exact absurd hrunning (hended d hd hid)
        · rw [howner'] at hlost
          exact Or.inr (Or.inr hlost)
      · exact Or.inl (isActive_iff.2 ⟨t', mem_tasks_setTask_none.2 ⟨ht', hnumber⟩, howner'⟩)
    · exact Or.inr hlost

/-- A run that was cancelled keeps what quiet requests keep. -/
theorem carryOn_cancelled_keeps {oid : ObjectId} {store : Store} {p : Program Unit}
    {I : World → Prop} (h : p.Upholds (Stage.setting oid) .cancelled Stage.Ends)
    (hkeeps : setting.Keeps Request.IsQuiet I) (hw : w.Holds store) (hI : I w) :
    I (w.carryOn p).2 := by
  induction p generalizing w with
  | done a => exact hI
  | failed f => exact hI
  | cancelled => exact hI
  | ask r next ih =>
    obtain ⟨hquiet | ⟨hstage, -⟩, hnext⟩ := h
    · have hstep : w.carryOn (.ask r next) = (w.answer r).2.carryOn (next (w.answer r).1) := by
        rcases hquiet.eq with rfl | ⟨e, rfl⟩ | rfl <;> rfl
      rw [hstep]
      exact ih _ (hnext _ _ (moves_answer hw hquiet .cancelled))
        (hw.of_database_eq (matches_answer hw hquiet).database)
        ((hkeeps w r hquiet hI).2 (w.answer r).1 _ rfl)
    · cases hstage

/-- A run that was cancelled does nothing more that lasts. -/
theorem carryOn_cancelled {oid : ObjectId} {store : Store} {p : Program Unit}
    (h : p.Upholds (Stage.setting oid) .cancelled Stage.Ends) (hw : w.Holds store) :
    w.Matches (w.carryOn p).2 := by
  refine carryOn_cancelled_keeps (I := w.Matches) h (keeps_matching ?_ ?_) hw ⟨rfl, rfl, rfl⟩
  · exact fun w' hmatches => ⟨store, hw.of_database_eq hmatches.database⟩
  · intro w' w'' hmatches' hmatches
    exact ⟨hmatches'.database.trans hmatches.database, hmatches'.tasks.trans hmatches.tasks,
      hmatches'.turns.trans hmatches.turns⟩

/-- A cancelled run is in the background no longer, and its record is as it was. -/
theorem cancel_eq {oid : ObjectId} {stage : Stage} {store : Store}
    (h : t.state.Upholds oid stage) (hw : w.Holds store) :
    (w.cancel t).database = w.database ∧
      (w.cancel t).tasks = (w.setTask t.number none).tasks := by
  unfold cancel
  cases hstate : t.state with
  | ready p => exact ⟨rfl, rfl⟩
  | asleep due turn next =>
    rw [hstate] at h
    have hmatches := carryOn_cancelled h.2 hw
    refine ⟨hmatches.database, ?_⟩
    show (w.carryOn (next .cancelled)).2.tasks.filterMap _ = _
    rw [hmatches.tasks]
    rfl

/-- Cancelled runs are all in the background no longer. -/
theorem foldl_cancel {store : Store} (runs : List Task)
    (h : ∀ t ∈ runs, ∃ oid stage, t.state.Upholds oid stage) (hw : w.Holds store) :
    (runs.foldl cancel w).database = w.database ∧
      ∀ t ∈ (runs.foldl cancel w).tasks, t ∈ w.tasks ∧ ∀ t' ∈ runs, t.number ≠ t'.number := by
  induction runs generalizing w with
  | nil => exact ⟨rfl, fun t ht => ⟨ht, fun t' ht' => absurd ht' List.not_mem_nil⟩⟩
  | cons first rest ih =>
    obtain ⟨oid, stage, hfirst⟩ := h first List.mem_cons_self
    obtain ⟨hdatabase, htasks⟩ := cancel_eq hfirst hw
    obtain ⟨hdatabase', htasks'⟩ := ih (fun t ht => h t (List.mem_cons_of_mem _ ht))
      (hw.of_database_eq hdatabase)
    refine ⟨hdatabase'.trans hdatabase, fun t ht => ?_⟩
    obtain ⟨hmem, hne⟩ := htasks' t ht
    rw [htasks] at hmem
    obtain ⟨hmem, hnumber⟩ := mem_tasks_setTask_none.1 hmem
    refine ⟨hmem, fun t' ht' => ?_⟩
    rcases List.mem_cons.1 ht' with rfl | ht'
    · exact hnumber
    · exact hne t' ht'

/-- When all runs are cancelled none is in the background, and every record is as it was. -/
theorem cancelRuns_eq {store : Store} (hw : w.Holds store)
    (h : ∀ t ∈ w.tasks, Task.isRun t = true ∧ ∃ oid stage, t.state.Upholds oid stage) :
    w.cancelRuns.tasks = [] ∧ w.cancelRuns.database = w.database := by
  have hruns : w.tasks.filter Task.isRun = w.tasks :=
    List.filter_eq_self.2 fun t ht => (h t ht).1
  obtain ⟨hdatabase, htasks⟩ := foldl_cancel w.tasks (fun t ht => (h t ht).2) hw
  have hreport : w.cancelRuns.database = (w.tasks.foldl cancel w).database ∧
      w.cancelRuns.tasks = (w.tasks.foldl cancel w).tasks := by
    unfold cancelRuns
    rw [hruns]
    simp only [World.report]
    split
    · exact ⟨rfl, rfl⟩
    · split <;> exact ⟨rfl, rfl⟩
  refine ⟨List.eq_nil_iff_forall_not_mem.2 fun t ht => ?_, hreport.1.trans hdatabase⟩
  rw [hreport.2] at ht
  obtain ⟨hmem, hne⟩ := htasks t ht
  exact hne t hmem rfl

/-- In a service that is in order a shutdown cancels every task. -/
theorem InOrder.cancelRuns_eq (h : w.InOrder es) :
    w.cancelRuns.tasks = [] ∧ w.cancelRuns.database = w.database := by
  refine World.cancelRuns_eq h.holds fun t ht => ?_
  obtain ⟨oid, stage, howner, -, -, hupholds, -⟩ := h.tasks t ht
  exact ⟨by rw [Task.isRun, howner], oid, stage, hupholds⟩

/-- A shutdown leaves no run in the background, and every record as it was. -/
theorem InOrder.shutdown (h : w.InOrder es) :
    w.cancelRuns.InOrder (es ++ (w.tasks.filterMap Task.run?).map Event.cancelled) ∧
      w.shelf.Precedes w.cancelRuns.shelf := by
  obtain ⟨hnone, hdatabase'⟩ := h.cancelRuns_eq
  have hshelf : w.cancelRuns.shelf = w.shelf := by
    unfold shelf
    rw [hdatabase']
  have hfaults : ∀ f ∈ w.cancelRuns.database.faults, f.IsOfUpdates := by
    rw [hdatabase']
    exact h.faults
  have hlive : ∀ d ∈ w.shelf.documents, d.IsRunning → w.cancelRuns.isActive d.id.text = true ∨
      Event.cancelled d.id.text ∈ es ++ (w.tasks.filterMap Task.run?).map Event.cancelled ∨
        Event.unrecorded d.id.text ∈ es ++ (w.tasks.filterMap Task.run?).map Event.cancelled := by
    intro d hd hrunning
    rcases h.live d hd hrunning with hlive | hlost | hlost
    · obtain ⟨t, ht, howner⟩ := isActive_iff.1 hlive
      have hrun : d.id.text ∈ w.tasks.filterMap Task.run? :=
        List.mem_filterMap.2 ⟨t, ht, by rw [Task.run?, howner]⟩
      exact Or.inr (Or.inl (List.mem_append_right _ (List.mem_map_of_mem hrun)))
    · exact Or.inr (Or.inl (List.mem_append_left _ hlost))
    · exact Or.inr (Or.inr (List.mem_append_left _ hlost))
  rw [hshelf]
  exact ⟨⟨hfaults, by rw [hshelf]; exact h.register, by rw [hshelf]; exact h.room,
    by rw [hnone]; exact List.nodup_nil, fun t ht => absurd (hnone ▸ ht) List.not_mem_nil,
    by rw [hnone]; exact List.nodup_nil, fun t ht => absurd (hnone ▸ ht) List.not_mem_nil,
    by rw [hshelf]; exact hlive⟩, Shelf.Precedes.refl _⟩

end World

end Automation
