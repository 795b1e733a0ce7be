import Automation.Proofs.Runner.Company
import Automation.Proofs.Service.AtOnce

/-!
# What requests leave behind

A request about flows or runs reads first, then writes at most once, and whatever it does after the
write cannot fail any more. So it ends in one of two ways: it failed and nothing was done, or it has
done the one thing that it was for (`create_ends`, `update_ends`, `delete_ends`, `start_ends`). Any
call of the store may raise an error on the way.
-/

set_option autoImplicit false

namespace Automation

open World (Outcome)
open Program

variable {α β : Type} {before w : World} {s : Store}

/-! ## Reading -/

/-- A request that only looks: a quiet one, a search, or a question about a run. -/
def Request.IsReading : Request → Prop
  | .query (.findOne ..) | .query (.find ..) | .isActive _ => True
  | r => r.IsQuiet

theorem isReading_of_isQuiet {r : Request} (h : r.IsQuiet) : r.IsReading := by
  obtain rfl | ⟨e, rfl⟩ | rfl := h.eq <;> trivial

namespace World

/-- A world that differs from one before in nothing that can be seen from outside, but that it has
this store; its calls of the store may raise errors. -/
structure CameTo (before : World) (s : Store) (w : World) : Prop where
  raises : w.Raises
  store : w.database.store = s
  tasks : w.tasks = before.tasks
  posts : w.posts = before.posts

theorem cameTo_self (hw : w.Raises) : w.CameTo w.database.store w := ⟨hw, rfl, rfl, rfl⟩

/-- Nothing is begun and nothing is posted by a query, or by a request that only looks. -/
theorem tasks_posts_answer (w : World) {r : Request}
    (hr : r.IsReading ∨ ∃ q, r = .query q) :
    (w.answer r).2.tasks = w.tasks ∧ (w.answer r).2.posts = w.posts := by
  cases r with
  | query q => exact ⟨rfl, rfl⟩
  | report e =>
    simp only [answer, World.report]
    split <;> exact ⟨rfl, rfl⟩
  | connect =>
    simp only [answer]
    split
    · exact ⟨rfl, rfl⟩
    · split <;> exact ⟨rfl, rfl⟩
  | clock => exact ⟨rfl, rfl⟩
  | isActive run => exact ⟨rfl, rfl⟩
  | _ =>
    rcases hr with hr | ⟨q, hq⟩
    · exact hr.elim
    · cases hq

/-- A search finds nothing new to keep. -/
theorem store_of_isReading {q : Query} {y : q.Answer} {s' : Store}
    (hy : s.answer q = .ok (y, s')) (hq : (Request.query q).IsReading) : s' = s := by
  cases q with
  | findOne c filter =>
    simp only [Store.answer] at hy
    split at hy <;> cases hy
    rfl
  | find c filter order =>
    simp only [Store.answer] at hy
    split at hy <;> cases hy
    rfl
  | _ => exact hq.elim

/-- Requests that only look leave everything as it is. -/
theorem keeps_cameTo (before : World) (s : Store) :
    setting.Keeps Request.IsReading (before.CameTo s) := by
  refine setting_keeps fun w r hr hw => ?_
  obtain ⟨htasks, hposts⟩ := w.tasks_posts_answer (Or.inl hr)
  by_cases hquery : ∃ q, r = .query q
  · obtain ⟨q, rfl⟩ := hquery
    obtain ⟨hraises, ⟨y, hy, -⟩ | ⟨-, hstore⟩⟩ := hw.raises.query q
    · exact ⟨hraises, (store_of_isReading hy hr).trans hw.store, htasks.trans hw.tasks,
        hposts.trans hw.posts⟩
    · exact ⟨hraises, hstore.trans hw.store, htasks.trans hw.tasks, hposts.trans hw.posts⟩
  · obtain ⟨hraises, hstore⟩ := hw.raises.answer r fun q hq => hquery ⟨q, hq⟩
    exact ⟨hraises, hstore.trans hw.store, htasks.trans hw.tasks, hposts.trans hw.posts⟩

theorem keeps_cameTo_quiet (before : World) (s : Store) :
    setting.Keeps Request.IsQuiet (before.CameTo s) :=
  fun w r hr => keeps_cameTo before s w r (isReading_of_isQuiet hr)

/-- A query is answered by the store, or it raises an error and nothing is done. -/
theorem query_cameTo {q : Query} {k : Except StoreError q.Answer → Program α}
    {Q : World → Outcome α → Prop} (h : before.CameTo s w)
    (hok : ∀ y s' w', s.answer q = .ok (y, s') → before.CameTo s' w' →
      (k (.ok y)).Upholds setting w' Q)
    (herror : ∀ e w', before.CameTo s w' → (k (.error e)).Upholds setting w' Q) :
    (Program.query q >>= k).Upholds setting w Q := by
  refine ⟨trivial, fun x w' hmoves => ?_⟩
  obtain ⟨htasks, hposts⟩ := w.tasks_posts_answer (Or.inr ⟨q, rfl⟩)
  have hquery := h.raises.query q
  rw [show w.answer (.query q) = (x, w') from hmoves] at hquery htasks hposts
  obtain ⟨hraises, ⟨y, hy, rfl⟩ | ⟨⟨e, rfl⟩, hstore⟩⟩ := hquery
  · rw [h.store] at hy
    exact hok y _ w' hy ⟨hraises, rfl, htasks.trans h.tasks, hposts.trans h.posts⟩
  · exact herror e w'
      ⟨hraises, hstore.trans h.store, htasks.trans h.tasks, hposts.trans h.posts⟩

end World

open World

/-- A program that failed, and nothing was done. -/
def InVain (before : World) (s : Store) (w : World) (o : Outcome α) : Prop :=
  (∃ f, o = .failed f) ∧ before.CameTo s w

theorem report_cameTo (h : before.CameTo s w) (e : Journal.Entry) :
    (report e).Upholds World.setting w fun w o => o = .done () ∧ before.CameTo s w :=
  report_upholds (keeps_cameTo_quiet before s) e h

theorem fail_inVain (h : before.CameTo s w) (operation : String) (e : StoreError) :
    (Repository.fail operation e : Program α).Upholds World.setting w (InVain before s) :=
  (fail_upholds (keeps_cameTo_quiet before s) operation e h).mono fun _ _ ho => ⟨ho.2, ho.1⟩

/-- A client is there, or there is none and nothing is done. -/
theorem connect_cameTo {k : Unit → Program α} {Q : World → Outcome α → Prop}
    (h : before.CameTo s w) (hk : ∀ w, before.CameTo s w → (k ()).Upholds World.setting w Q)
    (hfailed : ∀ w fault, before.CameTo s w → Q w (.failed (.store fault))) :
    (Repository.connect >>= k).Upholds World.setting w Q := by
  refine ⟨trivial, fun x w' hmoves => ?_⟩
  have hw' := (keeps_cameTo_quiet before s w .connect trivial h).2 x w' hmoves
  match x with
  | .error fault => exact hfailed w' fault hw'
  | .ok false => exact hk w' hw'
  | .ok true => exact (report_cameTo hw' _).bind_unit hk

theorem now_cameTo {k : Moment → Program α} {Q : World → Outcome α → Prop}
    (h : before.CameTo s w)
    (hk : ∀ now w, before.CameTo s w → (k now).Upholds World.setting w Q) :
    (Program.now >>= k).Upholds World.setting w Q :=
  ⟨trivial, fun now w' hmoves =>
    hk now w' ((keeps_cameTo_quiet before s w .clock trivial h).2 now w' hmoves)⟩

/-- One program after another, the first of which ends with a value or in vain. -/
theorem Program.Upholds.bind_inVain {p : Program α} {k : α → Program β} {P : World → α → Prop}
    {R : World → Outcome β → Prop}
    (h : p.Upholds World.setting w fun w o => (∃ a, o = .done a ∧ P w a) ∨ InVain before s w o)
    (hk : ∀ w a, P w a → (k a).Upholds World.setting w R)
    (hfailed : ∀ w f, before.CameTo s w → R w (.failed f)) :
    (p >>= k).Upholds World.setting w R :=
  h.bind_orFailed hk hfailed

/-! ## Flows that are looked for -/

theorem World.CameTo.atOnce (h : before.CameTo s w) : w.AtOnce s w := by
  have hself := atOnce_self w
  rwa [h.store] at hself

theorem World.AtOnce.cameTo {w' : World} {s' : Store} (h : w.AtOnce s' w')
    (hbefore : before.CameTo s w) : before.CameTo s' w' :=
  ⟨h.raises hbefore.raises, h.store, h.tasks.trans hbefore.tasks, h.posts.trans hbefore.posts⟩

/-- What a program does at once it also does in vain or not. -/
theorem Program.Upholds.cameTo {p : Program α} {P Q : World → α → Prop}
    (hp : p.Upholds World.setting w fun w' o => (∃ a, o = .done a ∧ P w' a) ∨ FailsAtOnce w s w' o)
    (h : before.CameTo s w) (hdone : ∀ w' a, P w' a → Q w' a) :
    p.Upholds World.setting w fun w' o => (∃ a, o = .done a ∧ Q w' a) ∨ InVain before s w' o := by
  refine hp.mono ?_
  rintro w' o (⟨a, ho, ha⟩ | ⟨hf, hw'⟩)
  · exact Or.inl ⟨a, ho, hdone w' a ha⟩
  · exact Or.inr ⟨hf, hw'.cameTo h⟩

/-- The flow that the store has under an id, as it is read at some time. -/
def Store.HasFlow (s : Store) (id : String) (flow : Flow) : Prop :=
  ∃ oid d now, ObjectId.ofText? id = some oid ∧ s.flows.findOne [.idIs oid] = some d ∧
    Repository.flowOf now d = .ok flow

theorem Store.HasFlowAt.hasFlow {now : Moment} {id : String} {flow : Flow}
    (h : s.HasFlowAt now id flow) : s.HasFlow id flow := by
  obtain ⟨oid, d, hid, hd, hread⟩ := h
  exact ⟨oid, d, now, hid, hd, hread⟩

theorem getFlow_ends (h : before.CameTo s w) (id : String) :
    (Repository.getFlow id).Upholds World.setting w fun w o =>
      (∃ found, o = .done found ∧ before.CameTo s w ∧ ∀ flow ∈ found, s.HasFlow id flow) ∨
      InVain before s w o :=
  (getFlow_atOnce h.atOnce id).cameTo h fun _ _ ⟨hw, hfound⟩ =>
    ⟨hw.cameTo h, fun flow hflow => (hfound flow hflow).hasFlow⟩

theorem existing_ends (h : before.CameTo s w) (id : String) :
    (Editor.existing id).Upholds World.setting w fun w o =>
      (∃ flow, o = .done flow ∧ before.CameTo s w ∧ s.HasFlow id flow) ∨
      InVain before s w o :=
  (existing_atOnce h.atOnce id).cameTo h fun _ _ ⟨hw, hflow⟩ => ⟨hw.cameTo h, hflow.hasFlow⟩

theorem requireFreeName_ends (h : before.CameTo s w) (name : String) (own : Option String) :
    (Editor.requireFreeName name own).Upholds World.setting w fun w o =>
      (∃ u, o = .done u ∧ before.CameTo s w) ∨ InVain before s w o :=
  (requireFreeName_atOnce h.atOnce name own).cameTo h fun _ _ hw => hw.cameTo h

/-- An activity that ends with a value or in vain, in whatever words it then fails. -/
theorem foreseen_ends {p : Program α} {P : World → α → Prop} (speaker : String)
    (activity : Activity)
    (h : p.Upholds World.setting w fun w o => (∃ a, o = .done a ∧ P w a) ∨ InVain before s w o) :
    (Editor.foreseen speaker activity p).Upholds World.setting w fun w o =>
      (∃ a, o = .done a ∧ P w a) ∨ InVain before s w o :=
  foreseen_orFailed speaker activity h (keeps_cameTo_quiet before s)

/-! ## Requests that only look -/

/-- A program that only looks: it ends with a value or in vain, and nothing is done. -/
def Program.Looks (p : Program α) : Prop :=
  ∀ ⦃before w : World⦄ ⦃s : Store⦄, before.CameTo s w → p.Upholds World.setting w fun w o =>
    (∃ a, o = .done a ∧ before.CameTo s w) ∨ InVain before s w o

theorem looks_done (a : α) : (Program.done a).Looks := fun _ _ _ h => Or.inl ⟨a, rfl, h⟩

theorem looks_failed (f : Failure) : (Program.failed f : Program α).Looks :=
  fun _ _ _ h => Or.inr ⟨⟨f, rfl⟩, h⟩

theorem looks_fail (operation : String) (e : StoreError) :
    (Repository.fail operation e : Program α).Looks :=
  fun _ _ _ h => (fail_inVain h operation e).mono fun _ _ ho => Or.inr ho

theorem Program.Looks.bind {p : Program α} {k : α → Program β} (hp : p.Looks)
    (hk : ∀ a, (k a).Looks) : (p >>= k).Looks :=
  fun _ _ _ h => (hp h).bind_inVain (fun _ a h => hk a h) fun _ f h => Or.inr ⟨⟨f, rfl⟩, h⟩

theorem looks_now_bind {k : Moment → Program α} (hk : ∀ now, (k now).Looks) :
    (Program.now >>= k).Looks :=
  fun _ _ _ h => now_cameTo h fun now _ h => hk now h

/-- A search, asked by a client. -/
theorem looks_search {q : Query} {k : Except StoreError q.Answer → Program α}
    (hq : (Request.query q).IsReading) (hk : ∀ x, (k x).Looks) :
    (Repository.connect >>= fun _ => Program.query q >>= k).Looks := by
  intro before w s h
  refine connect_cameTo h (fun w h => ?_) fun w f h => Or.inr ⟨⟨_, rfl⟩, h⟩
  refine query_cameTo h (fun y s' w hy h => ?_) fun e w h => hk _ h
  rw [store_of_isReading hy hq] at h
  exact hk _ h

theorem looks_foreseen {p : Program α} (speaker : String) (activity : Activity) (hp : p.Looks) :
    (Editor.foreseen speaker activity p).Looks :=
  fun _ _ _ h => foreseen_ends speaker activity (hp h)

theorem looks_getFlow (id : String) : (Repository.getFlow id).Looks := by
  intro before w s h
  refine (getFlow_ends h id).mono ?_
  rintro w o (⟨found, ho, h, -⟩ | ho)
  · exact Or.inl ⟨found, ho, h⟩
  · exact Or.inr ho

theorem looks_existing (id : String) : (Editor.existing id).Looks := by
  refine (looks_getFlow id).bind fun found => ?_
  cases found with
  | none => exact looks_failed _
  | some flow => exact looks_done flow

theorem looks_getFlows : Repository.getFlows.Looks := by
  refine looks_search trivial fun x => ?_
  match x with
  | .ok docs =>
    refine looks_now_bind fun now => ?_
    split
    · exact looks_done _
    · exact looks_fail _ _
  | .error e => exact looks_fail _ e

theorem looks_getTestRun (id : String) : (Repository.getTestRun id).Looks := by
  unfold Repository.getTestRun
  cases ObjectId.ofText? id with
  | none => exact looks_done none
  | some oid =>
    refine looks_search trivial fun x => ?_
    match x with
    | .ok none => exact looks_done none
    | .ok (some d) =>
      refine looks_now_bind fun now => ?_
      split
      · exact looks_done _
      · exact looks_fail _ _
    | .error e => exact looks_fail _ e

theorem looks_getTestRunsByFlow (id : String) : (Repository.getTestRunsByFlow id).Looks := by
  refine looks_search trivial fun x => ?_
  match x with
  | .ok docs =>
    refine looks_now_bind fun now => ?_
    split
    · exact looks_done _
    · exact looks_fail _ _
  | .error e => exact looks_fail _ e

theorem looks_getAuditEntries (id : String) : (Repository.getAuditEntries id).Looks := by
  refine looks_search trivial fun x => ?_
  match x with
  | .ok docs =>
    refine looks_now_bind fun now => ?_
    split
    · exact looks_done _
    · exact looks_fail _ _
  | .error e => exact looks_fail _ e

theorem looks_validate (draft : Draft) : (Editor.validate draft).Looks := by
  refine looks_now_bind fun now => ?_
  intro before w s h
  refine (reportAll_upholds (keeps_cameTo_quiet before s) _ h).bind_unit fun w h => ?_
  exact Or.inl ⟨_, rfl, h⟩

theorem looks_runDetail (id : String) : (RunDesk.detail id).Looks := by
  refine (looks_getTestRun id).bind fun run => ?_
  cases run with
  | none => exact looks_failed _
  | some run => exact looks_done run

theorem looks_overview (id : String) : (RunDesk.overview id).Looks :=
  (looks_runDetail id).bind fun run => (looks_getFlow run.flowId).bind fun _ => looks_done _

/-! ## Flows that are made -/

/-- The flow is new in the store, under an id of its own. -/
def World.Made (before : World) (s : Store) (flow : Flow) (w : World) (saved : Flow) : Prop :=
  ∃ id s', s.answer (.insert .flows flow.document) = .ok (some id, s') ∧
    saved = { flow with id := some id.text } ∧ before.CameTo s' w

theorem createFlow_ends (h : before.CameTo s w) (flow : Flow) :
    (Repository.createFlow flow).Upholds World.setting w fun w o =>
      (∃ saved, o = .done saved ∧ before.Made s flow w saved) ∨ InVain before s w o := by
  refine connect_cameTo h (fun w h => ?_) fun w f h => Or.inr ⟨⟨_, rfl⟩, h⟩
  refine query_cameTo h (fun id s' w hid h => ?_) fun e w h => ?_
  · obtain ⟨hsome, -⟩ := Store.answer_insert hid
    subst hsome
    exact Or.inl ⟨_, rfl, _, s', hid, rfl, h⟩
  · exact (fail_inVain h _ e).mono fun w o ho => Or.inr ho

/-- A draft becomes a flow as it is, under a trimmed name, or nothing is done. -/
theorem create_ends (h : before.CameTo s w) (draft : Draft) :
    (Editor.create draft).Upholds World.setting w fun w o =>
      (∃ saved, o = .done saved ∧ ∃ now, before.Made s
        ⟨none, Text.trim (draft.name.getD ""), draft.nodes, draft.edges, some now, some now⟩ w
          saved) ∨
      InVain before s w o := by
  unfold Editor.create
  generalize Text.trim (draft.name.getD "") = name
  refine foreseen_ends _ _ ?_
  dsimp only
  split
  · exact Or.inr ⟨⟨_, rfl⟩, h⟩
  split
  · exact Or.inr ⟨⟨_, rfl⟩, h⟩
  refine (requireFreeName_ends h name none).bind_inVain (fun w u h => ?_) fun w f h =>
    Or.inr ⟨⟨f, rfl⟩, h⟩
  refine now_cameTo h fun now w h => ?_
  refine (createFlow_ends h _).bind_inVain (fun w saved hmade => ?_) fun w f h =>
    Or.inr ⟨⟨f, rfl⟩, h⟩
  -- the flow is there, and only a report follows
  obtain ⟨id, s', hinsert, rfl, h⟩ := hmade
  refine (report_cameTo h _).bind_unit fun w h => ?_
  exact Or.inl ⟨_, rfl, now, id, s', hinsert, rfl, h⟩

/-! ## Flows that are changed -/

/-- The flow with an id is in the store with these changes, and is read so. -/
def World.Changed (before : World) (s : Store) (id : String) (changes : Fields) (w : World)
    (saved : Flow) : Prop :=
  ∃ oid d s' time now, ObjectId.ofText? id = some oid ∧
    s.answer (.change .flows oid (changes.insert "updated_at" (.date time))) = .ok (some d, s') ∧
    Repository.flowOf now d = .ok saved ∧ before.CameTo s' w

/-- What a revision provides is written, or nothing is done; one that provides nothing leaves the
flow as it is. -/
theorem update_ends (h : before.CameTo s w) (id : String) (revision : Revision) :
    (Editor.update id revision).Upholds World.setting w fun w o =>
      (∃ saved, o = .done saved ∧
        (revision.changes = [] ∧ before.CameTo s w ∧ s.HasFlow id saved ∨
          revision.changes ≠ [] ∧ before.Changed s id revision.changes w saved)) ∨
      InVain before s w o := by
  refine (update_atOnce h.atOnce id revision).cameTo h ?_
  rintro w' saved ⟨-, -, s', hw', haccepts⟩
  cases haccepts with
  | idle hchanges hsaved => exact Or.inl ⟨hchanges, hw'.cameTo h, hsaved.hasFlow⟩
  | changed hchanges hsaved =>
    obtain ⟨oid, d, hid, hchange, hread⟩ := hsaved
    exact Or.inr ⟨hchanges, oid, d, s', _, _, hid, hchange, hread, hw'.cameTo h⟩

/-! ## Flows that are deleted -/

/-- A flow that was found is deleted, or nothing is done. -/
theorem delete_ends (h : before.CameTo s w) (id : String) :
    (Editor.delete id).Upholds World.setting w fun w o =>
      (∃ u, o = .done u ∧ ∃ oid s', ObjectId.ofText? id = some oid ∧
        s.answer (.delete .flows oid) = .ok (true, s') ∧ before.CameTo s' w) ∨
      InVain before s w o := by
  unfold Editor.delete
  refine foreseen_ends _ _ ?_
  refine (existing_ends h id).bind_inVain (fun w flow hflow => ?_) fun w f h =>
    Or.inr ⟨⟨f, rfl⟩, h⟩
  obtain ⟨h, oid, -, -, hid, -, -⟩ := hflow
  have hdeleted : (Repository.deleteFlow id).Upholds World.setting w fun w o =>
      (∃ deleted, o = .done deleted ∧ (deleted = false ∧ before.CameTo s w ∨
        deleted = true ∧ ∃ s', s.answer (.delete .flows oid) = .ok (true, s') ∧
          before.CameTo s' w)) ∨ InVain before s w o := by
    unfold Repository.deleteFlow
    rw [hid]
    refine connect_cameTo h (fun w h => ?_) fun w f h => Or.inr ⟨⟨_, rfl⟩, h⟩
    refine query_cameTo h (fun y s' w hy h => ?_) fun e w h => ?_
    · refine Or.inl ⟨y, rfl, ?_⟩
      cases y with
      | true => exact Or.inr ⟨rfl, s', hy, h⟩
      | false =>
        -- what is not there is not taken away
        have huses : s.flows.uses oid = false := congrArg Prod.fst (Except.ok.inj hy)
        have hstore : s.withShelf (s.flows.delete oid) .flows = s' :=
          congrArg Prod.snd (Except.ok.inj hy)
        rw [Shelf.delete_of_not_uses huses] at hstore
        subst hstore
        exact Or.inl ⟨rfl, h⟩
    -- an error of the store is answered as if there had been nothing to delete
    · refine (report_cameTo h _).bind_unit fun w h => ?_
      exact Or.inl ⟨false, rfl, Or.inl ⟨rfl, h⟩⟩
  refine hdeleted.bind_inVain (fun w deleted hends => ?_) fun w f h => Or.inr ⟨⟨_, rfl⟩, h⟩
  rcases hends with ⟨rfl, h⟩ | ⟨rfl, s', hdelete, h⟩
  · exact Or.inr ⟨⟨_, rfl⟩, h⟩
  · refine (report_cameTo h _).mono fun w o ho => ?_
    exact Or.inl ⟨(), ho.1, oid, s', hid, hdelete, ho.2⟩

/-! ## Records of runs -/

/-- A document is new in the store, under an id of its own. -/
def World.Recorded (before : World) (s : Store) (c : Collection) (fields : Fields) (w : World)
    (text : String) : Prop :=
  ∃ id s', s.answer (.insert c fields) = .ok (some id, s') ∧ text = id.text ∧ before.CameTo s' w

/-- The record of a run is made, or nothing is done. -/
theorem createTestRun_ends (h : before.CameTo s w) (run : TestRun) :
    (Repository.createTestRun run).Upholds World.setting w fun w o =>
      (∃ text, o = .done (some { run with id := some text }) ∧
        before.Recorded s .testRuns run.document w text) ∨
      (o = .done none ∨ ∃ fault, o = .failed (.store fault)) ∧ before.CameTo s w := by
  refine connect_cameTo h (fun w h => ?_) fun w f h => Or.inr ⟨Or.inr ⟨f, rfl⟩, h⟩
  refine query_cameTo h (fun id s' w hid h => ?_) fun e w h => ?_
  · obtain ⟨rfl, -⟩ := Store.answer_insert hid
    exact Or.inl ⟨_, rfl, _, s', hid, rfl, h⟩
  · refine (report_cameTo h _).bind_unit fun w h => ?_
    exact Or.inr ⟨Or.inl rfl, h⟩

/-- An audit entry is made, or nothing is done. -/
theorem createAuditEntry_ends (h : before.CameTo s w) (entry : AuditEntry) :
    (Repository.createAuditEntry entry).Upholds World.setting w fun w o =>
      (∃ saved, o = .done saved ∧ ∃ text, saved = { entry with id := some text } ∧
        before.Recorded s .executionLogs entry.document w text) ∨ InVain before s w o := by
  refine connect_cameTo h (fun w h => ?_) fun w f h => Or.inr ⟨⟨_, rfl⟩, h⟩
  refine query_cameTo h (fun id s' w hid h => ?_) fun e w h => ?_
  · obtain ⟨rfl, -⟩ := Store.answer_insert hid
    exact Or.inl ⟨_, rfl, _, rfl, _, s', hid, rfl, h⟩
  · exact Or.inr ⟨⟨_, rfl⟩, h⟩

/-! ## Runs that are started -/

/-- Why a flow may not be run is a matter of validation exactly if it has a defect. -/
theorem Flow.admitted_error {flow : Flow} {f : Failure} (h : flow.admitted = .error f) :
    match flow.defect? with
    | some d => f = .invalidFlow d
    | none => f.kind ≠ .validation := by
  unfold admitted at h
  cases hdefect : flow.defect? with
  | some d =>
    simp only [hdefect, Except.error.injEq] at h
    exact h.symm
  | none =>
    simp only [hdefect] at h
    split at h <;> cases h
    · contradiction
    all_goals simp [Failure.kind]

theorem Flow.defect?_of_admitted {flow : Flow} {start : String × Node}
    (h : flow.admitted = .ok start) : flow.defect? = none := by
  unfold admitted at h
  split at h <;> cases h
  assumption

/-- A run of a flow begins, or nothing is done; the failure is one of validation exactly if the flow
has a defect, and then it tells of the first. -/
theorem Runner.start_ends (h : before.CameTo s w) (flow : Flow) (recipient : String) :
    (Runner.start flow recipient).Upholds World.setting w fun w o =>
      (∃ runId, o = .done runId ∧ flow.defect? = none) ∨
      ∃ f, o = .failed f ∧ before.CameTo s w ∧
        match flow.defect? with
        | some d => f = .invalidFlow d
        | none => f.kind ≠ .validation := by
  have hadmission : (Runner.admission flow).Upholds World.setting w fun w o =>
      o = outcomeOf flow.admitted ∧ before.CameTo s w := by
    rw [Runner.admission_eq]
    refine (reportAll_upholds (keeps_cameTo_quiet before s) _ h).bind_unit fun w h => ?_
    cases flow.admitted <;> exact ⟨rfl, h⟩
  refine hadmission.bind ?_ ?_ ?_
  · rintro w ⟨id, node⟩ ⟨ho, h⟩
    have hdefect : flow.defect? = none := by
      cases hadmitted : flow.admitted <;> rw [hadmitted] at ho <;> cases ho
      exact Flow.defect?_of_admitted hadmitted
    rw [hdefect]
    refine now_cameTo h fun now w h => ?_
    -- only the record of the run can fail now, and that is no matter of validation
    refine (createTestRun_ends h _).bind ?_ ?_ ?_
    · rintro w saved (⟨text, ho, -⟩ | ⟨ho | ⟨fault, ho⟩, h⟩)
      · cases ho
        exact ⟨trivial, fun _ _ _ => ⟨trivial, fun _ _ _ => Or.inl ⟨_, rfl, rfl⟩⟩⟩
      · cases ho
        exact Or.inr ⟨_, rfl, h, nofun⟩
      · cases ho
    · rintro w f (⟨text, ho, -⟩ | ⟨ho | ⟨fault, ho⟩, h⟩)
      · cases ho
      · cases ho
      · cases ho
        exact Or.inr ⟨_, rfl, h, nofun⟩
    · rintro w (⟨text, ho, -⟩ | ⟨ho | ⟨fault, ho⟩, h⟩) <;> cases ho
  · rintro w f ⟨ho, h⟩
    cases hadmitted : flow.admitted <;> rw [hadmitted] at ho <;> cases ho
    exact Or.inr ⟨f, rfl, h, Flow.admitted_error hadmitted⟩
  · rintro w ⟨ho, -⟩
    cases hadmitted : flow.admitted <;> rw [hadmitted] at ho <;> cases ho

/-- A run of a saved flow begins, or nothing is done. -/
theorem start_ends (h : before.CameTo s w) (id recipient : String) :
    (RunDesk.start id recipient).Upholds World.setting w fun w o =>
      (∃ runId, o = .done runId ∧ True) ∨ InVain before s w o := by
  refine foreseen_ends _ _ ?_
  refine (existing_ends h id).bind_inVain (fun w flow hflow => ?_) fun w f h =>
    Or.inr ⟨⟨_, rfl⟩, h⟩
  refine (Runner.start_ends hflow.1 flow recipient).mono ?_
  rintro w o (⟨runId, ho, -⟩ | ⟨f, ho, h, -⟩)
  · exact Or.inl ⟨runId, ho, trivial⟩
  · exact Or.inr ⟨⟨f, ho⟩, h⟩

end Automation
