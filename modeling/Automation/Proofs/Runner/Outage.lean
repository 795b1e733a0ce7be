import Automation.Proofs.Runner.Bounds
import Automation.Proofs.Runner.Sketch
import Automation.Proofs.World.Exchanges

/-!
# Runs while the store fails

The calls by which a run writes its records may fail, in any pattern: those that tell the record of
the run of something, and those that make or change an audit entry. A call that fails raises an
error and changes nothing. What the run leaves behind is worked out from that alone, by a sketch
whose state is a footprint (`Outage.sketch`): the world has the clock and the mail that the
footprint says (`World.Weathers`), whatever calls fail, so the run goes on as its sketch does.
-/

set_option autoImplicit false

namespace Automation

open World (Outcome Face)
open Program

/-! ## Faults of the writes of a run -/

/-- A fault of the calls that make or change audit entries. -/
def Fault.IsOfAudit (f : Fault) : Prop :=
  f.place = Collection.executionLogs.name ∧
    (f.method = "insert_one" ∨ f.method = "find_one_and_update")

/-- A fault by which calls that write the records of a run raise errors. -/
structure Fault.StrikesWrites (f : Fault) : Prop where
  raises : f.Raises
  ofWrites : f.IsOfUpdates ∨ f.IsOfAudit

namespace Fault

theorem StrikesWrites.place_ne_client {f : Fault} (h : f.StrikesWrites) : f.place ≠ client := by
  rcases h.ofWrites with hf | hf <;> rw [hf.1] <;> decide

theorem IsOfAudit.place_ne {f : Fault} (h : f.IsOfAudit) :
    f.place ≠ Collection.testRuns.name := by
  rw [h.1]
  decide

end Fault

/-! ## The world around a run -/

/-- The requests by which a run tells its record of something. -/
def Request.IsOfRecord : Request → Prop
  | .query (.update .testRuns ..) => True
  | r => r.IsQuiet

theorem Request.IsOfRecord.eq {r : Request} (h : r.IsOfRecord) :
    r.IsQuiet ∨ ∃ id changes, r = .query (.update .testRuns id changes) := by
  unfold IsOfRecord at h
  split at h
  · exact Or.inr ⟨_, _, rfl⟩
  · exact Or.inl h

/-- The requests by which a run keeps its record and its audit entries. -/
def Request.IsOfBooks (r : Request) : Prop := r.IsOfRecord ∨ r.IsOfAudit

theorem Request.IsQuiet.isOfRecord {r : Request} (h : r.IsQuiet) : r.IsOfRecord := by
  cases r <;> first | exact h | exact h.elim

theorem Request.IsQuiet.footprint_eq {r : Request} (h : r.IsQuiet) (x : r.Answer) :
    Exchange.footprint ⟨r, x⟩ = {} := by
  cases r <;> first | rfl | exact h.elim

theorem Request.IsOfBooks.others_eq {r : Request} (h : r.IsOfBooks) (x : r.Answer) :
    (Exchange.footprint ⟨r, x⟩).others = [] ∧ (Exchange.footprint ⟨r, x⟩).sleeps = [] := by
  have hquiet : r.IsQuiet → (Exchange.footprint ⟨r, x⟩).others = [] ∧
      (Exchange.footprint ⟨r, x⟩).sleeps = [] := by
    intro h
    rw [h.footprint_eq]
    exact ⟨rfl, rfl⟩
  rcases h with h | h | h
  · rcases h.eq with h | ⟨id, changes, rfl⟩
    · exact hquiet h
    · exact ⟨rfl, rfl⟩
  · exact hquiet h
  · obtain ⟨fields, rfl⟩ | ⟨id, changes, rfl⟩ := h.eq <;> exact ⟨rfl, rfl⟩

theorem Request.IsOfNode.others_eq {r : Request} (h : r.IsOfNode) (x : r.Answer) :
    (Exchange.footprint ⟨r, x⟩).others = [] := by
  cases r <;> first | rfl | exact h.elim

theorem Program.asks_record_updateTestRun (id : String) (changes : Fields) :
    (Repository.updateTestRun id changes).Asks Request.IsOfRecord :=
  Asks.updateTestRun (fun _ h => h.isOfRecord) id fun _ _ => trivial

theorem Runner.asks_record_conclude (a : Assignment) (ending : Ending) :
    (conclude a ending).Asks Request.IsOfRecord :=
  Asks.conclude (fun _ h => h.isOfRecord) a ending fun _ _ _ _ => trivial

namespace World

/-- A world in which writes of a run may fail: it has the clock and the mail that the footprint of
its exchanges says, and the test runs too if only writes of the audit fail. -/
structure Weathers (first : Face) (spared : Prop) (s : World × List Exchange) : Prop where
  faults : ∀ f ∈ s.1.database.faults, f.StrikesWrites
  ofAudit : spared → ∀ f ∈ s.1.database.faults, f.IsOfAudit
  clock : s.1.clock = (first.after (footprint s.2)).clock
  mail : s.1.mail = (first.after (footprint s.2)).mail
  testRuns : spared → s.1.database.store.testRuns = (first.after (footprint s.2)).testRuns

variable {first : Face} {spared : Prop} {w w' : World} {es : List Exchange}

theorem Weathers.raises {s : World × List Exchange} (h : Weathers first spared s) : s.1.Raises :=
  fun f hf => (h.faults f hf).raises

/-- The client of the store is never struck. -/
theorem Weathers.touch {s : World × List Exchange} (h : Weathers first spared s)
    (method : String) : s.1.database.touch method = (.ok (), s.1.database) :=
  Database.touch_of_place (fun f hf => (h.faults f hf).place_ne_client) method

theorem Weathers.connect {s : World × List Exchange} (h : Weathers first spared s) :
    ∃ b, (s.1.answer .connect).1 = .ok b := by
  simp only [answer, h.touch]
  split <;> exact ⟨_, rfl⟩

/-- What a query that makes no test run does to the test runs, if it is not struck when it is about
them. -/
theorem testRuns_answer_query (hw : w.Raises) {q : Query} {x : Except StoreError q.Answer}
    (hothers : (Exchange.footprint ⟨.query q, x⟩).others = [])
    (hspared : ∀ f ∈ w.database.faults, f.IsOfAudit) :
    (w.answer (.query q)).2.database.store.testRuns =
      (Exchange.footprint ⟨.query q, x⟩).writes.foldl written w.database.store.testRuns := by
  have hafter := testRuns_answer w.database.store q hothers
  obtain ⟨-, ⟨y, hy, -⟩ | ⟨-, hstore⟩⟩ := hw.query q
  · rw [hy] at hafter
    exact hafter
  · by_cases hcollection : q.collection = .testRuns
    · -- no fault strikes, so it is the store itself that raises the error
      have hstrike := Fault.strike_of_place q.collection.name q.method fun f hf => by
        rw [hcollection]
        exact (hspared f hf).place_ne
      rw [← hafter]
      simp only [answer, Database.answer, hstrike]
      cases w.database.store.answer q <;> rfl
    · have hnone : (Exchange.footprint ⟨.query q, x⟩).writes = [] := by
        cases q with
        | update c id changes => cases c <;> first | rfl | exact absurd rfl hcollection
        | insert c fields => cases c <;> rfl
        | change c id changes => cases c <;> rfl
        | delete c id => cases c <;> rfl
        | _ => rfl
      rw [hstore, hnone]
      rfl

/-- What a request does to the faults of a world, to its clock, its mail and its test runs. -/
theorem Weathers.face_answer (h : Weathers first spared (w, es)) (r : Request)
    (hothers : (Exchange.footprint ⟨r, (w.answer r).1⟩).others = []) :
    (w.answer r).2.clock = (w.face.after (Exchange.footprint ⟨r, (w.answer r).1⟩)).clock ∧
      (w.answer r).2.mail = (w.face.after (Exchange.footprint ⟨r, (w.answer r).1⟩)).mail ∧
      (spared → (w.answer r).2.database.store.testRuns =
        (w.face.after (Exchange.footprint ⟨r, (w.answer r).1⟩)).testRuns) := by
  cases r with
  | query q =>
    obtain ⟨hposts, hsleeps⟩ := footprint_query q (w.answer (.query q)).1
    refine ⟨?_, ?_, fun hs => testRuns_answer_query h.raises hothers (h.ofAudit hs)⟩
    · simp only [Face.after, hsleeps]
      exact (Int.add_zero _).symm
    · simp only [Face.after, hposts]
      rfl
  | post p => simp [Face.after, Exchange.footprint, face, World.answer]
  | sleep ms => simp [Face.after, Exchange.footprint, face, World.answer, add_passing]
  | report e =>
    rw [show Exchange.footprint ⟨.report e, (w.answer (.report e)).1⟩ = {} from rfl,
      Face.after_empty]
    simp only [World.answer, World.report]
    split <;> exact ⟨rfl, rfl, fun _ => rfl⟩
  | connect =>
    rw [show Exchange.footprint ⟨.connect, (w.answer .connect).1⟩ = {} from rfl, Face.after_empty]
    simp only [World.answer, h.touch]
    split <;> exact ⟨rfl, rfl, fun _ => rfl⟩
  | disconnect =>
    rw [show Exchange.footprint ⟨.disconnect, (w.answer .disconnect).1⟩ = {} from rfl,
      Face.after_empty]
    simp only [World.answer, h.touch]
    split <;> exact ⟨rfl, rfl, fun _ => rfl⟩
  | _ => simp [Face.after, Exchange.footprint, face, World.answer, World.begin]

/-- A world weathers one more request. -/
theorem Weathers.answer (h : Weathers first spared (w, es)) (r : Request)
    (hothers : (Exchange.footprint ⟨r, (w.answer r).1⟩).others = []) :
    Weathers first spared ((w.answer r).2, es ++ [⟨r, (w.answer r).1⟩]) := by
  obtain ⟨hclock, hmail, htestRuns⟩ := h.face_answer r hothers
  have hfoot : first.after (footprint (es ++ [⟨r, (w.answer r).1⟩])) =
      (first.after (footprint es)).after (Exchange.footprint ⟨r, (w.answer r).1⟩) := by
    rw [footprint_append, Face.after_append, footprint_cons, footprint_nil, Footprint.append_empty]
  refine ⟨forall_faults_answer h.faults (fun f _ _ hf => ⟨hf.1, hf.2⟩) r,
    fun hs => forall_faults_answer (h.ofAudit hs) (fun f _ _ hf => hf) r, ?_, ?_, fun hs => ?_⟩
  · rw [hfoot]
    exact hclock.trans (congrArg (· + _) h.clock)
  · rw [hfoot]
    exact hmail.trans (congrArg (List.foldl _ · _) h.mail)
  · rw [hfoot]
    exact (htestRuns hs).trans (congrArg (List.foldl _ · _) (h.testRuns hs))

/-- A program that only keeps records of a run ends as its dialogues do, at one and the same
time. -/
theorem Weathers.call {α : Type} {p : Program α} {Q : List Exchange → Outcome α → Prop}
    (h : Weathers first spared (w, es)) (hasks : p.Asks Request.IsOfBooks)
    (hends : p.Ensures Exchange.IsPatient Q) :
    p.Upholds chronicle (w, es) fun s o => ∃ news, s.2 = es ++ news ∧ Q news o ∧
      Weathers first spared s ∧ ¬ Refused news ∧
        ∀ t : Moment, ⟨.clock, t⟩ ∈ news → t = .ofInstant (first.after (footprint es)).clock := by
  have hnothing : ¬ Refused [] := fun ⟨e, he, _⟩ => absurd he List.not_mem_nil
  have hnever : ∀ (c : Int) (t : Moment), ⟨.clock, t⟩ ∈ ([] : List Exchange) →
      t = .ofInstant c := fun c t ht => absurd ht List.not_mem_nil
  induction p generalizing w es Q with
  | done x => exact ⟨[], (List.append_nil es).symm, hends, h, hnothing, hnever _⟩
  | failed f => exact ⟨[], (List.append_nil es).symm, hends, h, hnothing, hnever _⟩
  | cancelled => exact ⟨[], (List.append_nil es).symm, hends, h, hnothing, hnever _⟩
  | ask r next ih =>
    refine ⟨trivial, ?_⟩
    rintro x ⟨w', es'⟩ ⟨hanswer, hes'⟩
    obtain rfl : es' = es ++ [⟨r, x⟩] := hes'
    obtain ⟨hothers, hsleeps⟩ := hasks.1.others_eq x
    have hafter := h.answer r (hasks.1.others_eq _).1
    rw [show w.answer r = (x, w') from hanswer] at hafter
    have hclock : (first.after (footprint (es ++ [⟨r, x⟩]))).clock =
        (first.after (footprint es)).clock := by
      simp [Face.after, hsleeps]
    have hpatient : Exchange.IsPatient ⟨r, x⟩ := by
      have hworld := answer_isPatient w r
      rwa [show w.answer r = (x, w') from hanswer] at hworld
    refine (ih x hafter (hasks.2 x) (hends x hpatient)).mono ?_
    rintro s o ⟨news, hnews, hQ, hs, hreached, htold⟩
    refine ⟨⟨r, x⟩ :: news, hnews.trans (List.append_cons es ⟨r, x⟩ news).symm, hQ, hs, ?_, ?_⟩
    · -- only a connection could be refused, and the weather lets it through
      rintro ⟨e, he, hrefusal⟩
      rcases List.mem_cons.1 he with rfl | he
      · cases r with
        | connect =>
          obtain ⟨b, hb⟩ := h.connect
          rw [show w.answer .connect = (x, w') from hanswer] at hb
          obtain rfl : x = .ok b := hb
          exact hrefusal
        | _ => exact hrefusal
      · exact hreached ⟨e, he, hrefusal⟩
    · -- nothing here sleeps, so the clock stands still
      intro t ht
      rw [hclock] at htold
      rcases List.mem_cons.1 ht with heq | ht
      · cases heq
        have hnow : (w.now, w) = (t, w') := hanswer
        cases hnow
        rw [← h.clock]
        rfl
      · exact htold t ht

end World

/-! ## The sketch -/

namespace Outage

variable {first : Face} {spared : Prop} {a : Assignment}

/-- The changes of the record of a run that are written at a time. -/
def told (runId : String) (now : Moment) (changes : Fields) : Footprint :=
  match ObjectId.ofText? runId with
  | none => {}
  | some oid => { writes := [(oid, changes.insert "updated_at" (.date now))] }

/-- The time after what was left behind. -/
def now (first : Face) (m : Footprint) : Moment := .ofInstant (first.after m).clock

/-- A run by what it leaves behind. -/
def sketch (first : Face) (runId : String) : Sketch Footprint where
  answer m
    | .clock => (now first m, m)
    | .report _ => ((), m)
    | .connect => (.ok false, m)
    | .disconnect => (.ok (), m)
    | .query q => (.ok q.nothing, m)
    | .post p => ((first.after m).mail.next.1, m ++ { posts := [p] })
    | .sleep ms => (.elapsed, m ++ { sleeps := [ms] })
    | .launch .. => ((), m)
    | .isActive _ => (false, m)
    | .say _ => ((), m)
  elapses _ _ := rfl
  named n m := m ++ told runId (now first m) (TestRun.visiting n.id)
  begun n m := m ++ { visits := [(n.id, n.type)] }
  finished _ _ m := m
  recorded ending m := m ++ told runId (now first m) (ending.change (now first m))

/-- The world weathers what happens, and its exchanges left this behind. -/
structure Shows (first : Face) (spared : Prop) (m : Footprint) (s : World × List Exchange) :
    Prop where
  weathers : World.Weathers first spared s
  left : footprint s.2 = m

theorem told_of_written {changes : Fields} {es : List Exchange}
    {writes : List (ObjectId × Fields)} {t : Moment} (h : Written a.runId changes es writes)
    (hclock : ∀ t' : Moment, ⟨.clock, t'⟩ ∈ es → t' = t) :
    ({ writes } : Footprint) = told a.runId t changes := by
  cases hid : ObjectId.ofText? a.runId with
  | none =>
    simp only [Written, hid] at h
    simp only [told, hid, h]
  | some oid =>
    simp only [Written, hid] at h
    obtain ⟨now, hnow, rfl⟩ := h
    simp only [told, hid, hclock now hnow]

variable {m : Footprint} {s : World × List Exchange}

/-- A call that only keeps records of a run adds its footprint to what was left behind, and takes no
time. -/
theorem Shows.call {α : Type} {p : Program α} {Q : List Exchange → Outcome α → Prop}
    (hs : Shows first spared m s) (hasks : p.Asks Request.IsOfBooks)
    (hends : p.Ensures Exchange.IsPatient Q) :
    p.Upholds World.chronicle s fun s o => ∃ news, Q news o ∧
      Shows first spared (m ++ footprint news) s ∧ ¬ Refused news ∧
        ∀ t : Moment, ⟨.clock, t⟩ ∈ news → t = now first m := by
  obtain ⟨w, es⟩ := s
  obtain rfl : footprint es = m := hs.left
  refine (hs.weathers.call hasks hends).mono ?_
  rintro s o ⟨news, hnews, hQ, hweathers, hreached, hclock⟩
  exact ⟨news, hQ, ⟨hweathers, by rw [hnews, footprint_append]⟩, hreached, hclock⟩

/-- A request of a visit is answered as the sketch answers it. -/
theorem Shows.ask (hs : Shows first spared m s) (runId : String) {r : Request} (hr : r.IsOfNode) :
    World.chronicle.fits s r ∧ ∀ (x : r.Answer) s', World.chronicle.moves s ⟨r, x⟩ s' →
      x = ((sketch first runId).answer m r).1 ∧
        Shows first spared ((sketch first runId).answer m r).2 s' := by
  obtain ⟨w, es⟩ := s
  refine ⟨trivial, ?_⟩
  rintro x ⟨w', es'⟩ ⟨hanswer, hes'⟩
  obtain rfl : es' = es ++ [⟨r, x⟩] := hes'
  have hafter := hs.weathers.answer r (hr.others_eq _)
  have hanswer : w.answer r = (x, w') := hanswer
  rw [hanswer] at hafter
  have hleft : footprint (es ++ [⟨r, x⟩]) = m ++ Exchange.footprint ⟨r, x⟩ := by
    rw [footprint_append, hs.left, footprint_cons, footprint_nil, Footprint.append_empty]
  have hclock : w.clock = (first.after m).clock := by
    rw [← hs.left]
    exact hs.weathers.clock
  have hmail : w.mail = (first.after m).mail := by
    rw [← hs.left]
    exact hs.weathers.mail
  cases r with
  | clock =>
    refine ⟨?_, hafter, hleft.trans (Footprint.append_empty m)⟩
    rw [← show w.now = x from congrArg Prod.fst hanswer, World.now, hclock]
    rfl
  | report e => exact ⟨rfl, hafter, hleft.trans (Footprint.append_empty m)⟩
  | post p =>
    refine ⟨?_, hafter, hleft⟩
    rw [← show w.mail.next.1 = x from congrArg Prod.fst hanswer, hmail]
    rfl
  | sleep ms => exact ⟨(congrArg Prod.fst hanswer).symm, hafter, hleft⟩
  | _ => exact hr.elim

/-- A run does what its sketch says, whichever of its writes fail. -/
theorem fits (first : Face) (spared : Prop) (a : Assignment) :
    (sketch first a.runId).Fits World.chronicle a (Shows first spared)
      fun _ => Shows first spared where
  remarks e m s hs := by
    refine (hs.call (p := report e) ⟨Or.inl trivial, fun _ => trivial⟩
      (Q := fun es o => o = .done () ∧ footprint es = {}) (fun _ _ => ⟨rfl, rfl⟩)).mono ?_
    rintro s o ⟨news, ⟨ho, hfoot⟩, hs, -⟩
    rw [hfoot, Footprint.append_empty] at hs
    exact ⟨ho, hs⟩
  names n m s hs := by
    refine (hs.call ((asks_record_updateTestRun _ _).mono fun _ => Or.inl)
      (updateTestRun_ensures _ _)).mono ?_
    rintro s o ⟨news, hends, hs, hreached, hclock⟩
    rcases hends with ⟨b, writes, ho, hfoot, hwritten⟩ | ⟨hrefused, -⟩
    · rw [hfoot, told_of_written hwritten hclock] at hs
      exact ⟨b, ho, hs⟩
    · exact absurd hrefused hreached
  begins n m s hs := by
    refine (hs.call ((asks_begin _).mono fun _ => Or.inr) (begin_ensures _)).mono ?_
    rintro s o ⟨news, ⟨entry, ho, hfoot⟩, hs, hreached, -⟩
    rw [hfoot.resolve_right fun h => hreached h.1] at hs
    exact ⟨entry, ho, hs⟩
  asks _ _ _ _ hr hs := hs.ask a.runId hr
  finishes entry status message m s hs := by
    refine (hs.call ((asks_finish _ _ _).mono fun _ => Or.inr) (finish_ensures _ _ _)).mono ?_
    rintro s o ⟨news, ⟨ho, hfoot⟩, hs, -⟩
    rw [hfoot, Footprint.append_empty] at hs
    exact ⟨ho, hs⟩
  concludes ending m s hs := by
    refine (hs.call ((Runner.asks_record_conclude _ _).mono fun _ => Or.inl)
      (Runner.conclude_ensures a ending)).mono ?_
    rintro s o ⟨news, hends, hs, hreached, hclock⟩
    refine ⟨hends.done_of_reached hreached, ?_⟩
    cases hends with
    | recorded hfoot hnow hwritten =>
      -- the end is written at the time that the run was told, as no call takes any
      rw [hclock _ hnow] at hwritten
      rw [hfoot, told_of_written hwritten hclock] at hs
      exact hs
    | refused href => exact absurd href hreached

end Outage

namespace World

/-- A world has done what a run does, with these exchanges. -/
theorem perform_shows (w : World) (spared : Prop)
    (hfaults : ∀ f ∈ w.database.faults, f.StrikesWrites)
    (hspared : spared → ∀ f ∈ w.database.faults, f.IsOfAudit) (r : Runner) (a : Assignment) :
    ∃ summary, (w.perform (r.run a)).1 = .done summary ∧
      ((Outage.sketch w.face a.runId).run r a {}).1 = .done summary ∧
      Outage.Shows w.face spared ((Outage.sketch w.face a.runId).run r a {}).2
        ((w.perform (r.run a)).2, w.exchanges (r.run a)) := by
  have hbegin : Outage.Shows w.face spared {} (w, []) := by
    refine ⟨⟨hfaults, hspared, ?_, ?_, fun _ => ?_⟩, rfl⟩ <;>
      rw [footprint_nil, Face.after_empty] <;> rfl
  have hrun := perform_chronicle ((Outage.fits w.face spared a).run (r := r) hbegin)
  rwa [List.nil_append] at hrun

end World

end Automation
