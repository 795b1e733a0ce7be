import Automation.Proofs.Program.Footprint
import Automation.Proofs.Store.Strikes

/-!
# Worlds and the dialogues they have

A world that carries out a program has a dialogue with it (`perform_ensures`). Of a world whose
store has no faults, a run meets its clock, the script of its mail and its test runs, and leaves
messages, pauses and changed test runs in it: its `Face`. The footprint of a dialogue tells what the
face is afterwards (`Replays.face_eq`), so a fact about footprints is one about worlds.
-/

set_option autoImplicit false

namespace Automation

open Program

namespace World

/-- A world answers the requests of a dialogue one after the other, and becomes another world. -/
inductive Replays : World → List Exchange → World → Prop
  | nil (w : World) : Replays w [] w
  | cons {w w' : World} {q : Request} {es : List Exchange} (h : Replays (w.answer q).2 es w') :
      Replays w (⟨q, (w.answer q).1⟩ :: es) w'

variable {w w' : World} {es es' : List Exchange}

theorem answer_isPatient (w : World) (q : Request) :
    Exchange.IsPatient ⟨q, (w.answer q).1⟩ := by
  cases q <;> trivial

/-- A world carries out a program by a dialogue with it. -/
theorem perform_ensures {α : Type} {p : Program α} {Q : List Exchange → Outcome α → Prop}
    (h : p.Ensures Exchange.IsPatient Q) (w : World) :
    ∃ es, w.Replays es (w.perform p).2 ∧ Q es (w.perform p).1 := by
  induction p generalizing w Q with
  | done a => exact ⟨[], Replays.nil w, h⟩
  | failed f => exact ⟨[], Replays.nil w, h⟩
  | cancelled => exact ⟨[], Replays.nil w, h⟩
  | ask q next ih =>
    obtain ⟨es, hes, hQ⟩ := ih _ (h _ (w.answer_isPatient q)) (w.answer q).2
    exact ⟨_, Replays.cons hes, hQ⟩

theorem replays_nil : w.Replays [] w' ↔ w' = w := by
  constructor
  · intro h
    cases h
    rfl
  · rintro rfl
    exact Replays.nil w'

theorem replays_cons {e : Exchange} :
    w.Replays (e :: es) w' ↔ e.answer = (w.answer e.request).1 ∧
      (w.answer e.request).2.Replays es w' := by
  constructor
  · intro h
    cases h with
    | cons h => exact ⟨rfl, h⟩
  · obtain ⟨q, x⟩ := e
    rintro ⟨hx, h⟩
    obtain rfl : x = (w.answer q).1 := hx
    exact Replays.cons h

theorem replays_append :
    w.Replays (es ++ es') w' ↔ ∃ m, w.Replays es m ∧ Replays m es' w' := by
  induction es generalizing w with
  | nil => simp [replays_nil]
  | cons e es ih =>
    rw [List.cons_append, replays_cons, ih]
    constructor
    · rintro ⟨he, m, hm, hrest⟩
      exact ⟨m, replays_cons.2 ⟨he, hm⟩, hrest⟩
    · rintro ⟨m, hm, hrest⟩
      obtain ⟨he, hm⟩ := replays_cons.1 hm
      exact ⟨he, m, hm, hrest⟩

/-! ## The face of a world -/

/-- What a run meets of a world, and what it leaves in it. -/
structure Face where
  clock : Int
  mail : MailScript
  posts : List Mail.Post
  sleeps : List Int
  testRuns : Shelf

/-- The face of a world. -/
def face (w : World) : Face := ⟨w.clock, w.mail, w.posts, w.sleeps, w.database.store.testRuns⟩

/-- The test runs after a change, if its values can be kept. -/
def written (s : Shelf) (change : ObjectId × Fields) : Shelf :=
  match Value.storedFields? change.2 with
  | .ok changes => s.change change.1 changes
  | .error _ => s

/-- The microseconds that a pause takes. -/
def passing (ms : Int) : Int := if 0 < ms then microseconds ms else 0

/-- A clock that a pause moves, moves by what the pause takes. -/
theorem add_passing (clock ms : Int) :
    (if 0 < ms then clock + microseconds ms else clock) = clock + passing ms := by
  unfold passing
  split <;> omega

/-- The face of a world after what a dialogue left behind. -/
def Face.after (f : Face) (left : Footprint) : Face where
  clock := f.clock + (left.sleeps.map passing).sum
  mail := left.posts.foldl (fun mail _ => mail.next.2) f.mail
  posts := f.posts ++ left.posts
  sleeps := f.sleeps ++ left.sleeps
  testRuns := left.writes.foldl written f.testRuns

@[simp] theorem Face.after_empty (f : Face) : f.after {} = f := by
  simp [Face.after]

theorem Face.after_append (f : Face) (left rest : Footprint) :
    f.after (left ++ rest) = (f.after left).after rest := by
  simp [Face.after, Int.add_assoc]

/-! ## The database of a world -/

/-- What a request does to the database: nothing, an operation on the client, or a query. -/
theorem database_answer_cases (w : World) (r : Request) :
    (w.answer r).2.database = w.database ∨
      (∃ method, (w.answer r).2.database = (w.database.touch method).2) ∨
      ∃ q, r = .query q ∧ (w.answer r).2.database = (w.database.answer q).2 := by
  cases r with
  | report e =>
    simp only [answer, World.report]
    split <;> exact Or.inl rfl
  | connect =>
    simp only [answer]
    split
    · exact Or.inl rfl
    · refine Or.inr (Or.inl ⟨"connect", ?_⟩)
      split <;> rename_i htouched <;> rw [htouched]
  | disconnect =>
    simp only [answer]
    split
    · exact Or.inr (Or.inl ⟨"close", rfl⟩)
    · exact Or.inl rfl
  | query q => exact Or.inr (Or.inr ⟨q, rfl, rfl⟩)
  | _ => exact Or.inl rfl

/-- A request leaves the faults of a world what they are. -/
theorem forall_faults_answer {P : Fault → Prop} (hfaults : ∀ f ∈ w.database.faults, P f)
    (hP : ∀ f skip times, P f → P { f with skip, times }) (r : Request) :
    ∀ f ∈ (w.answer r).2.database.faults, P f := by
  rcases w.database_answer_cases r with h | ⟨method, h⟩ | ⟨q, -, h⟩
  · rwa [h]
  · rw [h, Database.faults_touch]
    exact Fault.forall_mem_strike hfaults hP _ _
  · rw [h, Database.faults_answer]
    exact Fault.forall_mem_strike hfaults hP _ _

/-- Only a query that the store answers changes it. -/
theorem store_answer (w : World) (r : Request) :
    (w.answer r).2.database.store = w.database.store ∨
      ∃ (q : Query) (y : q.Answer), r = .query q ∧
        w.database.store.answer q = .ok (y, (w.answer r).2.database.store) := by
  rcases w.database_answer_cases r with h | ⟨method, h⟩ | ⟨q, hr, h⟩
  · exact Or.inl (congrArg Database.store h)
  · exact Or.inl (by rw [h, Database.store_touch])
  · rw [h]
    rcases w.database.store_answer q with hsame | ⟨y, hy⟩
    · exact Or.inl hsame
    · exact Or.inr ⟨q, y, hr, hy⟩

/-! ## A store without faults -/

theorem touch_of_faults_nil {db : Database} (hdb : db.faults = []) (method : String) :
    db.touch method = (.ok (), db) :=
  Database.touch_of_place (by simp [hdb]) method

/-- A store without faults answers a query, or holds a value against it that it cannot keep. -/
theorem answer_of_faults_nil {db : Database} (hdb : db.faults = []) (q : Query) :
    db.answer q =
      match db.store.answer q with
      | .ok (x, store) => (.ok x, ⟨store, []⟩)
      | .error e => (.error (.unstorable e), db) := by
  obtain ⟨store, faults⟩ := db
  obtain rfl : faults = [] := hdb
  rfl

/-- A request for no query, no post and no pause. -/
def IsPlain : Request → Prop
  | .query _ | .post _ | .sleep _ => False
  | _ => True

/-- A plain request changes neither the store nor the face of a world whose store has no faults. -/
theorem answer_of_plain (hw : w.database.faults = []) {q : Request} (hq : IsPlain q) :
    (w.answer q).2.database = w.database ∧ (w.answer q).2.face = w.face := by
  cases q with
  | report e =>
    simp only [answer, World.report]
    split <;> exact ⟨rfl, rfl⟩
  | connect =>
    simp only [answer, touch_of_faults_nil hw]
    split <;> exact ⟨rfl, rfl⟩
  | disconnect =>
    simp only [answer, touch_of_faults_nil hw]
    split <;> exact ⟨rfl, rfl⟩
  | query q => exact hq.elim
  | post p => exact hq.elim
  | sleep ms => exact hq.elim
  | _ => exact ⟨rfl, rfl⟩

/-- A store without faults gets none. -/
theorem faults_answer (hw : w.database.faults = []) (q : Request) :
    (w.answer q).2.database.faults = [] := by
  refine List.eq_nil_iff_forall_not_mem.2 (forall_faults_answer ?_ (fun _ _ _ h => h) q)
  simp [hw]

theorem Replays.faults_eq (h : w.Replays es w') (hw : w.database.faults = []) :
    w'.database.faults = [] := by
  induction h with
  | nil w => exact hw
  | cons h ih => exact ih (faults_answer hw _)

/-- A store without faults refuses no client. -/
theorem Replays.not_refused (h : w.Replays es w') (hw : w.database.faults = []) :
    ¬ Refused es := by
  induction h with
  | nil w => exact fun ⟨e, he, _⟩ => absurd he List.not_mem_nil
  | cons h ih =>
    rename_i w w' q es
    rintro ⟨e, he, href⟩
    rcases List.mem_cons.1 he with rfl | he
    · cases q with
      | connect =>
        simp only [answer, touch_of_faults_nil hw] at href
        split at href <;> exact href
      | _ => exact href
    · exact ih (faults_answer hw _) ⟨e, he, href⟩

/-! ## The time -/

theorem clock_answer_le (hw : w.database.faults = []) (q : Request) :
    w.clock ≤ (w.answer q).2.clock := by
  have hplain := answer_of_plain (q := q) hw
  cases q with
  | query q => exact Int.le_refl _
  | post p => exact Int.le_refl _
  | sleep ms =>
    show w.clock ≤ if 0 < ms then w.clock + microseconds ms else w.clock
    unfold microseconds
    split <;> omega
  | _ => exact Int.le_of_eq (congrArg Face.clock (hplain trivial).2).symm

theorem Replays.clock_le (h : w.Replays es w') (hw : w.database.faults = []) :
    w.clock ≤ w'.clock := by
  induction h with
  | nil w => exact Int.le_refl _
  | cons h ih => exact Int.le_trans (clock_answer_le hw _) (ih (faults_answer hw _))

/-- The times that a world tells lie between its time before a dialogue and its time after it. -/
theorem Replays.clock_mem (h : w.Replays es w') (hw : w.database.faults = []) {t : Moment}
    (ht : ⟨.clock, t⟩ ∈ es) :
    ∃ c, t = .ofInstant c ∧ w.clock ≤ c ∧ c ≤ w'.clock := by
  induction h with
  | nil w => exact absurd ht List.not_mem_nil
  | cons h ih =>
    -- the clock is told now, or later in the dialogue
    rename_i w w' q es
    rcases List.mem_cons.1 ht with he | ht
    · cases he
      exact ⟨w.clock, rfl, Int.le_refl _, h.clock_le hw⟩
    · obtain ⟨c, hc, hle, hge⟩ := ih (faults_answer hw _) ht
      exact ⟨c, hc, Int.le_trans (clock_answer_le hw _) hle, hge⟩

/-! ## The face after a dialogue -/

/-- What a query does to the test runs. -/
theorem testRuns_answer (store : Store) (q : Query) {x : Except StoreError q.Answer}
    (hothers : (Exchange.footprint ⟨.query q, x⟩).others = []) :
    (match store.answer q with
      | .ok (_, store) => store.testRuns
      | .error _ => store.testRuns) =
      (Exchange.footprint ⟨.query q, x⟩).writes.foldl written store.testRuns := by
  cases q with
  | insert c fields =>
    cases c with
    | testRuns => cases hothers
    | flows =>
      simp only [Store.answer]
      cases Value.storedFields? fields <;> rfl
    | executionLogs =>
      simp only [Store.answer]
      cases Value.storedFields? fields <;> rfl
  | findOne c filter =>
    simp only [Store.answer]
    cases filter.mapM Store.storedClause? <;> rfl
  | find c filter order =>
    simp only [Store.answer]
    cases filter.mapM Store.storedClause? <;> rfl
  | change c id changes =>
    cases c with
    | testRuns => cases hothers
    | flows =>
      simp only [Store.answer]
      cases Value.storedFields? changes <;> rfl
    | executionLogs =>
      simp only [Store.answer]
      cases Value.storedFields? changes <;> rfl
  | update c id changes =>
    cases c with
    | testRuns =>
      simp only [Store.answer, Exchange.footprint, List.foldl_cons, List.foldl_nil, written]
      cases Value.storedFields? changes <;> rfl
    | flows =>
      simp only [Store.answer]
      cases Value.storedFields? changes <;> rfl
    | executionLogs =>
      simp only [Store.answer]
      cases Value.storedFields? changes <;> rfl
  | delete c id =>
    cases c with
    | testRuns => cases hothers
    | flows => rfl
    | executionLogs => rfl

/-- A query leaves no message and no pause behind. -/
theorem footprint_query (q : Query) (x : Except StoreError q.Answer) :
    (Exchange.footprint ⟨.query q, x⟩).posts = [] ∧
      (Exchange.footprint ⟨.query q, x⟩).sleeps = [] := by
  cases q with
  | insert c fields => cases c <;> exact ⟨rfl, rfl⟩
  | change c id changes => cases c <;> exact ⟨rfl, rfl⟩
  | update c id changes => cases c <;> exact ⟨rfl, rfl⟩
  | delete c id => cases c <;> exact ⟨rfl, rfl⟩
  | _ => exact ⟨rfl, rfl⟩

/-- What one request does to the face of a world. -/
theorem face_answer (hw : w.database.faults = []) (q : Request)
    (hothers : (Exchange.footprint ⟨q, (w.answer q).1⟩).others = []) :
    (w.answer q).2.face = w.face.after (Exchange.footprint ⟨q, (w.answer q).1⟩) := by
  have hplain : IsPlain q → Exchange.footprint ⟨q, (w.answer q).1⟩ = {} →
      (w.answer q).2.face = w.face.after (Exchange.footprint ⟨q, (w.answer q).1⟩) := by
    intro hq hempty
    rw [(answer_of_plain hw hq).2, hempty, Face.after_empty]
  cases q with
  | query q =>
    obtain ⟨hposts, hsleeps⟩ := footprint_query q (w.answer (.query q)).1
    have htestRuns := testRuns_answer w.database.store q hothers
    have hdatabase : (w.answer (.query q)).2.database.store.testRuns =
        match w.database.store.answer q with
        | .ok (_, store) => store.testRuns
        | .error _ => w.database.store.testRuns := by
      simp only [answer, answer_of_faults_nil hw]
      cases w.database.store.answer q <;> rfl
    have hafter : w.face.after (Exchange.footprint ⟨.query q, (w.answer (.query q)).1⟩) =
        { w.face with testRuns := (w.answer (.query q)).2.database.store.testRuns } := by
      rw [hdatabase, htestRuns]
      simp [Face.after, hposts, hsleeps, face]
    rw [hafter]
    rfl
  | post p => simp [face, Face.after, Exchange.footprint, answer]
  | sleep ms => simp [face, Face.after, Exchange.footprint, answer, add_passing]
  | _ => exact hplain trivial rfl

/-- The footprint of a dialogue tells the face of the world after it. -/
theorem Replays.face_eq (h : w.Replays es w') (hw : w.database.faults = [])
    (hothers : (footprint es).others = []) : w'.face = w.face.after (footprint es) := by
  induction h with
  | nil w => exact (Face.after_empty _).symm
  | cons h ih =>
    rw [footprint_cons, Footprint.others_append, List.append_eq_nil_iff] at hothers
    rw [footprint_cons, Face.after_append, ← face_answer hw _ hothers.1]
    exact ih (faults_answer hw _) hothers.2

/-- A dialogue that leaves nothing behind but visits leaves the face of a world as it is. -/
theorem Replays.face_eq_of_quiet (h : w.Replays es w') (hw : w.database.faults = [])
    {visits : List (String × String)} (hquiet : footprint es = { visits }) : w'.face = w.face := by
  rw [h.face_eq hw (by rw [hquiet]), hquiet]
  simp [Face.after]

/-- Without pauses every time that a world tells is the one of its clock before the dialogue. -/
theorem Replays.now_eq (h : w.Replays es w') (hw : w.database.faults = [])
    (hothers : (footprint es).others = []) (hsleeps : (footprint es).sleeps = []) {t : Moment}
    (ht : ⟨.clock, t⟩ ∈ es) : t = .ofInstant w.clock := by
  have hclock : w'.clock = w.clock := by
    have hface := congrArg Face.clock (h.face_eq hw hothers)
    simpa [hsleeps, Face.after, face] using hface
  obtain ⟨c, rfl, hle, hge⟩ := h.clock_mem hw ht
  have hc : c = w.clock := by omega
  rw [hc]

end World

end Automation
