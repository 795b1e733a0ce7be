import Automation.Proofs.Runner.Outline

/-!
# Sketches of a run

A `Sketch` says what a run does by a state of its own: how the visits of nodes are answered, and
what the calls around them do to that state. A sketch can be worked out (`Sketch.run`), whatever the
store, the audit and other runs do. When every call of a run does to its setting what the sketch
says (`Sketch.Fits`), the run ends as the sketch does (`Sketch.Fits.run`), so that two runs with one
sketch end alike.
-/

set_option autoImplicit false

namespace Automation

open World (Outcome)
open Program

/-- What is not cancelled ends with a value or in a failure. -/
theorem Program.exists_outcomeOf_eq {α : Type} {o : Outcome α} (h : o ≠ .cancelled) :
    ∃ x, o = outcomeOf x := by
  cases o with
  | done a => exact ⟨.ok a, rfl⟩
  | failed f => exact ⟨.error f, rfl⟩
  | cancelled => exact absurd rfl h

/-! ## Clients of the store -/

/-- An entry for the journal, or a client of the store. -/
def Request.IsIdle : Request → Prop
  | .report _ | .connect => True
  | _ => False

theorem Request.IsIdle.ne_query {r : Request} (h : r.IsIdle) (q : Query) : r ≠ .query q := by
  rintro rfl
  exact h

/-- Where no client is refused there is one whenever one is asked for. -/
theorem connect_done {σ : Type} {c : Setting σ} {I : σ → Prop} {s : σ}
    (hidle : c.Keeps Request.IsIdle I)
    (hopen : ∀ s s' f, I s → ¬ c.moves s ⟨.connect, Except.error f⟩ s') (hs : I s) :
    Repository.connect.Upholds c s fun s o => o = .done () ∧ I s := by
  obtain ⟨hfits, hmoves⟩ := hidle s .connect trivial hs
  refine ⟨hfits, fun x s' hconnect => ?_⟩
  have hs' := hmoves x s' hconnect
  match x with
  | .error f => exact absurd hconnect (hopen s s' f hs)
  | .ok false => exact ⟨rfl, hs'⟩
  | .ok true =>
    obtain ⟨hfits', hmoves'⟩ := hidle s' (.report _) trivial hs'
    exact ⟨hfits', fun u s'' hreport => ⟨rfl, hmoves' u s'' hreport⟩⟩

/-! ## The requests of a visit -/

/-- The requests that visits of nodes make. -/
def Request.IsOfNode : Request → Prop
  | .clock | .report _ | .post _ | .sleep _ => True
  | _ => False

theorem Request.IsOfNode.ne_query {r : Request} (h : r.IsOfNode) (q : Query) : r ≠ .query q := by
  rintro rfl
  exact h

namespace Runner

variable {a : Assignment} {n : Node} {used : Usage}

theorem asks_visitDelay (d : Delay) : (visitDelay a n d used).Asks Request.IsOfNode := by
  refine ⟨trivial, fun now => ?_⟩
  show Asks _ (ofExcept ((d.milliseconds now).mapError .delay) >>= _)
  cases d.milliseconds now with
  | error fault => trivial
  | ok ms =>
    show Asks _ (passGuard (Guard.check used ms) >>= _)
    cases Guard.check used ms with
    | rejected reason => trivial
    | unstated => trivial
    | allowed =>
      refine ⟨trivial, fun _ => ?_⟩
      show Asks _ (pause ms >>= _)
      unfold pause
      split
      · trivial
      · refine ⟨trivial, fun wake => ?_⟩
        cases wake <;> trivial

theorem asks_visitCondition (rules : List Rule) :
    (visitCondition a n rules used).Asks Request.IsOfNode := by
  unfold visitCondition Condition.evaluate
  refine (asks_reportAll (fun _ => trivial) _).bind fun _ => ?_
  cases branch? a.flow n.id _ with
  | none => exact ⟨trivial, fun _ => trivial⟩
  | some e =>
    simp only
    cases a.flow.node? e.target <;> trivial

theorem asks_visit (r : Runner) (a : Assignment) (n : Node) (used : Usage) :
    (r.visit a n used).Asks Request.IsOfNode := by
  unfold visit
  cases n.payload with
  | start extras => trivial
  | finish extras => trivial
  | foreign type hforeign settings => exact ⟨trivial, fun _ => trivial⟩
  | action message extras =>
    refine ⟨trivial, fun _ => ?_⟩
    exact (asks_send (fun _ => trivial) (fun _ => trivial) _ _ _ _).bind fun _ => trivial
  | delay d => exact asks_visitDelay d
  | condition rules extras => exact asks_visitCondition rules

/-- The visit of a node does not depend on the record of the run. -/
theorem visit_congr (r : Runner) {a a' : Assignment} (hflow : a.flow = a'.flow)
    (hrecipient : a.recipient = a'.recipient) (n : Node) (used : Usage) :
    r.visit a n used = r.visit a' n used := by
  unfold visit visitAction visitDelay visitCondition
  rw [hflow, hrecipient]

end Runner

/-! ## Sketches -/

/-- What a run does by a state of its own. -/
structure Sketch (μ : Type) where
  /-- How a request of a visit is answered. -/
  answer : μ → (r : Request) → r.Answer × μ
  elapses : ∀ m ms, (answer m (.sleep ms)).1 = .elapsed
  /-- The record is told of a node. -/
  named : Node → μ → μ
  /-- The audit is told that a visit begins. -/
  begun : Node → μ → μ
  /-- The audit is told how a visit ended. -/
  finished : String → Option String → μ → μ
  /-- The record is told how the run ended. -/
  recorded : Ending → μ → μ

namespace Sketch

variable {μ α : Type}

/-- A program whose requests are answered by a sketch. -/
def perform (k : Sketch μ) : Program α → μ → Outcome α × μ
  | .done x, m => (.done x, m)
  | .failed f, m => (.failed f, m)
  | .cancelled, m => (.cancelled, m)
  | .ask r next, m => k.perform (next (k.answer m r).1) (k.answer m r).2

/-- One step of a walk. -/
def advance (k : Sketch μ) (r : Runner) (a : Assignment) (n : Node) (used : Usage) (m : μ) :
    Outcome Step × μ :=
  match Guard.check used 0 with
  | .rejected reason => (.failed (.rejected reason), m)
  | .unstated => (.failed .quotientSize, m)
  | .allowed =>
    match k.perform (r.visit a n used) (k.begun n (k.named n m)) with
    | (.done step, m) => (.done step, k.finished AuditEntry.completed (some step.message) m)
    | (.failed f, m) => (.failed f, k.finished AuditEntry.failed (some f.reason) m)
    | (.cancelled, m) => (.cancelled, m)

/-- The walk from a node, given how many further steps the guard can allow. -/
def walk (k : Sketch μ) (r : Runner) (a : Assignment) : (steps : Nat) → Node → Usage → μ →
    Outcome Ending × μ
  | 0, _, used, m => (.done (.failed used (.rejected .steps)), m)
  | steps + 1, n, used, m =>
    match k.advance r a n used m with
    | (.failed f, m) => (.done (.failed used f), m)
    | (.cancelled, m) => (.cancelled, m)
    | (.done step, m) =>
      let used := { step.used with steps := step.used.steps + 1 }
      if n.isEnd then (.done (.completed used n.id), m)
      else
        match step.next with
        | none => (.done (.completed used n.id), m)
        | some next => k.walk r a steps next used m

/-- A walk from the start of the flow. -/
def walkFromStart (k : Sketch μ) (r : Runner) (a : Assignment) (m : μ) : Outcome Ending × μ :=
  match a.flow.start? with
  | none => (.done (.failed .zero .startMissing), m)
  | some start => k.walk r a (Guard.maxSteps.toNat + 1) start .zero m

/-- A run from its beginning to its end. -/
def run (k : Sketch μ) (r : Runner) (a : Assignment) (m : μ) : Outcome Summary × μ :=
  match k.walkFromStart r a m with
  | (.done ending, m) => (.done ending.summary, k.recorded ending m)
  | (.failed f, m) => (.failed f, m)
  | (.cancelled, m) => (.cancelled, m)

/-- The sketch of a run does not depend on the record of the run. -/
theorem run_congr (k : Sketch μ) (r : Runner) {a a' : Assignment} (hflow : a.flow = a'.flow)
    (hrecipient : a.recipient = a'.recipient) (m : μ) : k.run r a m = k.run r a' m := by
  have hadvance : k.advance r a = k.advance r a' := by
    funext n used m
    unfold advance
    rw [r.visit_congr hflow hrecipient]
  have hwalk : ∀ steps n used m, k.walk r a steps n used m = k.walk r a' steps n used m := by
    intro steps
    induction steps with
    | zero => exact fun _ _ _ => rfl
    | succ steps ih =>
      intro n used m
      simp only [walk, hadvance, ih]
  unfold run walkFromStart
  simp only [hflow, hwalk]

/-! ## Runs with a sketch -/

variable {σ : Type} {c : Setting σ} {k : Sketch μ} {r : Runner} {a : Assignment}
  {A : μ → σ → Prop} {B : Option String → μ → σ → Prop} {m : μ} {s : σ} {n : Node} {used : Usage}

/-- Every call of a run does what a sketch says: between two visits a condition relates the two
states, and in a visit another one does, which knows the entry of the visit. -/
structure Fits (k : Sketch μ) (c : Setting σ) (a : Assignment) (A : μ → σ → Prop)
    (B : Option String → μ → σ → Prop) : Prop where
  remarks : ∀ e m s, A m s → (report e).Upholds c s fun s o => o = .done () ∧ A m s
  names : ∀ n m s, A m s →
    (Repository.updateTestRun a.runId (TestRun.visiting n.id)).Upholds c s fun s o =>
      ∃ b, o = .done b ∧ A (k.named n m) s
  begins : ∀ n m s, A m s →
    (Audit.begin (Runner.auditVisit a n)).Upholds c s fun s o =>
      ∃ entry, o = .done entry ∧ B entry (k.begun n m) s
  asks : ∀ entry m s r, r.IsOfNode → B entry m s → c.fits s r ∧
    ∀ (x : r.Answer) s', c.moves s ⟨r, x⟩ s' →
      x = (k.answer m r).1 ∧ B entry (k.answer m r).2 s'
  finishes : ∀ entry status message m s, B entry m s →
    (Audit.finish entry status message).Upholds c s fun s o =>
      o = .done () ∧ A (k.finished status message m) s
  concludes : ∀ ending m s, A m s →
    (Runner.conclude a ending).Upholds c s fun s o =>
      o = .done ending.summary ∧ A (k.recorded ending m) s

/-- A sketch answers with patience, so it shares what programs do when they are not cancelled. -/
theorem perform_ensures (k : Sketch μ) {p : Program α} {Q : List Exchange → Outcome α → Prop}
    (h : p.Ensures Exchange.IsPatient Q) (m : μ) : ∃ es, Q es (k.perform p m).1 := by
  induction p generalizing m Q with
  | done x => exact ⟨[], h⟩
  | failed f => exact ⟨[], h⟩
  | cancelled => exact ⟨[], h⟩
  | ask r next ih =>
    have hpatient : Exchange.IsPatient ⟨r, (k.answer m r).1⟩ := by
      cases r with
      | sleep ms => exact k.elapses m ms
      | _ => trivial
    obtain ⟨es, hes⟩ := ih _ (h _ hpatient) (k.answer m r).2
    exact ⟨_, hes⟩

theorem visit_ne_cancelled (k : Sketch μ) (r : Runner) (a : Assignment) (n : Node) (used : Usage)
    (m : μ) : (k.perform (r.visit a n used) m).1 ≠ .cancelled := by
  obtain ⟨es, hvisit⟩ := k.perform_ensures (r.visit_ensures a n used) m
  intro hcancelled
  rw [hcancelled] at hvisit
  cases hvisit

namespace Fits

/-- What the requests of a visit are answered, a program that makes no others goes by. -/
theorem perform (h : k.Fits c a A B) {entry : Option String} {p : Program α}
    (hasks : p.Asks Request.IsOfNode) (hs : B entry m s) :
    p.Upholds c s fun s o => o = (k.perform p m).1 ∧ B entry (k.perform p m).2 s := by
  induction p generalizing m s with
  | done x => exact ⟨rfl, hs⟩
  | failed f => exact ⟨rfl, hs⟩
  | cancelled => exact ⟨rfl, hs⟩
  | ask r next ih =>
    obtain ⟨hfits, hmoves⟩ := h.asks entry m s r hasks.1 hs
    refine ⟨hfits, fun x s' hs' => ?_⟩
    obtain ⟨rfl, hB⟩ := hmoves x s' hs'
    exact ih _ (hasks.2 _) hB

theorem auditedVisit (h : k.Fits c a A B) (hguard : Guard.check used 0 = .allowed)
    (hs : A (k.named n m) s) :
    (r.auditedVisit a n used).Upholds c s fun s o => o = (k.advance r a n used m).1 ∧
      o ≠ .cancelled ∧ A (k.advance r a n used m).2 s := by
  have hadvance : k.advance r a n used m =
      match k.perform (r.visit a n used) (k.begun n (k.named n m)) with
      | (.done step, m) => (.done step, k.finished AuditEntry.completed (some step.message) m)
      | (.failed f, m) => (.failed f, k.finished AuditEntry.failed (some f.reason) m)
      | (.cancelled, m) => (.cancelled, m) := by
    unfold advance
    rw [hguard]
  rw [hadvance]
  unfold Runner.auditedVisit
  refine Upholds.bind_done (h.begins n _ s hs) fun s entry hs => ?_
  have hvisit := h.perform (r.asks_visit a n used) hs
  have hpatient := k.visit_ne_cancelled r a n used (k.begun n (k.named n m))
  generalize k.perform (r.visit a n used) (k.begun n (k.named n m)) = ended at hvisit hpatient ⊢
  obtain ⟨o, m'⟩ := ended
  obtain ⟨x, rfl⟩ := exists_outcomeOf_eq hpatient
  -- the visit ends as the sketch does, and then its entry is told of the end
  have hattempt := Upholds.attempt_outcomeOf (P := fun s y => y = x ∧ B entry m' s) <|
    hvisit.mono fun s o ho => ⟨x, ho.1, rfl, ho.2⟩
  refine hattempt.bind_done fun s y hs => ?_
  obtain ⟨rfl, hs⟩ := hs
  cases y with
  | ok step =>
    refine (h.finishes entry _ _ m' s hs).bind_unit fun s hs => ?_
    exact ⟨rfl, nofun, hs⟩
  | error f =>
    refine (h.finishes entry _ _ m' s hs).bind_unit fun s hs => ?_
    exact ⟨rfl, nofun, hs⟩

/-- One step of a walk ends as its sketch does. -/
theorem advance (h : k.Fits c a A B) (r : Runner) (n : Node) (used : Usage) (hs : A m s) :
    (r.advance a n used).Upholds c s fun s o => o = (k.advance r a n used m).1 ∧
      o ≠ .cancelled ∧ A (k.advance r a n used m).2 s := by
  unfold Runner.advance
  rcases Runner.check_zero_cases used with hguard | ⟨reason, hguard⟩
  · rw [hguard]
    show Upholds c (Repository.updateTestRun a.runId (TestRun.visiting n.id) >>= _) _ _
    refine (h.names n m s hs).bind_done fun s b hs => ?_
    refine (h.auditedVisit hguard hs).onCancel (fun s step h => h) (fun s f h => h) ?_
    exact fun s ⟨_, ho, _⟩ => absurd rfl ho
  · have hadvance : k.advance r a n used m = (.failed (.rejected reason), m) := by
      unfold Sketch.advance
      rw [hguard]
    rw [hguard, hadvance]
    exact ⟨rfl, nofun, hs⟩

/-- A walk ends as its sketch does. -/
theorem walk (h : k.Fits c a A B) (steps : Nat) (hs : A m s) :
    (r.walk a steps n used).Upholds c s fun s o => ∃ ending, o = .done ending ∧
      (k.walk r a steps n used m).1 = .done ending ∧ A (k.walk r a steps n used m).2 s := by
  induction steps generalizing n used m s with
  | zero => exact ⟨_, rfl, rfl, hs⟩
  | succ steps ih =>
    have hstep := h.advance r n used hs
    unfold Runner.walk Sketch.walk
    generalize k.advance r a n used m = ended at hstep ⊢
    obtain ⟨o, m'⟩ := ended
    have hattempt := Upholds.attempt_outcomeOf (P := fun s x => o = outcomeOf x ∧ A m' s) <|
      hstep.mono fun s out ho => by
        obtain ⟨x, hx⟩ := exists_outcomeOf_eq ho.2.1
        exact ⟨x, hx, ho.1.symm.trans hx, ho.2.2⟩
    refine hattempt.bind_done fun s x hs => ?_
    obtain ⟨rfl, hs⟩ := hs
    cases x with
    | error f => exact ⟨_, rfl, rfl, hs⟩
    | ok step =>
      show Upholds c (if n.isEnd = true then _ else _) _ _
      cases hend : n.isEnd with
      | true => exact ⟨_, rfl, rfl, hs⟩
      | false =>
        rw [if_neg Bool.false_ne_true]
        obtain ⟨message, used', next⟩ := step
        cases next with
        | none => exact ⟨_, rfl, rfl, hs⟩
        | some next => exact ih hs

/-- A run ends as its sketch does. -/
theorem run (h : k.Fits c a A B) (hs : A m s) :
    (r.run a).Upholds c s fun s o => ∃ summary, o = .done summary ∧
      (k.run r a m).1 = .done summary ∧ A (k.run r a m).2 s := by
  unfold Runner.run
  refine (h.remarks _ m s hs).bind_unit fun s hs => ?_
  have hwalk : (r.walkFromStart a).Upholds c s fun s o => ∃ ending, o = .done ending ∧
      (k.walkFromStart r a m).1 = .done ending ∧ A (k.walkFromStart r a m).2 s := by
    unfold Runner.walkFromStart Sketch.walkFromStart
    cases a.flow.start? with
    | none => exact ⟨_, rfl, rfl, hs⟩
    | some start => exact h.walk _ hs
  refine hwalk.bind_done fun s ending hs => ?_
  obtain ⟨hending, hs⟩ := hs
  unfold Sketch.run
  generalize k.walkFromStart r a m = ended at hending hs ⊢
  obtain ⟨o, m'⟩ := ended
  obtain rfl : o = .done ending := hending
  refine (h.concludes ending m' s hs).mono ?_
  rintro s o ⟨rfl, hs⟩
  exact ⟨_, rfl, rfl, hs⟩

end Fits

end Sketch

end Automation
