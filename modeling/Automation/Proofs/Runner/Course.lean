import Automation.Proofs.Runner.Visit

/-!
# The course of a run

A walk is a course of steps: before each one the guard is asked, the record names the node, and the
audit is told of the visit. `Advances` says how one step may end and `Course` how steps follow one
another, with no bound on their number; `walk_ensures` shows that a bounded walk follows a course
when its bound is no less than what the guard allows. Whatever holds of every course holds of every
run that is not cancelled (`run_dialogue`).
-/

set_option autoImplicit false

namespace Automation

open World (Outcome)
open Program

namespace Ending

/-- What had been used when a walk ended. -/
def used : Ending → Usage
  | .completed used _ | .failed used _ => used

/-- The summary of a walk that ended. -/
def summary : Ending → Summary
  | .completed used _ => ⟨used.steps, used.delayMs, none⟩
  | .failed used f => ⟨used.steps, used.delayMs, some f.reason⟩

/-- The change by which the record of a run is told how its walk ended. -/
def change (now : Moment) : Ending → Fields
  | .completed used last => TestRun.completing now (some last) (summary (.completed used last))
  | .failed used f => TestRun.failing now f.reason (summary (.failed used f))

end Ending

/-- The guard allows a wait exactly when it keeps to all three limits. -/
theorem Guard.check_eq_allowed_iff {used : Usage} {ms : Int} :
    Guard.check used ms = .allowed ↔
      used.steps < Guard.maxSteps ∧ ms ≤ Guard.maxSingleMs ∧
        used.delayMs + ms ≤ Guard.maxTotalMs := by
  unfold Guard.check
  by_cases hsteps : Guard.maxSteps ≤ used.steps
  · simp [hsteps, Int.not_lt.2 hsteps]
  · rw [if_neg hsteps]
    by_cases hsingle : Guard.maxSingleMs < ms
    · rw [if_pos hsingle]
      constructor
      · intro h
        split at h <;> cases h
      · rintro ⟨-, h, -⟩
        exact absurd hsingle (Int.not_lt.2 h)
    · rw [if_neg hsingle]
      by_cases htotal : Guard.maxTotalMs < used.delayMs + ms
      · simp [htotal, Int.not_le.2 htotal]
      · simp [htotal, Int.not_lt.1 htotal, Int.not_lt.1 hsingle, Int.not_le.1 hsteps]

namespace Runner

/-- How one step of a walk may end. -/
inductive Advances (r : Runner) (a : Assignment) (n : Node) (used : Usage) :
    List Exchange → Outcome Step → Prop
  | stopped {reason : Guard.Rejection} (hguard : Guard.check used 0 = .rejected reason) :
      Advances r a n used [] (.failed (.rejected reason))
  /-- The record cannot be told of the node. -/
  | refused {es : List Exchange} {f : Failure} (hguard : Guard.check used 0 = .allowed)
      (href : Refused es) (hes : footprint es = {}) : Advances r a n used es (.failed f)
  /-- The record and the audit are told of the node, then it is visited. -/
  | visited {before visit after : List Exchange} {o : Outcome Step}
      {visits : List (String × String)} {writes : List (ObjectId × Fields)}
      (hguard : Guard.check used 0 = .allowed) (hbefore : footprint before = { visits, writes })
      (hvisits : visits = [(n.id, n.type)] ∨ Refused before ∧ visits = [])
      (hwrites : Written a.runId (TestRun.visiting n.id) before writes)
      (hvisit : r.Visits a n used visit o) (hafter : footprint after = {}) :
      Advances r a n used (before ++ (visit ++ after)) o

/-- The steps of a walk from a node, one after the other, and how it ends. -/
inductive Course (r : Runner) (a : Assignment) : Node → Usage → List Exchange → Ending → Prop
  | failed {n : Node} {used : Usage} {es : List Exchange} {f : Failure}
      (h : r.Advances a n used es (.failed f)) : Course r a n used es (.failed used f)
  | arrived {n : Node} {used : Usage} {es : List Exchange} {step : Step}
      (h : r.Advances a n used es (.done step)) (hlast : n.isEnd = true ∨ step.next = none) :
      Course r a n used es (.completed ⟨step.used.steps + 1, step.used.delayMs⟩ n.id)
  | onward {n next : Node} {used : Usage} {es rest : List Exchange} {step : Step} {ending : Ending}
      (h : r.Advances a n used es (.done step)) (hend : n.isEnd = false)
      (hnext : step.next = some next)
      (hrest : Course r a next ⟨step.used.steps + 1, step.used.delayMs⟩ rest ending) :
      Course r a n used (es ++ rest) ending

/-- The course of a walk from the start, if the flow has one. -/
def StartCourse (r : Runner) (a : Assignment) (es : List Exchange) (ending : Ending) : Prop :=
  match a.flow.start? with
  | none => es = [] ∧ ending = .failed .zero .startMissing
  | some s => r.Course a s .zero es ending

/-- How the end of a walk is recorded. -/
inductive Concludes (a : Assignment) (ending : Ending) : List Exchange → Outcome Summary → Prop
  | recorded {es : List Exchange} {now : Moment} {writes : List (ObjectId × Fields)}
      (hes : footprint es = { writes }) (hnow : ⟨.clock, now⟩ ∈ es)
      (hwrites : Written a.runId (ending.change now) es writes) :
      Concludes a ending es (.done ending.summary)
  /-- The record cannot be told. -/
  | refused {es : List Exchange} {o : Outcome Summary} {writes : List (ObjectId × Fields)}
      (href : Refused es) (hes : footprint es = { writes })
      (ho : (∃ f, o = .failed f) ∨
        ∃ reason, o = .done ⟨ending.used.steps, ending.used.delayMs, reason⟩) :
      Concludes a ending es o

variable {r : Runner} {a : Assignment} {n : Node} {used : Usage}

/-! ## One step -/

theorem Visits.ne_cancelled {es : List Exchange} {o : Outcome Step}
    (h : r.Visits a n used es o) : o ≠ .cancelled := by
  cases h <;> exact nofun

/-- A visit posts messages and waits, and leaves nothing else behind. -/
theorem Visits.footprint_eq {es : List Exchange} {o : Outcome Step} (h : r.Visits a n used es o) :
    ∃ posts sleeps, footprint es = { posts, sleeps } := by
  cases h with
  | passed hquiet hnext hes => exact ⟨[], [], hes⟩
  | astray hcond hnext hes => exact ⟨[], [], hes⟩
  | sent haction hes => exact ⟨_, [], hes.footprint_eq⟩
  | unsent haction hes hf => exact ⟨_, [], hes.footprint_eq⟩
  | waited hdelay hms hguard hes => exact ⟨[], _, by rw [footprint_cons, hes]; rfl⟩
  | unmeasured hdelay hms => exact ⟨[], [], rfl⟩
  | rejected hdelay hms hguard => exact ⟨[], [], rfl⟩
  | unstated hdelay hms hsize hes => exact ⟨[], [], by rw [footprint_cons, hes]; rfl⟩

/-- A visit counts as no more than one step. -/
theorem Visits.steps_eq {es : List Exchange} {step : Step}
    (h : r.Visits a n used es (.done step)) : step.used.steps = used.steps := by
  cases h <;> rfl

/-- After a visit a run goes on to the node that follows. -/
theorem Visits.next_eq {es : List Exchange} {step : Step} (h : r.Visits a n used es (.done step)) :
    step.next = a.flow.follow? n (n.outcome a.recipient) := by
  cases h <;> rfl

theorem Advances.ne_cancelled {es : List Exchange} {o : Outcome Step}
    (h : r.Advances a n used es o) : o ≠ .cancelled := by
  cases h with
  | stopped hguard => exact nofun
  | refused hguard href hes => exact nofun
  | visited hguard hbefore hvisits hwrites hvisit hafter => exact hvisit.ne_cancelled

theorem Advances.steps_eq {es : List Exchange} {step : Step}
    (h : r.Advances a n used es (.done step)) : step.used.steps = used.steps := by
  cases h with
  | visited hguard hbefore hvisits hwrites hvisit hafter => exact hvisit.steps_eq

theorem Advances.next_eq {es : List Exchange} {step : Step}
    (h : r.Advances a n used es (.done step)) :
    step.next = a.flow.follow? n (n.outcome a.recipient) := by
  cases h with
  | visited hguard hbefore hvisits hwrites hvisit hafter => exact hvisit.next_eq

/-- What is told before a visit and what is done after it leave the messages and pauses alone. -/
theorem footprint_visited {before visit after : List Exchange} {o : Outcome Step}
    {visits : List (String × String)} {writes : List (ObjectId × Fields)}
    (hbefore : footprint before = { visits, writes }) (hvisit : r.Visits a n used visit o)
    (hafter : footprint after = {}) :
    footprint (before ++ (visit ++ after)) = { footprint visit with visits, writes } := by
  obtain ⟨posts, sleeps, hes⟩ := hvisit.footprint_eq
  simp [hbefore, hafter, hes]

/-- Before a visit the guard allows it or rejects it. -/
theorem check_zero_cases (used : Usage) :
    Guard.check used 0 = .allowed ∨ ∃ reason, Guard.check used 0 = .rejected reason := by
  have hsingle : ¬ Guard.maxSingleMs < 0 := by decide
  unfold Guard.check
  rw [if_neg hsingle]
  split
  · exact Or.inr ⟨_, rfl⟩
  · split
    · exact Or.inr ⟨_, rfl⟩
    · exact Or.inl rfl

/-- An audited visit does what the visit does, and the audit is told of it if the store can be
reached. -/
theorem auditedVisit_ensures (r : Runner) (a : Assignment) (n : Node) (used : Usage) :
    (r.auditedVisit a n used).Ensures Exchange.IsPatient fun es o => ∃ before visit after visits,
      es = before ++ (visit ++ after) ∧ footprint before = { visits } ∧
        (visits = [(n.id, n.type)] ∨ Refused before ∧ visits = []) ∧
        r.Visits a n used visit o ∧ footprint after = {} := by
  unfold auditedVisit
  refine Ensures.bind_done (begin_ensures (auditVisit a n)) ?_
  intro before entry hbefore
  have hvisit := (r.visit_ensures a n used).attempt_done fun es h => h.ne_cancelled rfl
  refine Ensures.bind_done hvisit ?_
  intro visit x hx
  obtain ⟨visits, hvisits, hfoot⟩ : ∃ visits,
      (visits = [(n.id, n.type)] ∨ Refused before ∧ visits = []) ∧
        footprint before = { visits } := by
    rcases hbefore with hbefore | ⟨href, hbefore⟩
    · exact ⟨_, Or.inl rfl, hbefore⟩
    · exact ⟨[], Or.inr ⟨href, rfl⟩, hbefore⟩
  cases x with
  | ok step =>
    refine Ensures.bind_done (P := fun after _ => footprint after = {})
      ((finish_ensures _ _ _).mono fun after o h => ⟨(), h⟩) ?_
    intro after _ hafter
    simp only [ensures_pure, List.append_nil]
    exact ⟨before, visit, after, visits, rfl, hfoot, hvisits, hx, hafter⟩
  | error f =>
    refine Ensures.bind_done (P := fun after _ => footprint after = {})
      ((finish_ensures _ _ _).mono fun after o h => ⟨(), h⟩) ?_
    intro after _ hafter
    simp only [ensures_failed, List.append_nil]
    exact ⟨before, visit, after, visits, rfl, hfoot, hvisits, hx, hafter⟩

/-- How one step of a walk may end. -/
theorem advance_ensures (r : Runner) (a : Assignment) (n : Node) (used : Usage) :
    (r.advance a n used).Ensures Exchange.IsPatient (r.Advances a n used) := by
  unfold advance
  rcases check_zero_cases used with hguard | ⟨reason, hguard⟩
  · rw [hguard]
    show Ensures _ (Repository.updateTestRun a.runId (TestRun.visiting n.id) >>= _) _
    refine (updateTestRun_ensures a.runId (TestRun.visiting n.id)).bind ?_ ?_ ?_
    · rintro told b (⟨b', writes, -, htold, hwrites⟩ | ⟨-, -, f, ho⟩)
      · refine ((r.auditedVisit_ensures a n used).onCancel ?_).mono ?_
        · rintro es ⟨before, visit, after, visits, -, -, -, hvisit, -⟩
          exact hvisit.ne_cancelled rfl
        · rintro es o ⟨before, visit, after, visits, rfl, hbefore, hvisits, hvisit, hafter⟩
          have hboth : footprint (told ++ before) = { visits, writes } := by
            simp [htold, hbefore]
          rw [← List.append_assoc]
          exact Advances.visited hguard hboth
            (hvisits.imp_right fun h => ⟨refused_append.2 (Or.inr h.1), h.2⟩)
            (hwrites.mono (List.subset_append_left _ _)) hvisit hafter
      · cases ho
    · rintro es f (⟨b', writes, ho, -⟩ | ⟨href, hes, -⟩)
      · cases ho
      · exact Advances.refused hguard href hes
    · rintro es (⟨b', writes, ho, -⟩ | ⟨-, -, f, ho⟩) <;> cases ho
  · rw [hguard]
    exact Advances.stopped hguard

/-! ## A walk -/

/-- The guard rejects every step after the last one that it allows. -/
theorem check_of_maxSteps_le (waitMs : Int) (h : Guard.maxSteps ≤ used.steps) :
    Guard.check used waitMs = .rejected .steps := by
  unfold Guard.check
  rw [if_pos h]

/-- A walk with room for as many steps as the guard allows follows a course. -/
theorem walk_ensures (r : Runner) (a : Assignment) (steps : Nat) (n : Node) (used : Usage)
    (hroom : Guard.maxSteps ≤ used.steps + steps) :
    (r.walk a steps n used).Ensures Exchange.IsPatient fun es o =>
      ∃ ending, o = .done ending ∧ r.Course a n used es ending := by
  induction steps generalizing n used with
  -- no room is left because the guard would reject the next step
  | zero =>
    exact ⟨_, rfl, Course.failed (Advances.stopped (check_of_maxSteps_le 0 (by simpa using hroom)))⟩
  | succ steps ih =>
    have hstep := (r.advance_ensures a n used).attempt_done fun es h => h.ne_cancelled rfl
    refine Ensures.bind_done hstep ?_
    intro es x hx
    cases x with
    | error f => exact ⟨_, rfl, by simpa using Course.failed hx⟩
    | ok step =>
      show Ensures _ (if n.isEnd = true then _ else _) _
      cases hend : n.isEnd with
      | true => exact ⟨_, rfl, by simpa using Course.arrived hx (Or.inl hend)⟩
      | false =>
        show Ensures _ (match step.next with | none => _ | some next => _) _
        cases hnext : step.next with
        | none => exact ⟨_, rfl, by simpa using Course.arrived hx (Or.inr hnext)⟩
        | some next =>
          have hmore : Guard.maxSteps ≤ step.used.steps + 1 + steps := by
            rw [hx.steps_eq]
            push_cast at hroom
            omega
          refine (ih next ⟨step.used.steps + 1, step.used.delayMs⟩ hmore).mono ?_
          rintro es' o ⟨ending, rfl, hcourse⟩
          exact ⟨ending, rfl, Course.onward hx hend hnext hcourse⟩

/-- Whatever its world answers, a visit counts as no more than one step. -/
theorem visit_steps (r : Runner) (a : Assignment) (n : Node) (used : Usage) :
    (r.visit a n used).Yields fun step => step.used.steps = used.steps := by
  unfold visit
  cases n.payload with
  | start extras => exact yields_done rfl
  | finish extras => exact yields_done rfl
  | action message extras => exact yields_bind fun _ => yields_bind fun _ => yields_done rfl
  | foreign type hforeign settings => exact yields_bind fun _ => yields_done rfl
  | delay d =>
    exact yields_bind fun now => yields_bind fun ms => yields_bind fun _ => yields_bind fun _ =>
      yields_bind fun _ => yields_done rfl
  | condition rules extras =>
    refine yields_bind fun _ => ?_
    split
    · exact yields_bind fun _ => yields_failed
    · split
      · exact yields_failed
      · exact yields_done rfl

theorem advance_steps (r : Runner) (a : Assignment) (n : Node) (used : Usage) :
    (r.advance a n used).Yields fun step => step.used.steps = used.steps := by
  have haudited : (r.auditedVisit a n used).Yields fun step => step.used.steps = used.steps := by
    refine yields_bind fun entry => (r.visit_steps a n used).attempt.bind fun x hx => ?_
    cases x with
    | ok step => exact yields_bind fun _ => yields_done (hx step rfl)
    | error f => exact yields_bind fun _ => yields_failed
  exact yields_bind fun _ => yields_bind fun _ => haudited.onCancel _

/-- A walk that has room for as many steps as the guard allows gains nothing from more. -/
theorem walk_add (r : Runner) (a : Assignment) (steps more : Nat) (n : Node) (used : Usage)
    (hroom : Guard.maxSteps ≤ used.steps + steps) :
    r.walk a (steps + more) n used = r.walk a steps n used := by
  induction steps generalizing n used with
  | zero =>
    cases more with
    | zero => rfl
    | succ more =>
      have hguard : Guard.check used 0 = .rejected .steps :=
        check_of_maxSteps_le 0 (by simpa using hroom)
      rw [Nat.zero_add]
      unfold walk advance
      rw [hguard]
      rfl
  | succ steps ih =>
    rw [Nat.succ_add]
    unfold walk
    -- both walks take the first step alike; after it they go on alike by induction
    refine bind_congr_of_yields ?_
    refine (r.advance_steps a n used).attempt.mono fun es o h x hx => ?_
    cases x with
    | error f => rfl
    | ok step =>
      have hsteps := h _ hx step rfl
      have hmore : Guard.maxSteps ≤ step.used.steps + 1 + steps := by
        rw [hsteps]
        push_cast at hroom
        omega
      simp only [fun next => ih next ⟨step.used.steps + 1, step.used.delayMs⟩ hmore]

theorem walkFromStart_ensures (r : Runner) (a : Assignment) :
    (r.walkFromStart a).Ensures Exchange.IsPatient fun es o =>
      ∃ ending, o = .done ending ∧ r.StartCourse a es ending := by
  unfold walkFromStart StartCourse
  cases a.flow.start? with
  | none => exact ⟨_, rfl, rfl, rfl⟩
  | some s => exact r.walk_ensures a _ s .zero (by decide)

/-! ## A run -/

/-- The record is told of a change, and the journal of what it was for. -/
theorem record_ensures (id : String) (changes : Fields) (e : Journal.Entry) (summary : Summary) :
    (Repository.updateTestRun id changes >>= fun _ =>
      report e >>= fun _ => pure summary).Ensures Exchange.IsPatient fun es o =>
        (∃ writes, o = .done summary ∧ footprint es = { writes } ∧ Written id changes es writes) ∨
          (Refused es ∧ footprint es = {} ∧ ∃ f, o = .failed f) := by
  refine (updateTestRun_ensures id changes).bind ?_ ?_ ?_
  · rintro es b (⟨b', writes, -, hes, hwrites⟩ | ⟨-, -, f, ho⟩)
    · intro _ _
      exact Or.inl ⟨writes, rfl, by simp [hes, Exchange.footprint],
        hwrites.mono (List.subset_append_left _ _)⟩
    · cases ho
  · rintro es f (⟨b', writes, ho, -⟩ | ⟨href, hes, -⟩)
    · cases ho
    · exact Or.inr ⟨href, hes, f, rfl⟩
  · rintro es (⟨b', writes, ho, -⟩ | ⟨-, -, f, ho⟩) <;> cases ho

/-- The end of a walk is recorded at the time it is, unless the store cannot be reached. -/
theorem recordAtNow_ensures (a : Assignment) (ending : Ending) (e : Journal.Entry) :
    (now >>= fun t => Repository.updateTestRun a.runId (ending.change t) >>= fun _ =>
      report e >>= fun _ => pure ending.summary).Ensures Exchange.IsPatient fun es o =>
        o ≠ .cancelled ∧ Concludes a ending es o ∧
          ((∃ f, o = .failed f) → Refused es ∧ footprint es = {}) := by
  simp only [ensures_now_bind]
  intro t _
  refine (record_ensures a.runId _ _ _).mono ?_
  rintro es o (⟨writes, rfl, hes, hwrites⟩ | ⟨href, hes, f', rfl⟩)
  · refine ⟨outcomeOf_ne_cancelled (.ok _), Concludes.recorded (by simp [hes, Exchange.footprint])
      List.mem_cons_self (hwrites.mono (List.subset_cons_self _ _)), ?_⟩
    rintro ⟨f, ho⟩
    cases ho
  · have hfoot : footprint (⟨.clock, t⟩ :: es) = { writes := [] } := by
      simp [hes, Exchange.footprint]
    exact ⟨outcomeOf_ne_cancelled (.error f'), Concludes.refused href.cons hfoot (Or.inl ⟨f', rfl⟩),
      fun _ => ⟨href.cons, hfoot⟩⟩

/-- A failure is recorded unless the store cannot be reached. -/
theorem fail_ensures (a : Assignment) (used : Usage) (f : Failure) :
    (fail a used f).Ensures Exchange.IsPatient (Concludes a (.failed used f)) :=
  (recordAtNow_ensures a (.failed used f) _).mono fun _ _ h => h.2.1

/-- The end of a walk is recorded unless the store cannot be reached. -/
theorem conclude_ensures (a : Assignment) (ending : Ending) :
    (conclude a ending).Ensures Exchange.IsPatient (Concludes a ending) := by
  cases ending with
  | failed used f => exact fail_ensures a used f
  | completed used last =>
    have hcomplete : (complete a used last).Ensures Exchange.IsPatient fun es o =>
        o ≠ .cancelled ∧ Concludes a (.completed used last) es o ∧
          ((∃ f, o = .failed f) → Refused es ∧ footprint es = {}) :=
      recordAtNow_ensures a (.completed used last) _
    refine Ensures.bind_done (hcomplete.attempt_done fun es h => h.1 rfl) ?_
    rintro es x ⟨-, hes, hfailed⟩
    cases x with
    | ok summary => simpa [outcomeOf] using hes
    | error f =>
      -- the completion could not be recorded, so the run fails and a failure is recorded
      obtain ⟨href, hfoot⟩ := hfailed ⟨f, rfl⟩
      refine (fail_ensures a used f).mono ?_
      intro es' o hfail
      have hrefused := refused_append.2 (Or.inl (b := Refused es') href)
      cases hfail with
      | recorded hes' hnow hwrites =>
        exact Concludes.refused hrefused (by rw [footprint_append, hfoot, hes']; rfl)
          (Or.inr ⟨_, rfl⟩)
      | refused href' hes' ho =>
        exact Concludes.refused hrefused (by rw [footprint_append, hfoot, hes']; rfl) ho

/-- As long as the store can be reached, a run ends with the summary of its walk. -/
theorem Concludes.done_of_reached {ending : Ending} {es : List Exchange} {o : Outcome Summary}
    (h : Concludes a ending es o) (hreached : ¬ Refused es) : o = .done ending.summary := by
  cases h with
  | recorded hes hnow hwrites => rfl
  | refused href hes ho => exact absurd href hreached

/-- A run says that it begins, follows its course and records how it ended. -/
theorem run_ensures (r : Runner) (a : Assignment) :
    (r.run a).Ensures Exchange.IsPatient fun es o => ∃ opening course closing ending,
      es = opening ++ (course ++ closing) ∧ footprint opening = {} ∧
        r.StartCourse a course ending ∧ Concludes a ending closing o := by
  intro u _
  show Ensures _ (r.walkFromStart a >>= conclude a) _
  refine Ensures.bind_done (r.walkFromStart_ensures a) ?_
  intro course ending hcourse
  refine (conclude_ensures a ending).mono fun closing o hclosing => ?_
  exact ⟨[_], course, closing, ending, rfl, rfl, hcourse, hclosing⟩

/-- The dialogue of a run is that of its walk, which follows a course, with a report before it and
the record after it. -/
theorem run_dialogue (r : Runner) (a : Assignment) {env : Responder} (henv : env.IsPatient) :
    ∃ opening course closing ending,
      (r.walkFromStart a).dialogue env opening = (course, .done ending) ∧
        ((r.run a).dialogue env []).1 = opening ++ (course ++ closing) ∧
        footprint opening = {} ∧ r.StartCourse a course ending ∧
        Concludes a ending closing ((r.run a).dialogue env []).2 := by
  let begun : Journal.Entry := ⟨.info, speaker,
    "Running flow '" ++ a.flow.name ++ "' for " ++ a.recipient ++ " (test run " ++ a.runId ++ ")"⟩
  let opening : List Exchange := [⟨.report begun, env.answer [] (.report begun)⟩]
  have hwalked := (r.walkFromStart_ensures a).dialogue henv.exchange opening
  generalize hwalk : (r.walkFromStart a).dialogue env opening = walked at hwalked
  obtain ⟨course, o⟩ := walked
  obtain ⟨ending, rfl, hcourse⟩ := hwalked
  have hrun : (r.run a).dialogue env [] =
      (opening ++ (course ++ ((conclude a ending).dialogue env (opening ++ course)).1),
        ((conclude a ending).dialogue env (opening ++ course)).2) := by
    show (opening ++ ((r.walkFromStart a >>= conclude a).dialogue env opening).1,
      ((r.walkFromStart a >>= conclude a).dialogue env opening).2) = _
    rw [dialogue_bind, hwalk]
  refine ⟨opening, course, _, ending, hwalk, by rw [hrun], rfl, hcourse, ?_⟩
  rw [hrun]
  exact (conclude_ensures a ending).dialogue henv.exchange _

end Runner

end Automation
