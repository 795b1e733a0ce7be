import Automation.Proofs.Flow.Delay
import Automation.Proofs.Runner.Course
import Automation.Proofs.Store.Change

/-!
# Every run is bounded

Whatever the shape of a flow, a run of it that is not cancelled visits at most a hundred nodes and
sends at most ninety-nine messages, waits at most six hours at once and at most a day altogether,
and reports exactly the time that it waited. `Bounded` is what a course keeps to, from one usage to
another; it is shown for one step and carried along a course.
-/

set_option autoImplicit false

namespace Automation

open World (Outcome)
open Program

/-- No relative delay waits by a negative amount. -/
def Flow.HasNoNegativeDelay (flow : Flow) : Prop :=
  ∀ n ∈ flow.nodes, ∀ d amount, n.payload = .delay d → d.kind = some "relative" →
    d.amount = some amount → 0 ≤ amount

namespace Runner

/-- The visits of actions, at each of which a message may be sent. -/
def attempts (visits : List (String × String)) : List (String × String) :=
  visits.filter fun v => v.2 == "action"

/-- What a part of a run keeps to that begins with one usage and ends with another. -/
structure Bounded (used : Usage) (left : Footprint) (ending : Usage) : Prop where
  visits : used.steps + left.visits.length ≤ Guard.maxSteps
  posts : used.steps + left.posts.length ≤ Guard.maxSteps
  single : ∀ ms ∈ left.sleeps, 0 ≤ ms ∧ ms ≤ Guard.maxSingleMs
  waited : ending.delayMs = used.delayMs + left.sleeps.sum
  steps : ending.steps ≤ Guard.maxSteps
  total : ending.delayMs ≤ Guard.maxTotalMs

variable {r : Runner} {a : Assignment} {n : Node} {used : Usage} {es : List Exchange}

/-! ## One step -/

theorem letters_length_le (r : Notifier) (address subject body : String) :
    (r.letters address subject body).length ≤ 1 := by
  unfold Notifier.letters
  split
  · exact Nat.zero_le 1
  · split
    · exact Nat.le_refl 1
    · exact Nat.zero_le 1

/-- A visit sends at most one message, and only at an action. -/
theorem Visits.posts_le {o : Outcome Step} (h : r.Visits a n used es o) :
    (footprint es).posts.length ≤ 1 ∧ (n.type ≠ "action" → (footprint es).posts = []) := by
  cases h with
  | sent haction hes =>
    rw [hes.footprint_eq]
    exact ⟨letters_length_le _ _ _ _, fun h => absurd (by rw [Node.type, haction]; rfl) h⟩
  | unsent haction hes hf =>
    rw [hes.footprint_eq]
    exact ⟨letters_length_le _ _ _ _, fun h => absurd (by rw [Node.type, haction]; rfl) h⟩
  | passed hquiet hnext hes => simp [hes]
  | astray hcond hnext hes => simp [hes]
  | waited hdelay hms hguard hes => simp [hes, Exchange.footprint]
  | unmeasured hdelay hms => simp [Exchange.footprint]
  | rejected hdelay hms hguard => simp [Exchange.footprint]
  | unstated hdelay hms hsize hes => simp [hes, Exchange.footprint]

/-- A visit that fails waits for nothing. -/
theorem Visits.sleeps_of_failed {f : Failure} (h : r.Visits a n used es (.failed f)) :
    (footprint es).sleeps = [] := by
  cases h with
  | astray hcond hnext hes => rw [hes]
  | unsent haction hes hf => rw [hes.footprint_eq]
  | unmeasured hdelay hms => rfl
  | rejected hdelay hms hguard => rfl
  | unstated hdelay hms hsize hes => simp [hes, Exchange.footprint]

/-- A visit that goes well counts what it waited, and waits no longer than the guard allows. -/
theorem Visits.sleeps_of_done {step : Step} (h : r.Visits a n used es (.done step))
    (hn : n ∈ a.flow.nodes) (hflow : a.flow.HasNoNegativeDelay)
    (htotal : used.delayMs ≤ Guard.maxTotalMs) :
    (∀ ms ∈ (footprint es).sleeps, 0 ≤ ms ∧ ms ≤ Guard.maxSingleMs) ∧
      step.used.delayMs = used.delayMs + (footprint es).sleeps.sum ∧
      step.used.delayMs ≤ Guard.maxTotalMs := by
  have hnone : ∀ ms ∈ ([] : List Int), 0 ≤ ms ∧ ms ≤ Guard.maxSingleMs :=
    fun ms hms => absurd hms List.not_mem_nil
  cases h with
  | passed hquiet hnext hes =>
    rw [hes]
    exact ⟨hnone, (Int.add_zero _).symm, htotal⟩
  | sent haction hes =>
    rw [hes.footprint_eq]
    exact ⟨hnone, (Int.add_zero _).symm, htotal⟩
  | waited hdelay hms hallowed hes =>
    rename_i rest message d now ms
    obtain ⟨-, hsingle, htotal⟩ := Guard.check_eq_allowed_iff.1 hallowed
    have hnonneg : 0 ≤ ms :=
      Delay.milliseconds_nonneg hms fun amount hkind => hflow n hn d amount hdelay hkind
    have hsleeps : (footprint (⟨.clock, now⟩ :: rest)).sleeps = [ms] := by
      simp [hes, Exchange.footprint]
    rw [hsleeps]
    refine ⟨?_, by simp, htotal⟩
    intro ms' hms'
    rw [List.mem_singleton.1 hms']
    exact ⟨hnonneg, hsingle⟩

/-- A step visits at most one node and sends at most one message. -/
theorem Advances.at_most_one {o : Outcome Step} (h : r.Advances a n used es o) :
    (footprint es).visits.length ≤ 1 ∧ (footprint es).posts.length ≤ 1 := by
  cases h with
  | stopped hguard => exact ⟨Nat.zero_le 1, Nat.zero_le 1⟩
  | refused hguard href hes =>
    rw [hes]
    exact ⟨Nat.zero_le 1, Nat.zero_le 1⟩
  | visited hguard hbefore hvisits hwrites hvisit hafter =>
    rw [footprint_visited hbefore hvisit hafter]
    refine ⟨?_, hvisit.posts_le.1⟩
    rcases hvisits with rfl | ⟨-, rfl⟩
    · exact Nat.le_refl 1
    · exact Nat.zero_le 1

/-- A step at anything but an action sends nothing and does not try to. -/
theorem Advances.sends_nothing {o : Outcome Step} (h : r.Advances a n used es o)
    (haction : n.type ≠ "action") :
    (footprint es).posts = [] ∧ attempts (footprint es).visits = [] := by
  cases h with
  | stopped hguard => exact ⟨rfl, rfl⟩
  | refused hguard href hes =>
    rw [hes]
    exact ⟨rfl, rfl⟩
  | visited hguard hbefore hvisits hwrites hvisit hafter =>
    rw [footprint_visited hbefore hvisit hafter]
    refine ⟨hvisit.posts_le.2 haction, ?_⟩
    rcases hvisits with rfl | ⟨-, rfl⟩
    · simp [attempts, haction]
    · rfl

/-- What a step visits and sends has room below the limit. -/
theorem Advances.within {o : Outcome Step} (h : r.Advances a n used es o)
    (hsteps : used.steps ≤ Guard.maxSteps) :
    used.steps + (footprint es).visits.length ≤ Guard.maxSteps ∧
      used.steps + (footprint es).posts.length ≤ Guard.maxSteps := by
  obtain ⟨hvisits, hposts⟩ := h.at_most_one
  have hroom : used.steps < Guard.maxSteps ∨ footprint es = {} := by
    cases h with
    | stopped hguard => exact Or.inr rfl
    | refused hguard href hes => exact Or.inr hes
    | visited hguard hbefore hvisits hwrites hvisit hafter =>
      exact Or.inl (Guard.check_eq_allowed_iff.1 hguard).1
  rcases hroom with hroom | hnothing
  · constructor <;> omega
  · rw [hnothing]
    exact ⟨by simpa using hsteps, by simpa using hsteps⟩

theorem Advances.lt_of_done {step : Step} (h : r.Advances a n used es (.done step)) :
    used.steps < Guard.maxSteps := by
  cases h with
  | visited hguard hbefore hvisits hwrites hvisit hafter =>
    exact (Guard.check_eq_allowed_iff.1 hguard).1

/-- A step that fails waits for nothing. -/
theorem Advances.sleeps_of_failed {f : Failure} (h : r.Advances a n used es (.failed f)) :
    (footprint es).sleeps = [] := by
  cases h with
  | stopped hguard => rfl
  | refused hguard href hes => rw [hes]
  | visited hguard hbefore hvisits hwrites hvisit hafter =>
    rw [footprint_visited hbefore hvisit hafter]
    exact hvisit.sleeps_of_failed

/-- A step that goes well counts what it waited, and waits no longer than the guard allows. -/
theorem Advances.sleeps_of_done {step : Step} (h : r.Advances a n used es (.done step))
    (hn : n ∈ a.flow.nodes) (hflow : a.flow.HasNoNegativeDelay) :
    (∀ ms ∈ (footprint es).sleeps, 0 ≤ ms ∧ ms ≤ Guard.maxSingleMs) ∧
      step.used.delayMs = used.delayMs + (footprint es).sleeps.sum ∧
      step.used.delayMs ≤ Guard.maxTotalMs := by
  cases h with
  | visited hguard hbefore hvisits hwrites hvisit hafter =>
    rw [footprint_visited hbefore hvisit hafter]
    obtain ⟨-, -, htotal⟩ := Guard.check_eq_allowed_iff.1 hguard
    exact hvisit.sleeps_of_done hn hflow (by simpa using htotal)

/-- The node after a step is a node of the flow. -/
theorem Advances.next_mem {step : Step} {next : Node} (h : r.Advances a n used es (.done step))
    (hnext : step.next = some next) : next ∈ a.flow.nodes := by
  rw [h.next_eq] at hnext
  exact (Flow.follow?_eq_some hnext).1

/-! ## A course -/

/-- A course keeps to the bounds, from a usage that does. -/
theorem Course.bounded {ending : Ending} (h : r.Course a n used es ending)
    (hn : n ∈ a.flow.nodes) (hflow : a.flow.HasNoNegativeDelay)
    (hsteps : used.steps ≤ Guard.maxSteps) (htotal : used.delayMs ≤ Guard.maxTotalMs) :
    Bounded used (footprint es) ending.used := by
  induction h with
  | failed h =>
    obtain ⟨hvisits, hposts⟩ := h.within hsteps
    have hsleeps := h.sleeps_of_failed
    refine ⟨hvisits, hposts, ?_, ?_, hsteps, htotal⟩
    · rw [hsleeps]
      exact fun ms hms => absurd hms List.not_mem_nil
    · rw [hsleeps]
      exact (Int.add_zero _).symm
  | arrived h hlast =>
    obtain ⟨hvisits, hposts⟩ := h.within hsteps
    obtain ⟨hsingle, hwaited, htotal⟩ := h.sleeps_of_done hn hflow
    have hsteps := h.lt_of_done
    rw [← h.steps_eq] at hsteps
    exact ⟨hvisits, hposts, hsingle, hwaited, hsteps, htotal⟩
  | onward h hend hnext hrest ih =>
    obtain ⟨hsingle, hwaited, htotal⟩ := h.sleeps_of_done hn hflow
    obtain ⟨hvisits, hposts⟩ := h.at_most_one
    have hsteps := h.lt_of_done
    have hsame := h.steps_eq
    have hrest := ih (h.next_mem hnext) (by simp only; omega) htotal
    have hvisits' := hrest.visits
    have hposts' := hrest.posts
    have hwaited' := hrest.waited
    simp only at hvisits' hposts' hwaited'
    refine ⟨?_, ?_, ?_, ?_, hrest.steps, hrest.total⟩
    · rw [footprint_append, Footprint.visits_append, List.length_append]
      omega
    · rw [footprint_append, Footprint.posts_append, List.length_append]
      omega
    · rw [footprint_append, Footprint.sleeps_append]
      intro ms hms
      rcases List.mem_append.1 hms with hms | hms
      · exact hsingle ms hms
      · exact hrest.single ms hms
    · rw [footprint_append, Footprint.sleeps_append, List.sum_append]
      omega

/-- From a node that sends nothing a course sends one message less than it may visit nodes. -/
theorem Course.lt_maxSteps {ending : Ending} (h : r.Course a n used es ending)
    (hn : n ∈ a.flow.nodes) (hflow : a.flow.HasNoNegativeDelay) (haction : n.type ≠ "action")
    (hsteps : used.steps < Guard.maxSteps) :
    used.steps + (footprint es).posts.length < Guard.maxSteps ∧
      used.steps + (attempts (footprint es).visits).length < Guard.maxSteps := by
  cases h with
  | failed h =>
    obtain ⟨hposts, hattempts⟩ := h.sends_nothing haction
    rw [hposts, hattempts]
    exact ⟨by simpa using hsteps, by simpa using hsteps⟩
  | arrived h hlast =>
    obtain ⟨hposts, hattempts⟩ := h.sends_nothing haction
    rw [hposts, hattempts]
    exact ⟨by simpa using hsteps, by simpa using hsteps⟩
  | onward h hend hnext hrest =>
    rename_i next es rest step
    obtain ⟨hposts, hattempts⟩ := h.sends_nothing haction
    obtain ⟨-, -, htotal⟩ := h.sleeps_of_done hn hflow
    have hsame := h.steps_eq
    have hbounded := hrest.bounded (h.next_mem hnext) hflow (by simp only; omega) htotal
    have hvisits := hbounded.visits
    have hposts' := hbounded.posts
    simp only at hvisits hposts'
    -- the first node sends nothing, so all messages belong to the rest of the course
    have hsplit : attempts (footprint (es ++ rest)).visits = attempts (footprint rest).visits := by
      rw [footprint_append, Footprint.visits_append, attempts, List.filter_append]
      exact (congrArg (· ++ _) hattempts).trans (List.nil_append _)
    have hfewer : (attempts (footprint rest).visits).length ≤ (footprint rest).visits.length :=
      List.length_filter_le _ _
    rw [hsplit, footprint_append, Footprint.posts_append, hposts, List.nil_append]
    constructor <;> omega

/-! ## The record -/

/-- A change of the record of a run that says nothing of how the run ended. -/
def IsProgress (a : Assignment) (w : ObjectId × Fields) : Prop :=
  ObjectId.ofText? a.runId = some w.1 ∧ w.2.get? "status" = none

theorem Advances.isProgress {o : Outcome Step} (h : r.Advances a n used es o) :
    ∀ w ∈ (footprint es).writes, IsProgress a w := by
  cases h with
  | stopped hguard => exact fun w hw => absurd hw List.not_mem_nil
  | refused hguard href hes =>
    rw [hes]
    exact fun w hw => absurd hw List.not_mem_nil
  | visited hguard hbefore hvisits hwrites hvisit hafter =>
    rw [footprint_visited hbefore hvisit hafter]
    unfold Written at hwrites
    split at hwrites
    · rw [hwrites]
      exact fun w hw => absurd hw List.not_mem_nil
    · rename_i oid hid
      obtain ⟨now, -, rfl⟩ := hwrites
      intro w hw
      rw [List.mem_singleton.1 hw]
      exact ⟨hid, by rw [Fields.get?_insert]; rfl⟩

/-- On its way a course tells the record only of progress. -/
theorem Course.isProgress {ending : Ending} (h : r.Course a n used es ending) :
    ∀ w ∈ (footprint es).writes, IsProgress a w := by
  induction h with
  | failed h => exact h.isProgress
  | arrived h hlast => exact h.isProgress
  | onward h hend hnext hrest ih =>
    rw [footprint_append, Footprint.writes_append]
    intro w hw
    rcases List.mem_append.1 hw with hw | hw
    · exact h.isProgress w hw
    · exact ih w hw

/-- The last change of the record of a run is the only one that gives it a status; the status is
final, and the summary comes with it. A run without a record changes none. -/
def EndsOnce (a : Assignment) (s : Summary) (writes : List (ObjectId × Fields)) : Prop :=
  match ObjectId.ofText? a.runId with
  | none => writes = []
  | some oid => ∃ earlier last, writes = earlier ++ [(oid, last)] ∧
      (∀ w ∈ earlier, w.2.get? "status" = none) ∧ last.get? "summary" = some s.write ∧
      (last.get? "status" = some (.text TestRun.completed) ∨
        last.get? "status" = some (.text TestRun.failed))

theorem endsOnce_of_written {ending : Ending} {now : Moment}
    {earlier writes : List (ObjectId × Fields)} (hearlier : ∀ w ∈ earlier, IsProgress a w)
    (hwrites : Written a.runId (ending.change now) es writes) :
    EndsOnce a ending.summary (earlier ++ writes) := by
  unfold EndsOnce
  unfold Written at hwrites
  split
  · rename_i hid
    rw [hid] at hwrites
    obtain rfl : writes = [] := hwrites
    rw [List.append_nil, List.eq_nil_iff_forall_not_mem]
    intro w hw
    -- progress is written to a record, and the run has none
    have hsome := (hearlier w hw).1
    rw [hid] at hsome
    cases hsome
  · rename_i oid hid
    rw [hid] at hwrites
    obtain ⟨written, -, rfl⟩ := hwrites
    refine ⟨earlier, _, rfl, fun w hw => (hearlier w hw).2, ?_, ?_⟩
    · rw [Fields.get?_insert, if_neg (by decide)]
      cases ending <;> rfl
    · rw [Fields.get?_insert, if_neg (by decide)]
      cases ending with
      | completed used last => exact Or.inl rfl
      | failed used f => exact Or.inr rfl

/-! ## A run -/

/-- The course of a walk from the start keeps to the bounds. -/
theorem StartCourse.bounded {ending : Ending} (h : r.StartCourse a es ending)
    (hflow : a.flow.HasNoNegativeDelay) :
    Bounded .zero (footprint es) ending.used ∧
      (footprint es).posts.length < Guard.maxSteps ∧
      (attempts (footprint es).visits).length < Guard.maxSteps ∧
      ∀ w ∈ (footprint es).writes, IsProgress a w := by
  unfold StartCourse at h
  split at h
  · obtain ⟨rfl, rfl⟩ := h
    have hnone : ∀ ms ∈ ([] : List Int), 0 ≤ ms ∧ ms ≤ Guard.maxSingleMs :=
      fun ms hms => absurd hms List.not_mem_nil
    exact ⟨⟨by decide, by decide, hnone, rfl, by decide, by decide⟩, by decide, by decide,
      fun w hw => absurd hw List.not_mem_nil⟩
  · rename_i s hstart
    obtain ⟨hs, htype⟩ := Flow.start?_eq_some hstart
    have haction : s.type ≠ "action" := by
      rw [htype]
      decide
    obtain ⟨hposts, hattempts⟩ := h.lt_maxSteps hs hflow haction (by decide)
    simp only [Usage.zero, Int.zero_add] at hposts hattempts
    exact ⟨h.bounded hs hflow (by decide) (by decide), hposts, hattempts, h.isProgress⟩

theorem Concludes.footprint_eq {ending : Ending} {o : Outcome Summary}
    (h : Concludes a ending es o) : ∃ writes, footprint es = { writes } := by
  cases h with
  | recorded hes hnow hwrites => exact ⟨_, hes⟩
  | refused href hes ho => exact ⟨_, hes⟩

/-- A run reports what its walk used. -/
theorem Concludes.reports {ending : Ending} {o : Outcome Summary} (h : Concludes a ending es o) :
    ∀ s, o = .done s → s.steps = ending.used.steps ∧ s.delayMs = ending.used.delayMs := by
  intro s hs
  cases h with
  | recorded hes hnow hwrites =>
    cases hs
    cases ending <;> exact ⟨rfl, rfl⟩
  | refused href hes ho =>
    rcases ho with ⟨f, ho⟩ | ⟨reason, ho⟩
    · rw [ho] at hs
      cases hs
    · rw [ho] at hs
      cases hs
      exact ⟨rfl, rfl⟩

/-- As long as the store can be reached, the end of a walk is recorded. -/
theorem Concludes.endsOnce {ending : Ending} {o : Outcome Summary} (h : Concludes a ending es o)
    (hreached : ¬ Refused es) {earlier writes : List (ObjectId × Fields)}
    (hearlier : ∀ w ∈ earlier, IsProgress a w) (hes : footprint es = { writes }) :
    ∃ s, o = .done s ∧ EndsOnce a s (earlier ++ writes) := by
  cases h with
  | recorded hclosed hnow hwritten =>
    rw [hes] at hclosed
    cases hclosed
    exact ⟨_, rfl, endsOnce_of_written hearlier hwritten⟩
  | refused href hclosed ho => exact absurd href hreached

/-- Every run is bounded, whatever the graph of its flow is and however its world answers: it begins
at most a hundred visits, at most ninety-nine of them of actions, and posts at most ninety-nine
messages; it waits at most six hours at once and at most a day altogether, which is what it reports;
and it needs no bound on its steps beside the guard's. As long as the store can be reached it ends
with a summary, and its record is told once how it ended, and nothing after that. -/
theorem run_bounded (r : Runner) (a : Assignment) (env : Responder)
    (henv : env.IsPatient) (hflow : a.flow.HasNoNegativeDelay) :
    let es := ((r.run a).dialogue env []).1
    let o := ((r.run a).dialogue env []).2
    (footprint es).visits.length ≤ 100 ∧ (attempts (footprint es).visits).length ≤ 99 ∧
      (footprint es).posts.length ≤ 99 ∧
      (∀ ms ∈ (footprint es).sleeps, 0 ≤ ms ∧ ms ≤ 21600000) ∧
      (footprint es).sleeps.sum ≤ 86400000 ∧
      (∀ s, o = .done s → s.steps ≤ 100 ∧ s.delayMs = (footprint es).sleeps.sum) ∧
      (∀ n more, r.walk a (101 + more) n .zero = r.walk a 101 n .zero) ∧
      (¬ Refused es → ∃ s, o = .done s ∧ EndsOnce a s (footprint es).writes) := by
  intro es o
  obtain ⟨opening, course, closing, ending, -, hes, hopening, hcourse, hclosing⟩ :=
    r.run_dialogue a henv
  obtain ⟨hbounded, hposts, hattempts, hprogress⟩ := hcourse.bounded hflow
  obtain ⟨writes, hwrites⟩ := hclosing.footprint_eq
  have hleft : footprint es = { footprint course with
      writes := (footprint course).writes ++ writes } := by
    show footprint ((r.run a).dialogue env []).1 = _
    rw [hes, footprint_append, footprint_append, hopening, hwrites]
    obtain ⟨posts, sleeps, visits, before⟩ := footprint course
    simp
  have hvisits := hbounded.visits
  have hwaited := hbounded.waited
  have htotal := hbounded.total
  simp only [Usage.zero, Guard.maxSteps, Guard.maxTotalMs, Int.zero_add] at *
  rw [hleft]
  dsimp only
  refine ⟨by omega, by omega, by omega, hbounded.single, by omega, ?_, ?_, ?_⟩
  · intro s hs
    obtain ⟨hsteps, hdelay⟩ := hclosing.reports s hs
    rw [hsteps, hdelay, hwaited]
    exact ⟨hbounded.steps, rfl⟩
  · intro n more
    exact r.walk_add a 101 more n .zero (by decide)
  · intro hreached
    refine hclosing.endsOnce ?_ hprogress hwrites
    intro href
    refine hreached ?_
    show Refused ((r.run a).dialogue env []).1
    rw [hes]
    exact refused_append.2 (Or.inr (refused_append.2 (Or.inr href)))

/-- A flow whose only action leads back to itself. -/
def loopingFlow : Flow where
  id := none
  name := "Loop"
  nodes := [⟨"start", none, .start [], []⟩, ⟨"action", none, .action (some "Hello") [], []⟩]
  edges := [⟨"first", "start", "action", none, none, none, []⟩,
    ⟨"again", "action", "action", none, none, none, []⟩]
  createdAt := none
  updatedAt := none

/-- A run of the flow that leads back to itself ends with a summary, and sends no more than
ninety-nine messages. -/
theorem run_bounded_looping :
    loopingFlow.HasNoNegativeDelay ∧
      (footprint (((⟨.mailer ⟨"https://mail.example", "from@example.com"⟩, "Hello"⟩ : Runner).run
        ⟨loopingFlow, "to@example.com", "none"⟩).dialogue .uneventful []).1).posts.length ≤ 99 := by
  have hflow : loopingFlow.HasNoNegativeDelay := by
    intro n hn d amount hdelay
    simp only [loopingFlow, List.mem_cons, List.not_mem_nil, or_false] at hn
    rcases hn with rfl | rfl <;> cases hdelay
  exact ⟨hflow, (run_bounded _ _ .uneventful (fun _ _ => rfl) hflow).2.2.1⟩

end Runner

end Automation
