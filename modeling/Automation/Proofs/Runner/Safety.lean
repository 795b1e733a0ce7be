import Automation.Proofs.Flow.Delay
import Automation.Proofs.Runner.Course

/-!
# A flow without a defect is safe to run

What the verdict on a flow checks is what a run of the flow relies on. A walk through a flow without
a defect finds a next node until it stands at the end, and a run of it visits the nodes of such a
walk: it completes at the end, or it fails for a reason that no verdict can foresee, because the
guard rejects it, a date has passed, or a message cannot be delivered.
-/

set_option autoImplicit false

namespace Automation

open World (Outcome)
open Program

/-- Every amount that a delay gives fits into a word. -/
def Flow.AmountsFit (flow : Flow) : Prop :=
  ∀ n ∈ flow.nodes, ∀ d amount, n.payload = .delay d → d.amount = some amount → fitsWord amount

/-- A failure that no verdict on a flow can foresee. -/
def Failure.IsUnforeseen (f : Failure) : Prop :=
  f.IsOfDelivery ∨ f = .delay .pastTarget ∨ ∃ reason, f = .rejected reason

namespace Runner

/-- How the conditions of a run evaluate on its way: for the recipient, whatever was visited. -/
def choice (a : Assignment) : List Node → Bool
  | [] => false
  | n :: _ => n.outcome a.recipient

/-- What the audit is told of a walk whose last node comes first. -/
def told (visited : List Node) : List (String × String) :=
  visited.reverse.map fun n => (n.id, n.type)

/-- How a run that visited some nodes, the last one first, ends when all is well with its flow. -/
inductive EndsSafely : List Node → Ending → Prop
  | completed {last : Node} {before : List Node} {used : Usage} (hend : last.type = "end") :
      EndsSafely (last :: before) (.completed used last.id)
  | failed {visited : List Node} {used : Usage} {f : Failure} (hf : f.IsUnforeseen) :
      EndsSafely visited (.failed used f)

theorem told_cons (n : Node) (before : List Node) :
    told (n :: before) = told before ++ [(n.id, n.type)] := by
  simp [told]

variable {r : Runner} {a : Assignment} {n : Node} {used : Usage}

/-- The guard can always state the length of a wait that is not too long. -/
theorem check_ne_unstated {ms : Int}
    (hms : ms.natAbs ≤ 2 ^ 54 * 2 ^ Binary64.maxExponent.toNat) :
    Guard.check used ms ≠ .unstated := by
  have hhour : 1000 ≤ 3600000 := by decide
  obtain ⟨negative, m, e, hhours⟩ := Binary64.ofIntRatio_isFinite hhour hms
  unfold Guard.check Guard.hours?
  rw [hhours]
  intro h
  split at h
  · cases h
  · split at h
    · cases h
    · split at h <;> cases h

/-- In a well-formed flow the visit of a node fails only for a reason that cannot be foreseen. -/
theorem Visits.isUnforeseen {es : List Exchange} {f : Failure}
    (h : r.Visits a n used es (.failed f)) (hn : n ∈ a.flow.nodes) (hwell : a.flow.WellFormed)
    (hfit : a.flow.AmountsFit) : f.IsUnforeseen := by
  cases h with
  | astray hcond hnext hes =>
    obtain ⟨m, hm⟩ := hwell.exists_follow? hn (by simp [hcond]) (n.outcome a.recipient)
    rw [hm] at hnext
    cases hnext
  | unsent haction hes hf => exact Or.inl hf
  | unmeasured hdelay hms =>
    have hcomplete := hwell.complete n hn
    rw [Node.IsComplete, hdelay] at hcomplete
    rw [Delay.IsComplete.fault_eq hcomplete hms]
    exact Or.inr (Or.inl rfl)
  | rejected hdelay hms hguard => exact Or.inr (Or.inr ⟨_, rfl⟩)
  | unstated hdelay hms hsize hes =>
    -- neither hours nor seconds of a delay are too large for a number in double precision
    rename_i rest d now ms
    have hsmall := Delay.milliseconds_le hms fun amount => hfit n hn d amount hdelay
    rcases hsize with hguard | ⟨-, negative, hseconds⟩
    · exact absurd hguard (check_ne_unstated hsmall)
    · obtain ⟨negative', m, e, hfinite⟩ :=
        Binary64.ofIntRatio_isFinite (Nat.le_refl 1000) hsmall
      rw [hseconds] at hfinite
      cases hfinite

/-- In a well-formed flow a walk stops only at the end. -/
theorem isEnd_of_stopped (hn : n ∈ a.flow.nodes) (hwell : a.flow.WellFormed)
    (hlast : n.isEnd = true ∨ a.flow.follow? n (n.outcome a.recipient) = none) :
    n.type = "end" := by
  rcases hlast with hend | hnext
  · simpa [Node.isEnd] using hend
  · by_contra hend
    obtain ⟨m, hm⟩ := hwell.exists_follow? hn hend (n.outcome a.recipient)
    rw [hm] at hnext
    cases hnext

/-- A step that goes well, with the store in reach, is a visit that the audit is told of. -/
theorem Advances.visits_eq {es : List Exchange} {step : Step}
    (h : r.Advances a n used es (.done step)) (hreached : ¬ Refused es) :
    (footprint es).visits = [(n.id, n.type)] := by
  cases h with
  | visited hguard hbefore hvisits hwrites hvisit hafter =>
    rw [footprint_visited hbefore hvisit hafter]
    exact hvisits.resolve_right fun h => hreached (refused_append.2 (Or.inl h.1))

/-- The course of a run of a well-formed flow follows a walk and ends safely. -/
theorem Course.safe {es : List Exchange} {ending : Ending} (h : r.Course a n used es ending)
    (hwell : a.flow.WellFormed) (hfit : a.flow.AmountsFit) (hreached : ¬ Refused es)
    {before : List Node} (hwalk : a.flow.Walk (choice a) (n :: before)) :
    ∃ visited, told before ++ (footprint es).visits = told visited ∧ EndsSafely visited ending ∧
      (a.flow.Walk (choice a) visited ∨ visited = before ∧ Guard.check used 0 ≠ .allowed) := by
  induction h generalizing before with
  | failed h =>
    have hn := hwalk.mem _ List.mem_cons_self
    cases h with
    | stopped hguard =>
      -- the guard stops the run before it visits the node
      refine ⟨before, List.append_nil _, EndsSafely.failed (Or.inr (Or.inr ⟨_, rfl⟩)),
        Or.inr ⟨rfl, ?_⟩⟩
      rw [hguard]
      exact fun h => nomatch h
    | refused hguard href hes => exact absurd href hreached
    | visited hguard hbefore hvisits hwrites hvisit hafter =>
      refine ⟨_, ?_, EndsSafely.failed (hvisit.isUnforeseen hn hwell hfit), Or.inl hwalk⟩
      rw [footprint_visited hbefore hvisit hafter, told_cons,
        hvisits.resolve_right fun h => hreached (refused_append.2 (Or.inl h.1))]
  | arrived h hlast =>
    have hn := hwalk.mem _ List.mem_cons_self
    rw [h.next_eq] at hlast
    refine ⟨_, ?_, EndsSafely.completed (isEnd_of_stopped hn hwell hlast), Or.inl hwalk⟩
    rw [h.visits_eq hreached, told_cons]
  | onward h hend hnext hrest ih =>
    rename_i n next used es rest step ending
    rw [refused_append, not_or] at hreached
    rw [h.next_eq] at hnext
    obtain ⟨visited, htold, hsafe, hvisited⟩ := ih hreached.2 (hwalk.step hnext)
    refine ⟨visited, ?_, hsafe, ?_⟩
    · rw [footprint_append, Footprint.visits_append, h.visits_eq hreached.1, ← htold, told_cons,
        List.append_assoc]
    · rcases hvisited with hvisited | ⟨rfl, -⟩
      · exact Or.inl hvisited
      · exact Or.inl hwalk

/-- The course of a run from the start of a well-formed flow follows a walk and ends safely. -/
theorem StartCourse.safe {es : List Exchange} {ending : Ending} (h : r.StartCourse a es ending)
    (hwell : a.flow.WellFormed) (hfit : a.flow.AmountsFit) (hreached : ¬ Refused es) :
    ∃ visited, a.flow.Walk (choice a) visited ∧ (footprint es).visits = told visited ∧
      EndsSafely visited ending := by
  obtain ⟨s, hs⟩ := hwell.exists_start?
  unfold StartCourse at h
  rw [hs] at h
  obtain ⟨visited, htold, hsafe, hwalk | ⟨-, hguard⟩⟩ :=
    Course.safe h hwell hfit hreached (Flow.Walk.start hs)
  · exact ⟨visited, hwalk, htold, hsafe⟩
  · exact absurd (by decide) hguard

/-- Validation makes the runner safe. When a flow has no defect, a walk through it, however its
conditions evaluate, finds a next node until it stands at the end, meets no node twice, and arrives
at the only end after at most as many visits as the flow has nodes. Every run of such a flow that
is not cancelled, and whose store is in reach, visits the nodes of its walk one by one and
completes at the end, or fails because the guard rejects it, a date has passed or a message cannot
be delivered. -/
theorem run_safe_of_no_defect (flow : Flow) (hvalid : flow.defect? = none) :
    (∀ choose : List Node → Bool,
      (∀ n before, flow.Walk choose (n :: before) →
        ((n :: before).map Node.id).Nodup ∧ (n :: before).length ≤ flow.nodes.length ∧
          (n.type ≠ "end" → ∃ m, flow.follow? n (choose (n :: before)) = some m)) ∧
      ∃ last before, flow.Walk choose (last :: before) ∧ flow.nodesOfType "end" = [last]) ∧
    (flow.AmountsFit → ∀ (r : Runner) (recipient runId : String) (env : Responder),
      env.IsPatient → ¬ Refused ((r.run ⟨flow, recipient, runId⟩).dialogue env []).1 →
      ∃ opening course closing ending visited,
        (r.walkFromStart ⟨flow, recipient, runId⟩).dialogue env opening = (course, .done ending) ∧
          (r.run ⟨flow, recipient, runId⟩).dialogue env [] =
            (opening ++ (course ++ closing), .done ending.summary) ∧
          flow.Walk (choice ⟨flow, recipient, runId⟩) visited ∧
          (footprint course).visits = told visited ∧ EndsSafely visited ending) := by
  have hwell : flow.WellFormed := (Flow.defect?_eq_none_iff flow).1 hvalid
  constructor
  · intro choose
    constructor
    · intro n before hwalk
      exact ⟨hwalk.nodup hwell.acyclic, hwalk.length_le hwell.acyclic, fun hend =>
        hwell.exists_follow? (hwalk.mem n List.mem_cons_self) hend _⟩
    · obtain ⟨s, hs⟩ := hwell.exists_start?
      have hstart : flow.Walk choose [s] := Flow.Walk.start hs
      obtain ⟨last, before, hwalk, hend⟩ := hwell.exists_walk_to_end hstart
      refine ⟨last, before, hwalk, ?_⟩
      exact hwell.nodesOfType_end (hwalk.mem last List.mem_cons_self) hend
  · intro hfit r recipient runId env henv hreached
    obtain ⟨opening, course, closing, ending, hwalk, hes, hopening, hcourse, hclosing⟩ :=
      r.run_dialogue ⟨flow, recipient, runId⟩ henv
    rw [hes, refused_append, refused_append, not_or, not_or] at hreached
    obtain ⟨visited, hvisited, htold, hsafe⟩ := hcourse.safe hwell hfit hreached.2.1
    refine ⟨opening, course, closing, ending, visited, hwalk, ?_, hvisited, htold, hsafe⟩
    rw [← hes, ← hclosing.done_of_reached hreached.2.2]

/-- A run of the sample flow follows a walk through it and ends safely. -/
theorem run_safe_of_no_defect_sample :
    (Script.sampleFlow default).defect? = none ∧ ∃ ending visited,
      (Script.sampleFlow default).Walk
          (choice ⟨Script.sampleFlow default, "to@example.com", "none"⟩) visited ∧
        EndsSafely visited ending := by
  have hvalid : (Script.sampleFlow default).defect? = none := by decide
  have hfit : (Script.sampleFlow default).AmountsFit := by
    intro n hn d amount hdelay
    simp only [Script.sampleFlow, List.mem_cons, List.not_mem_nil, or_false] at hn
    rcases hn with rfl | rfl | rfl | rfl <;> cases hdelay
  have hreached : ∀ before q, ¬ Exchange.IsRefusal ⟨q, Responder.uneventful.answer before q⟩ := by
    intro before q
    cases q <;> exact id
  obtain ⟨opening, course, closing, ending, visited, -, -, hwalk, -, hsafe⟩ :=
    (run_safe_of_no_defect (Script.sampleFlow default) hvalid).2 hfit ⟨.nobody, defaultSubject⟩
      "to@example.com" "none" .uneventful (fun _ _ => rfl) (not_refused hreached _ _)
  exact ⟨hvalid, ending, visited, hwalk, hsafe⟩

end Runner

end Automation
