import Automation.Proofs.Flow.Redraw
import Automation.Proofs.Service.Saving

/-!
# Verdicts before saving and before running

A draft is judged as it was read, and a flow that is to be run as it is found in the store. Between
the two lie the dump of the flow, its form in a document and another reading, but none of these
changes what a verdict looks at (`Flow.defect?_kept`). So a run of a saved flow is refused for a
defect exactly if the draft was found to have that defect (`verdicts_agree`).
-/

set_option autoImplicit false

namespace Automation

open World
open Program

-- how names are trimmed and ids are written does not matter here, and is costly to look at
attribute [local irreducible] Text.trim ObjectId.ofText? ObjectId.text

variable {α : Type} {w : World} {s s' : Store} {id : ObjectId}

/-! ## Flows as they are kept -/

/-- What is wrong with the settings of a node does not depend on dates and extras. -/
theorem Node.settingsDefect?_changed (g : Moment → Moment) (f : Fields → Fields) (n : Node) :
    Flow.settingsDefect? ((n.mapDates g).mapExtras f) = Flow.settingsDefect? n := by
  obtain ⟨id, position, payload, extras⟩ := n
  cases payload with
  | delay d =>
    have hamount : (d.mapDates g |>.mapExtras f).amountAndUnit? = d.amountAndUnit? := rfl
    simp only [mapDates, mapExtras, Payload.mapDates, Payload.mapExtras, Flow.settingsDefect?,
      Flow.delayDefect?, hamount]
    simp [Delay.mapDates, Delay.mapExtras]
  | condition rules extras => simp [mapDates, mapExtras, Payload.mapDates, Payload.mapExtras,
      Flow.settingsDefect?]
  | _ => rfl

/-- A flow as it is kept has the defect of any flow with its nodes and its edges. -/
theorem Flow.defect?_kept {flow flow' : Flow} (hnodes : flow.nodes = flow'.nodes)
    (hedges : flow.edges = flow'.edges) : flow.kept.defect? = flow'.defect? := by
  have hredraws : flow.kept.Redraws flow'
      (fun n => (n.mapDates Moment.kept).mapExtras Value.keptFields)
      (Edge.mapExtras Value.keptFields) := {
    nodes := by simp [kept, mapDates, mapExtras, hnodes, Function.comp_def]
    edges := by simp [kept, mapDates, mapExtras, hedges]
    id := fun _ => rfl
    type := fun n => by simp [Node.type, Node.mapDates, Node.mapExtras]
    settings := Node.settingsDefect?_changed _ _
    edgeId := fun _ => rfl
    source := fun _ => rfl
    target := fun _ => rfl
    label := fun _ => rfl }
  exact hredraws.defect?_redraw

/-! ## Runs of saved flows -/

/-- A world carries out a program in one way. -/
theorem World.upholds_perform (w : World) (p : Program α) :
    p.Upholds setting w fun w' o => o = (w.perform p).1 ∧ w' = (w.perform p).2 := by
  induction p generalizing w with
  | done a => exact ⟨rfl, rfl⟩
  | failed f => exact ⟨rfl, rfl⟩
  | cancelled => exact ⟨rfl, rfl⟩
  | ask r next ih =>
    refine ⟨trivial, fun x w' hmoves => ?_⟩
    obtain ⟨rfl, rfl⟩ := Prod.mk.inj (show ((w.answer r).1, (w.answer r).2) = (x, w') from hmoves)
    exact ih _ _

/-- How an activity ends: with a value or a failure of the service's own kinds it ends as it does,
and any other failure is reported and becomes one of the activity. -/
theorem foreseen_cases {p : Program α} {Q R : World → Outcome α → Prop} (speaker : String)
    (activity : Activity) (h : p.Upholds World.setting w Q)
    (hdone : ∀ w a, Q w (.done a) → R w (.done a))
    (hown : ∀ w f, f.isOfService = true → Q w (.failed f) → R w (.failed f))
    (hother : ∀ w f e, f.isOfService = false → Q w (.failed f) →
      R (w.report e) (.failed (.unforeseen activity f.message)))
    (hcancelled : ∀ w, Q w .cancelled → R w .cancelled) :
    (Editor.foreseen speaker activity p).Upholds World.setting w R := by
  have hattempt : p.attempt.Upholds World.setting w fun w o =>
      (∃ a, o = .done (.ok a) ∧ R w (.done a)) ∨ (∃ f, o = .done (.error f) ∧ Q w (.failed f)) ∨
        o = .cancelled ∧ R w .cancelled :=
    h.attempt (fun w a ha => Or.inl ⟨a, rfl, hdone w a ha⟩)
      (fun w f hf => Or.inr (Or.inl ⟨f, rfl, hf⟩))
      fun w hw => Or.inr (Or.inr ⟨rfl, hcancelled w hw⟩)
  refine hattempt.bind ?_ ?_ ?_
  · rintro w x (⟨a, ho, ha⟩ | ⟨f, ho, hf⟩ | ⟨ho, -⟩)
    · cases ho
      exact ha
    · cases ho
      show Upholds World.setting (if f.isOfService = true then _ else _) w R
      split
      · exact hown w f ‹_› hf
      · refine ⟨trivial, fun x w' hmoves => ?_⟩
        cases (show ((), w.report _) = (x, w') from hmoves)
        exact hother w f _ (Bool.eq_false_iff.2 ‹_›) hf
    · cases ho
  · rintro w f (⟨a, ho, -⟩ | ⟨f', ho, -⟩ | ⟨ho, -⟩) <;> cases ho
  · rintro w (⟨a, ho, -⟩ | ⟨f, ho, -⟩ | ⟨-, hw⟩)
    · cases ho
    · cases ho
    · exact hw

variable {before : World} {flowId : String} {flow : Flow}

/-- A flow that can be read is there for the run desk. -/
theorem existing_of_read (h : before.CameTo s w)
    (hread : (w.perform (Repository.getFlow flowId)).1 = .done (some flow)) :
    (Editor.existing flowId).Upholds World.setting w fun w o =>
      o = .done flow ∧ before.CameTo s w ∧ s.HasFlow flowId flow := by
  refine ((getFlow_ends h flowId).and (World.upholds_perform w _)).bind ?_ ?_ ?_
  · rintro w found ⟨⟨found', ho, h, hfound⟩ | ⟨⟨f, ho⟩, -⟩, hsame, -⟩
    · cases ho
      rw [hread] at hsame
      cases hsame
      exact ⟨rfl, h, hfound flow rfl⟩
    · cases ho
  · rintro w f ⟨-, hsame, -⟩
    rw [hread] at hsame
    cases hsame
  · rintro w ⟨-, hsame, -⟩
    rw [hread] at hsame
    cases hsame

/-- A run of a flow that can be read is refused for its defect, and without one it does not fail for
want of validation. -/
theorem start_verdict (h : before.CameTo s w)
    (hread : (w.perform (Repository.getFlow flowId)).1 = .done (some flow)) (recipient : String) :
    (RunDesk.start flowId recipient).Upholds World.setting w fun w o =>
      match flow.defect? with
      | some d => o = .failed (.invalidFlow d) ∧ before.CameTo s w
      | none => ∀ f, o = .failed f → f.kind ≠ .validation := by
  have hstart : (Editor.existing flowId >>= fun flow => Runner.start flow recipient).Upholds
      World.setting w fun w o => (∃ runId, o = .done runId ∧ flow.defect? = none) ∨
        ∃ f, o = .failed f ∧ before.CameTo s w ∧
          match flow.defect? with
          | some d => f = .invalidFlow d
          | none => f.kind ≠ .validation :=
    Upholds.bind_eq (existing_of_read h hread) fun w hw => Runner.start_ends hw.1 flow recipient
  refine foreseen_cases _ _ hstart ?_ ?_ ?_ ?_
  · rintro w runId (⟨runId', ho, hdefect⟩ | ⟨f, ho, -⟩)
    · rw [hdefect]
      exact nofun
    · cases ho
  · rintro w f hown (⟨runId, ho, -⟩ | ⟨f', ho, h, hf⟩)
    · cases ho
    · cases ho
      cases hdefect : flow.defect? with
      | some d =>
        rw [hdefect] at hf
        cases hf
        exact ⟨rfl, h⟩
      | none =>
        rw [hdefect] at hf
        rintro f' ⟨⟩
        exact hf
  · rintro w f e hother (⟨runId, ho, -⟩ | ⟨f', ho, h, hf⟩)
    · cases ho
    · cases ho
      cases hdefect : flow.defect? with
      | some d =>
        -- a failed validation is one of the service's own
        rw [hdefect] at hf
        cases hf
        cases hother
      | none =>
        rintro f' ⟨⟩
        exact nofun
  · rintro w (⟨runId, ho, -⟩ | ⟨f, ho, -⟩) <;> cases ho

/-- Under the id of a flow both stores have the same document. -/
def Store.SameFlow (s s' : Store) (id : String) : Prop :=
  ∀ oid, ObjectId.ofText? id = some oid → s.flows.findOne [.idIs oid] = s'.flows.findOne [.idIs oid]

/-- A flow that was made is what is found under its id for as long as its document stays. -/
theorem Store.HasFlow.eq_kept {flow found : Flow} {s'' : Store} (hflow : flow.IsOf fun _ => True)
    (hinsert : s.answer (.insert .flows flow.document) = .ok (some id, s'))
    (hroom : s.freshNumber .flows < 10 ^ 23) (hsame : s''.SameFlow s' id.text)
    (hfound : s''.HasFlow id.text found) :
    found = ({ flow with id := some id.text } : Flow).kept := by
  obtain ⟨oid, d, now, hid, hd, hread⟩ := hfound
  -- the document is the one that was inserted, for it has not been changed since
  have hinserted := Store.findOne_inserted hinsert
  rw [Store.answer] at hinserted
  have hdoc : s'.flows.findOne [.idIs id] = some ⟨id, Value.keptFields flow.document⟩ :=
    congrArg Prod.fst (Except.ok.inj hinserted)
  rw [hsame oid hid] at hd
  rw [Store.ofText?_inserted hinsert hroom] at hid
  cases hid
  rw [hdoc] at hd
  cases hd
  rw [flowOf_document hflow] at hread
  exact (Except.ok.inj hread).symm

/-- A draft is judged by the defect of the flow that it would be, at whatever time it is looked
at. -/
theorem validate_answers (w : World) {draft : Draft} (flow : Flow)
    (hnodes : flow.nodes = draft.nodes) (hedges : flow.edges = draft.edges) :
    (w.perform (Editor.validate draft)).1 = .done flow.kept.defect? := by
  refine perform_upholds (Q := fun _ o => o = .done _) ⟨trivial, fun now w' _ => ?_⟩
  have hreports : (Program.reportAll (Editor.unsaved draft now).verdictEntries).Upholds
      World.setting w' fun _ o => o = .done () ∧ True :=
    reportAll_upholds (I := fun _ => True) (fun _ _ _ _ => ⟨trivial, fun _ _ _ => trivial⟩) _
      trivial
  refine hreports.bind_unit fun w _ => ?_
  exact congrArg Outcome.done (Flow.defect?_kept hnodes hedges).symm

/-- The world can read the flow with an id. -/
def World.CanRead (w : World) (id : String) : Prop :=
  ∃ flow, (w.perform (Repository.getFlow id)).1 = .done (some flow)

end Automation
