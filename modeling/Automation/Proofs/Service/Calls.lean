import Automation.Proofs.Service.Editing
import Automation.Proofs.Service.Requests
import Automation.World.Session

/-!
# What calls and the import do to saved flows

A call of the service and a run of the import script each leave the saved flows as they are or make
one edit of them, and they always leave them free of a flow exactly when the reply says that it was
deleted (`handle_treats`, `importSample_edits`).
-/

set_option autoImplicit false

namespace Automation

open World (chronicle)
open Program

variable {σ α β : Type} {c : Setting σ} {f : Shelf} {made : List ObjectId}
  {s : World × List Exchange}

/-! ## Programs that only read -/

theorem sparesFlows_searches : Request.Searches Request.SparesFlows where
  quiet _ h := h.sparesFlows
  findFlow _ := trivial
  findOne _ _ := trivial
  find _ _ _ := trivial

/-- A run that begins leaves the saved flows alone. -/
theorem asks_start (id recipient : String) :
    (RunDesk.start id recipient).Asks Request.SparesFlows := by
  have hexisting := sparesFlows_searches.asks_existing id
  refine sparesFlows_searches.asks_foreseen _ _ (hexisting.bind fun flow => ?_)
  have hadmission := (Runner.asks_admission flow).mono fun _ h => h.sparesFlows
  refine hadmission.bind fun admitted => ⟨trivial, fun now => ?_⟩
  refine (Asks.createTestRun (fun _ h => h.sparesFlows) trivial).bind fun run => ?_
  cases run with
  | none => trivial
  | some run => exact ⟨trivial, fun _ => ⟨trivial, fun _ => trivial⟩⟩

/-! ## Replies -/

/-- No failure is answered as a success. -/
theorem Failure.status_ne_ok (failure : Failure) : failure.status?.getD 500 ≠ 200 := by
  have hkind : ∀ kind : FailureKind, kind.status?.getD 500 ≠ 200 := by
    intro kind
    unfold FailureKind.status?
    split <;> decide
  unfold Failure.status?
  split
  · rw [Option.getD_some]
    split <;> decide
  · exact hkind _

/-- What becomes of the saved flows: an edit that deletes nothing, or the deletion of a flow. -/
def AfterDeletion (gone : Option ObjectId) (f : Shelf) (made : List ObjectId)
    (s : World × List Exchange) : Prop :=
  match gone with
  | none => EditedFlows f made s
  | some oid => SavedFlows (f.delete oid) made s

namespace Http

/-- The flow whose deletion a request asks for. -/
def Route.deletes? : Route → Option ObjectId
  | .deleteFlow id => ObjectId.ofText? id
  | _ => none

/-- The flow whose deletion a call asks for. -/
def Call.deletes? (c : Call) : Option ObjectId :=
  match direct c.method (Target.path c.target) with
  | .to route => route.deletes?
  | _ => none

/-- The flow of which a call is told that it was deleted. -/
def Call.deleted? (c : Call) : World.Outcome Reply → Option ObjectId
  | .done reply => if reply.status = 200 then c.deletes? else none
  | _ => none

namespace Service

/-- Work and its answer, which is no success when the work fails. -/
theorem perform_upholds {work : Program α} {s : σ} {I : σ → Prop} {Q : σ → World.Outcome α → Prop}
    {R : σ → World.Outcome Outcome → Prop} (part : String) (activity : Activity)
    (write : α → Except ReplyDefect Value) (status : Nat) (h : work.Upholds c s Q)
    (hquiet : c.Keeps Request.IsQuiet I)
    (hdone : ∀ s a, Q s (.done a) → R s (.done ((write a).map (Reply.of status))))
    (hfailed : ∀ s failure, Q s (.failed failure) → I s)
    (hrefused : ∀ s code text, I s → code ≠ 200 → R s (.done (.ok (Reply.refusal code text))))
    (hcancelled : ∀ s, Q s .cancelled → R s .cancelled) :
    (perform part activity work write status).Upholds c s R := by
  have hattempt : work.attempt.Upholds c s fun s o =>
      (∃ a, o = .done (.ok a) ∧ Q s (.done a)) ∨
        (∃ failure, o = .done (.error failure) ∧ I s) ∨ o = .cancelled ∧ Q s .cancelled :=
    h.attempt (fun s a ha => Or.inl ⟨a, rfl, ha⟩)
      (fun s failure hs => Or.inr (Or.inl ⟨failure, rfl, hfailed s failure hs⟩))
      fun s hs => Or.inr (Or.inr ⟨rfl, hs⟩)
  refine hattempt.bind ?_ ?_ ?_
  · rintro s x (⟨a, ho, ha⟩ | ⟨failure, ho, hs⟩ | ⟨ho, -⟩)
    · cases ho
      exact hdone s a ha
    · cases ho
      refine (report_upholds hquiet _ hs).bind_unit fun s hs => ?_
      refine (report_upholds hquiet _ hs).bind_unit fun s hs => ?_
      exact hrefused s _ _ hs failure.status_ne_ok
    · cases ho
  · rintro s failure (⟨a, ho, -⟩ | ⟨failure, ho, -⟩ | ⟨ho, -⟩) <;> cases ho
  · rintro s (⟨a, ho, -⟩ | ⟨failure, ho, -⟩ | ⟨-, hs⟩)
    · cases ho
    · cases ho
    · exact hcancelled s hs

@[simp] theorem status_trimmed (call : Call) (reply : Reply) :
    (trimmed call reply).status = reply.status := by
  unfold trimmed
  split <;> rfl

/-- A call and its answer: the reply of its route, or the report that stands in for a reply that
could not be written. -/
theorem handle_upholds {s : σ} {I : σ → Prop} {Q : σ → World.Outcome Outcome → Prop}
    {R : σ → World.Outcome Reply → Prop} (allowed : String) {call : Call}
    (h : (route call).Upholds c s Q) (hquiet : c.Keeps Request.IsQuiet I)
    (hsent : ∀ s reply origin, Q s (.done (.ok reply)) → Json.isFinite reply.body = true →
      R s (.done (trimmed call { reply with allowedOrigin := origin })))
    (hunwritten : ∀ s outcome, Q s (.done outcome) →
      (∀ reply, outcome = .ok reply → Json.isFinite reply.body ≠ true) → I s)
    (hreplaced : ∀ s text, I s → R s (.done (trimmed call (.internal text))))
    (hfailed : ∀ s failure, Q s (.failed failure) → R s (.failed failure))
    (hcancelled : ∀ s, Q s .cancelled → R s .cancelled) :
    (handle allowed call).Upholds c s R := by
  -- an error, and a reply that is not finite, are replaced in the same way
  have hreplace : ∀ (d : ReplyDefect) s, I s →
      (replace d >>= fun reply => pure (trimmed call reply)).Upholds c s R := fun d s hs =>
    (report_upholds hquiet _ hs).bind_unit fun s hs => hreplaced s _ hs
  refine h.bind ?_ hfailed hcancelled
  intro s outcome ho
  cases outcome with
  | error d => exact hreplace d s (hunwritten s _ ho nofun)
  | ok reply =>
    dsimp only
    split
    · exact hsent s reply _ ho ‹_›
    · refine hreplace .notFinite s (hunwritten s _ ho ?_)
      rintro reply' ⟨⟩
      exact ‹_›

/-- What becomes of the saved flows in a request that may ask for the deletion of one: an edit that
deletes nothing, or that deletion, and then the reply is a success. -/
def Served (gone : Option ObjectId) (f : Shelf) (made : List ObjectId)
    (s : World × List Exchange) (o : World.Outcome Outcome) : Prop :=
  (EditedFlows f made s ∧ (gone = none ∨ ∀ reply, o = .done (.ok reply) → reply.status ≠ 200)) ∨
    ∃ oid body, gone = some oid ∧ o = .done (.ok (Reply.of 200 body)) ∧
      Json.isFinite body = true ∧ SavedFlows (f.delete oid) made s

/-- A program that answers a request which may ask for the deletion of a flow. -/
abbrev Serves (p : Program Outcome) (gone : Option ObjectId) : Prop :=
  p.TreatsFlows (Served gone)

theorem serves_done (reply : Reply) (gone : Option ObjectId)
    (h : reply.status ≠ 200 ∨ gone = none) : Serves (.done (.ok reply)) gone := by
  refine ⟨fun f made s hs => Or.inl ⟨hs.edited, ?_⟩⟩
  rcases h with h | h
  · refine Or.inr fun reply' ho => ?_
    cases ho
    exact h
  · exact Or.inl h

/-- Work that deletes nothing. -/
theorem serves_perform {work : Program α} (h : work.EditsOnce) (part : String)
    (activity : Activity) (write : α → Except ReplyDefect Value) (status : Nat) :
    Serves (perform part activity work write status) none :=
  ⟨fun f made s hs => perform_upholds part activity write status (h.upholds f made s hs)
    keeps_editedFlows_quiet (fun _ _ hs => Or.inl ⟨hs, Or.inl rfl⟩) (fun _ _ hs => hs)
    (fun _ _ _ hs _ => Or.inl ⟨hs, Or.inl rfl⟩) fun _ hs => Or.inl ⟨hs, Or.inl rfl⟩⟩

/-- A body that does not read is refused before anything is done. -/
theorem serves_withBody {read : Reader α} {word : Issue → String} {work : α → Program Outcome}
    (body : Option Value) (h : ∀ a, Serves (work a) none) :
    Serves (withBody body read word work) none := by
  constructor
  intro f made s hs
  unfold withBody
  cases bodyFields body with
  | error reply => exact Or.inl ⟨hs.edited, Or.inl rfl⟩
  | ok fields =>
    cases hread : read (.record fields) with
    | ok a =>
      simp only [hread]
      exact (h a).upholds f made s hs
    | refused issues =>
      simp only [hread]
      refine (report_upholds keeps_savedFlows_quiet _ hs).bind_unit fun s hs => ?_
      exact Or.inl ⟨hs.edited, Or.inl rfl⟩

/-- The deletion of a flow succeeds exactly if it is reported as a success. -/
theorem serves_delete (id : String) : Serves (perform flowSpeaker .deletingFlow (Editor.delete id)
    (plainly fun _ => .record [("message", .text "Automation deleted successfully")]) 200)
    (ObjectId.ofText? id) := by
  constructor
  intro f made s hs
  refine perform_upholds (I := SavedFlows f made) _ _ _ _ (delete_upholds id hs)
    keeps_savedFlows_quiet ?_ ?_ ?_ ?_
  · rintro s ⟨⟩ (⟨-, ho⟩ | ⟨oid, hid, -, hs⟩)
    · exact absurd rfl ho
    · exact Or.inr ⟨oid, _, hid, rfl, by decide, hs⟩
  · rintro s failure (⟨hs, -⟩ | ⟨oid, -, ho, -⟩)
    · exact hs
    · cases ho
  · intro s code text hs hcode
    refine Or.inl ⟨hs.edited, Or.inr fun reply ho => ?_⟩
    cases ho
    exact hcode
  · rintro s (⟨hs, -⟩ | ⟨oid, -, ho, -⟩)
    · exact Or.inl ⟨hs.edited, Or.inr nofun⟩
    · cases ho

/-- A route leaves the saved flows edited, or without the flow that it deletes. -/
theorem serves_serve (body : Option Value) (route : Route) :
    Serves (serve body route) route.deletes? := by
  cases route with
  | createFlow => exact serves_withBody body fun draft => serves_perform (create_edits draft) ..
  | listFlows =>
    have hlist := sparesFlows_searches.asks_getFlows
    exact serves_perform (sparesFlows_searches.asks_foreseen _ _ hlist).editsOnce ..
  | validateFlow =>
    exact serves_withBody body fun draft =>
      serves_perform ((asks_validate draft).mono fun _ h => h.sparesFlows).editsOnce ..
  | flow id =>
    have hexisting := sparesFlows_searches.asks_existing id
    exact serves_perform (sparesFlows_searches.asks_foreseen _ _ hexisting).editsOnce ..
  | updateFlow id =>
    exact serves_withBody body fun revision => serves_perform (update_edits id revision) ..
  | deleteFlow id => exact serves_delete id
  | startRun id =>
    exact serves_withBody body fun recipient =>
      serves_perform (asks_start id recipient).editsOnce ..
  | run id => exact serves_perform (sparesFlows_searches.asks_runDetail id).editsOnce ..
  | runsOfFlow id =>
    exact serves_perform (sparesFlows_searches.asks_getTestRunsByFlow id).editsOnce ..
  | audit id => exact serves_perform (sparesFlows_searches.asks_getAuditEntries id).editsOnce ..
  | overview id => exact serves_perform (sparesFlows_searches.asks_overview id).editsOnce ..
  | health => exact serves_done _ _ (Or.inr rfl)
  | page => exact serves_done _ _ (Or.inr rfl)

theorem serves_route (call : Call) : Serves (route call) call.deletes? := by
  unfold route Call.deletes?
  cases direct call.method (Target.path call.target) with
  | «to» r => exact serves_serve call.body r
  | otherMethod => exact serves_done _ _ (Or.inr rfl)
  | elsewhere path => exact serves_done _ _ (Or.inr rfl)
  | nowhere => exact serves_done _ _ (Or.inr rfl)

theorem deleted?_done (call : Call) (reply : Reply) :
    call.deleted? (.done reply) = if reply.status = 200 then call.deletes? else none := rfl

/-- A call leaves the saved flows edited, or without the flow that its reply tells was deleted. -/
theorem handle_treats (allowed : String) (call : Call) :
    (handle allowed call).TreatsFlows fun f made s o =>
      AfterDeletion (call.deleted? o) f made s := by
  constructor
  intro f made s hs
  refine handle_upholds (I := EditedFlows f made) allowed ((serves_route call).upholds f made s hs)
    keeps_editedFlows_quiet ?_ ?_ ?_ ?_ ?_
  · rintro s reply origin (⟨hs, hgone⟩ | ⟨oid, body, hgone, ho, -, hs⟩) -
    · rw [deleted?_done, status_trimmed]
      rcases hgone with hgone | hstatus
      · rw [hgone, ite_self]
        exact hs
      · rw [if_neg (hstatus reply rfl)]
        exact hs
    · cases ho
      rw [deleted?_done, status_trimmed, if_pos (show (Reply.of 200 body).status = 200 from rfl),
        hgone]
      exact hs
  · rintro s outcome (⟨hs, -⟩ | ⟨oid, body, -, ho, hfinite, -⟩) hunwritten
    · exact hs
    · -- the report of a deletion can always be written
      cases ho
      exact absurd hfinite (hunwritten _ rfl)
  · intro s text hs
    have hstatus : (Reply.internal text).status ≠ 200 := show 500 ≠ 200 by decide
    rw [deleted?_done, status_trimmed, if_neg hstatus]
    exact hs
  · rintro s failure (⟨hs, -⟩ | ⟨oid, body, -, ho, -⟩)
    · exact hs
    · cases ho
  · rintro s (⟨hs, -⟩ | ⟨oid, body, -, ho, -⟩)
    · exact hs
    · cases ho

end Service

end Http

/-! ## The import of the sample -/

/-- What a program keeps and what is done after it keeps is kept. -/
theorem Program.Upholds.ensuring {p : Program α} {last : Program Unit} {s : σ} {I : σ → Prop}
    (h : p.Upholds c s fun s _ => I s) (hlast : ∀ s, I s → last.Upholds c s fun s _ => I s) :
    (p.ensuring last).Upholds c s fun s _ => I s := by
  have hend : ∀ {s} (q : Program α), (∀ s, I s → q.Upholds c s fun s _ => I s) → I s →
      (last >>= fun _ => q).Upholds c s fun s _ => I s := fun q hq hs =>
    (hlast _ hs).bind (fun s _ hs => hq s hs) (fun _ _ hs => hs) fun _ hs => hs
  induction p generalizing s with
  | done a => exact hend (.done a) (fun _ hs => hs) h
  | failed failure => exact hend (.failed failure) (fun _ hs => hs) h
  | cancelled => exact hend .cancelled (fun _ hs => hs) h
  | ask r next ih => exact ⟨h.1, fun x s' hs' => ih x (h.2 x s' hs')⟩

/-- What a script adds to the work of the service: reports, lines, and the end of its client. -/
def Request.IsOfTerminal : Request → Prop
  | .report _ | .say _ | .disconnect => True
  | _ => False

theorem Request.IsOfTerminal.sparesFlows {r : Request} (h : r.IsOfTerminal) : r.SparesFlows := by
  cases r <;> trivial

namespace Script

theorem asks_sayAll (lines : List String) : (sayAll lines).Asks Request.IsOfTerminal := by
  induction lines with
  | nil => trivial
  | cons line rest ih => exact ⟨trivial, fun _ => ih⟩

theorem asks_close : Repository.close.Asks Request.IsOfTerminal := by
  refine ⟨trivial, fun x => ?_⟩
  match x with
  | .error e => exact ⟨trivial, fun _ => ⟨trivial, fun _ => trivial⟩⟩
  | .ok () => exact ⟨trivial, fun _ => trivial⟩

/-- The sample is a flow with a trimmed name. -/
theorem holdsFlow_sampleFlow (now : Moment) :
    Fields.HoldsFlow (Value.keptFields (sampleFlow now).document) (sampleFlow now).name :=
  Fields.HoldsFlow.of_document _ (by decide +kernel) (by decide) (List.cons_ne_nil _ _) _ now

/-- The sample is saved under a free name. -/
theorem saveSample_upholds {flow : Flow} (hs : SavedFlows f made s)
    (hfields : Fields.HoldsFlow (Value.keptFields flow.document) flow.name)
    (hfree : f.IsFree flow.name none) :
    (saveSample flow).Upholds chronicle s fun s _ => EditedFlows f made s := by
  refine (createFlow_upholds hs hfields hfree).bind ?_ (fun _ _ hs => hs) fun _ hs => hs
  intro s flow hs
  refine (report_upholds keeps_editedFlows_quiet _ hs).bind_unit fun s hs => ?_
  exact ((asks_sayAll _).mono fun _ h => h.sparesFlows).keeps keeps_editedFlows hs

/-- The sample is saved, unless there is a flow of its name. -/
theorem importOnce_edits : importOnce.EditsOnce := by
  constructor
  intro f made s hs
  have hclock := keeps_savedFlows_quiet s .clock trivial hs
  refine ⟨trivial, fun now s' hmoves => ?_⟩
  have hs' := hclock.2 now s' hmoves
  refine (reportAll_upholds keeps_savedFlows_quiet _ hs').bind_unit fun s hs => ?_
  have hfields := holdsFlow_sampleFlow now
  generalize sampleFlow now = flow at hfields ⊢
  refine (getFlowByName_upholds flow.name none hs).bind ?_ (fun _ _ hs => hs.1.edited)
    fun _ hs => hs.1.edited
  rintro s (_ | existing) ⟨hs, hfree⟩
  · exact saveSample_upholds hs hfields (hfree rfl)
  · refine (report_upholds keeps_savedFlows_quiet _ hs).bind_unit fun s hs => ?_
    have hsay : ∀ line, (say line).Asks Request.SparesFlows := fun _ => ⟨trivial, fun _ => trivial⟩
    exact (hsay _).keeps keeps_editedFlows hs.edited

/-- A program whose failures are made known goes on to do nothing more. -/
theorem attempt_edits {p : Program α} {k : Except Failure α → Program β} (h : p.EditsOnce)
    (hk : ∀ x, (k x).Asks Request.SparesFlows) : (p.attempt >>= k).EditsOnce := by
  constructor
  intro f made s hs
  have hattempt : p.attempt.Upholds chronicle s fun s _ => EditedFlows f made s :=
    (h.upholds f made s hs).attempt (fun _ _ hs => hs) (fun _ _ hs => hs) fun _ hs => hs
  exact hattempt.bind (fun s x hs => (hk x).keeps keeps_editedFlows hs) (fun _ _ hs => hs)
    fun _ hs => hs

/-- What is done at the end of a program in any case adds no edit to its own. -/
theorem ensuring_edits {p : Program α} {last : Program Unit} (h : p.EditsOnce)
    (hlast : last.Asks Request.SparesFlows) : (p.ensuring last).EditsOnce :=
  ⟨fun f made s hs => (h.upholds f made s hs).ensuring fun _ hs =>
    hlast.keeps keeps_editedFlows hs⟩

/-- The import saves the sample or leaves the saved flows alone. -/
theorem importSample_edits : importSample.EditsOnce := by
  unfold importSample asScript
  have hclose : Repository.close.Asks Request.SparesFlows :=
    asks_close.mono fun _ h => h.sparesFlows
  refine attempt_edits (ensuring_edits (attempt_edits importOnce_edits fun x => ?_) hclose)
    fun x => ?_
  · cases x with
    | ok a => trivial
    | error failure => exact ⟨trivial, fun _ => trivial⟩
  · cases x <;> exact ⟨trivial, fun _ => trivial⟩

end Script

end Automation
