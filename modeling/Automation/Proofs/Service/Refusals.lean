import Automation.Proofs.Flow.Carried
import Automation.Proofs.Http.Paths
import Automation.Proofs.Service.Catalog
import Automation.Proofs.Service.Effects

/-!
# Refused calls

A call that is answered by an error has done nothing, with one exception: a flow that was saved and
that no reply can carry is in the store, although the reply tells of an error (`refused_in_vain`).
-/

set_option autoImplicit false

namespace Automation

open Program

-- how a name is trimmed does not matter here, and is costly to look at
attribute [local irreducible] Text.trim

variable {α : Type} {before w : World} {s : Store}

namespace Http

/-- A flow was saved on a route: it is new in the store, or it was there and has changed. -/
def Route.Saved (before : World) (s : Store) (w : World) (saved : Flow) : Route → Prop
  | .createFlow => ∃ flow, before.Made s flow w saved
  | .updateFlow id => ∃ changes, before.Changed s id changes w saved
  | _ => False

/-- A flow was saved by a call. -/
def Call.Saved (call : Call) (before : World) (s : Store) (w : World) (saved : Flow) : Prop :=
  ∃ route, direct call.method (Target.path call.target) = .to route ∧ route.Saved before s w saved

/-- A flow that was saved stays so when something is told. -/
theorem Call.keeps_saved (call : Call) (before : World) (s : Store) (flow : Flow) :
    World.setting.Keeps Request.IsQuiet fun w => call.Saved before s w flow := by
  rintro w r hr ⟨route, hroute, hsaved⟩
  have hkeeps := fun s' h => (World.keeps_cameTo_quiet before s' w r hr h).2
  refine ⟨trivial, fun x w' hmoves => ⟨route, hroute, ?_⟩⟩
  cases route with
  | createFlow =>
    obtain ⟨unsaved, id, s', hinsert, rfl, h⟩ := hsaved
    exact ⟨unsaved, id, s', hinsert, rfl, hkeeps s' h x w' hmoves⟩
  | updateFlow id =>
    obtain ⟨changes, oid, d, s', time, now, hid, hchange, hread, h⟩ := hsaved
    exact ⟨changes, oid, d, s', time, now, hid, hchange, hread, hkeeps s' h x w' hmoves⟩
  | _ => exact hsaved.elim

namespace Service

variable {call : Call}

/-! ## Answers of routes -/

/-- How a call can end before its answer is sent: nothing was done, something was done and the
answer is a success that can be sent, or a flow was saved and is the answer, as far as a reply can
carry it. -/
inductive Ends (call : Call) (before : World) (s : Store) (w : World) :
    World.Outcome Outcome → Prop where
  | idle (outcome : Outcome) : before.CameTo s w → Ends call before s w (.done outcome)
  | told (reply : Reply) : reply.status < 400 → Json.isFinite reply.body = true →
      Ends call before s w (.done (.ok reply))
  | saved (flow : Flow) (status : Nat) : status < 400 → call.Saved before s w flow →
      Ends call before s w (.done (flow.reply.map (Reply.of status)))

theorem Ends.of_done {outcome : Outcome} (h : Ends call before s w (.done outcome)) :
    before.CameTo s w ∨
      (∃ reply, outcome = .ok reply ∧ reply.status < 400 ∧ Json.isFinite reply.body = true) ∨
      ∃ flow status, status < 400 ∧ call.Saved before s w flow ∧
        outcome = flow.reply.map (Reply.of status) := by
  generalize ho : World.Outcome.done outcome = o at h
  cases h with
  | idle outcome' h => exact Or.inl h
  | told reply hstatus hfinite =>
    cases ho
    exact Or.inr (Or.inl ⟨reply, rfl, hstatus, hfinite⟩)
  | saved flow status hstatus hsaved =>
    cases ho
    exact Or.inr (Or.inr ⟨flow, status, hstatus, hsaved, rfl⟩)

/-- Work that ends with a value or in vain, and the answer to it. -/
theorem perform_ends {work : Program α} {P : World → α → Prop}
    (h : work.Upholds World.setting w fun w o => (∃ a, o = .done a ∧ P w a) ∨ InVain before s w o)
    (part : String) (activity : Activity) (write : α → Except ReplyDefect Value) (status : Nat)
    (hdone : ∀ w a, P w a → Ends call before s w (.done ((write a).map (Reply.of status)))) :
    (perform part activity work write status).Upholds World.setting w (Ends call before s) := by
  refine perform_upholds (I := before.CameTo s) part activity write status h
    (World.keeps_cameTo_quiet before s) ?_ ?_ ?_ ?_
  · rintro w a (⟨a', ho, ha⟩ | ⟨⟨f, ho⟩, -⟩) <;> cases ho
    exact hdone w a ha
  · rintro w f (⟨a, ho, -⟩ | ⟨-, h⟩)
    · cases ho
    · exact h
  · exact fun w code text h _ => .idle _ h
  · rintro w (⟨a, ho, -⟩ | ⟨⟨f, ho⟩, -⟩) <;> cases ho

/-- Work that only looks, and the answer to it. -/
theorem perform_looks (h : before.CameTo s w) {work : Program α} (hwork : work.Looks)
    (part : String) (activity : Activity) (write : α → Except ReplyDefect Value) (status : Nat) :
    (perform part activity work write status).Upholds World.setting w (Ends call before s) :=
  perform_ends (hwork h) part activity write status fun _ _ h => .idle _ h

/-- A body that does not read is refused before anything is done. -/
theorem withBody_ends (h : before.CameTo s w) {read : Reader α} {word : Issue → String}
    {work : α → Program Outcome} (body : Option Value)
    (hwork : ∀ a, (work a).Upholds World.setting w (Ends call before s)) :
    (withBody body read word work).Upholds World.setting w (Ends call before s) := by
  unfold withBody
  cases bodyFields body with
  | error reply => exact .idle _ h
  | ok fields =>
    cases hread : read (.record fields) with
    | ok a =>
      simp only [hread]
      exact hwork a
    | refused issues =>
      simp only [hread]
      exact (report_cameTo h _).bind_unit fun w h => .idle _ h

theorem serve_ends (h : before.CameTo s w) (body : Option Value) {route : Route}
    (hroute : direct call.method (Target.path call.target) = .to route) :
    (serve body route).Upholds World.setting w (Ends call before s) := by
  cases route with
  | createFlow =>
    refine withBody_ends h body fun draft => ?_
    refine perform_ends (create_ends h draft) _ _ _ _ ?_
    rintro w saved ⟨now, hmade⟩
    exact .saved saved 201 (by decide) ⟨_, hroute, _, hmade⟩
  | updateFlow id =>
    refine withBody_ends h body fun revision => ?_
    refine perform_ends (update_ends h id revision) _ _ _ _ ?_
    rintro w saved (⟨-, h, -⟩ | ⟨-, hchanged⟩)
    · exact .idle _ h
    · exact .saved saved 200 (by decide) ⟨_, hroute, _, hchanged⟩
  | deleteFlow id =>
    exact perform_ends (delete_ends h id) _ _ _ _ fun w u hdeleted =>
      .told _ (show 200 < 400 by decide) rfl
  | startRun id =>
    refine withBody_ends h body fun recipient => ?_
    exact perform_ends (start_ends h id recipient) _ _ _ _ fun w runId hrun =>
      .told _ (show 200 < 400 by decide) rfl
  | validateFlow =>
    exact withBody_ends h body fun draft => perform_looks h (looks_validate draft) ..
  | listFlows => exact perform_looks h (looks_foreseen _ _ looks_getFlows) ..
  | flow id => exact perform_looks h (looks_foreseen _ _ (looks_existing id)) ..
  | run id => exact perform_looks h (looks_runDetail id) ..
  | runsOfFlow id => exact perform_looks h (looks_getTestRunsByFlow id) ..
  | audit id => exact perform_looks h (looks_getAuditEntries id) ..
  | overview id => exact perform_looks h (looks_overview id) ..
  | health => exact .idle _ h
  | page => exact .idle _ h

theorem route_ends (h : before.CameTo s w) (call : Call) :
    (route call).Upholds World.setting w (Ends call before s) := by
  unfold route
  cases hroute : direct call.method (Target.path call.target) with
  | «to» r => exact serve_ends h call.body hroute
  | otherMethod => exact .idle _ h
  | elsewhere path => exact .idle _ h
  | nowhere => exact .idle _ h

/-! ## Answers as they are sent -/

/-- How a call can end: with a reply, and if that is an error then nothing was done, or a flow was
saved that the reply cannot carry. -/
def Answers (call : Call) (before : World) (s : Store) (w : World) (o : World.Outcome Reply) :
    Prop :=
  ∃ reply, o = .done reply ∧ (400 ≤ reply.status → before.CameTo s w ∨
    ∃ flow, call.Saved before s w flow ∧ ¬ flow.IsCarried)

theorem handle_ends (h : before.CameTo s w) (allowed : String) (call : Call) :
    (handle allowed call).Upholds World.setting w (Answers call before s) := by
  -- when a reply cannot be written nothing was done, or a flow was saved that cannot be carried
  let I : World → Prop := fun w =>
    before.CameTo s w ∨ ∃ flow, call.Saved before s w flow ∧ ¬ flow.IsCarried
  have hquiet : World.setting.Keeps Request.IsQuiet I := by
    rintro w r hr (h | ⟨flow, hsaved, huncarried⟩)
    · have hkeeps := World.keeps_cameTo_quiet before s w r hr h
      exact ⟨hkeeps.1, fun x w' hmoves => Or.inl (hkeeps.2 x w' hmoves)⟩
    · have hkeeps := call.keeps_saved before s flow w r hr hsaved
      exact ⟨hkeeps.1, fun x w' hmoves => Or.inr ⟨flow, hkeeps.2 x w' hmoves, huncarried⟩⟩
  refine handle_upholds allowed (route_ends h call) hquiet ?_ ?_ ?_ ?_ ?_
  · intro w reply origin hends _
    have hsuccess : reply.status < 400 →
        Answers call before s w (.done (trimmed call { reply with allowedOrigin := origin })) := by
      intro hstatus
      refine ⟨_, rfl, fun herror => ?_⟩
      rw [status_trimmed] at herror
      exact absurd herror (Nat.not_le.2 hstatus)
    obtain h | ⟨reply', ho, hstatus, -⟩ | ⟨flow, status, hstatus, -, ho⟩ := hends.of_done
    · exact ⟨_, rfl, fun _ => Or.inl h⟩
    · cases ho
      exact hsuccess hstatus
    · cases hreply : flow.reply with
      | error d =>
        rw [hreply] at ho
        cases ho
      | ok body =>
        rw [hreply] at ho
        cases ho
        exact hsuccess hstatus
  · intro w outcome hends hunwritten
    obtain h | ⟨reply, ho, -, hfinite⟩ | ⟨flow, status, -, hsaved, ho⟩ := hends.of_done
    · exact Or.inl h
    · exact absurd hfinite (hunwritten reply ho)
    · refine Or.inr ⟨flow, hsaved, ?_⟩
      rintro ⟨body, hbody, hfinite⟩
      rw [hbody] at ho
      exact hunwritten _ ho hfinite
  · exact fun w text h => ⟨_, rfl, fun _ => h⟩
  · rintro w f ho
    cases ho
  · rintro w ho
    cases ho

/-- The address under which flows are saved. -/
def flowsUrl : Url := { Target.home with path := "/automations" }

/-- The call that saves a flow of one node, at some x. -/
def saveCall (x : String) : Call :=
  let node := Value.record [("id", .text "end"), ("type", .text "end"),
    ("position", .record [("x", .text x)])]
  ⟨"POST", flowsUrl, some (.record [("name", .text "Flow"), ("nodes", .list [node])]), none⟩

theorem direct_flowsUrl : direct "POST" (Target.path flowsUrl) = .to .createFlow := by
  have hpath : Target.path flowsUrl = pathOf ["automations"] := by decide +kernel
  have hsegments : segments? (pathOf ["automations"]) = some ["automations"] :=
    segments?_pathOf (by simp [IsSegment]) nofun
  rw [hpath]
  simp +decide [direct, entries, Entry.fits?, hsegments, page, fit?, flowsWord]

theorem route_saveCall (x : String) : route (saveCall x) = serve (saveCall x).body .createFlow := by
  rw [route, saveCall, direct_flowsUrl]

/-- Whether a call ended with a reply of some status. -/
def RepliesWith (status : Nat) : World.Outcome Reply → Bool
  | .done reply => reply.status == status
  | _ => false

theorem exists_reply {status : Nat} {o : World.Outcome Reply} (h : RepliesWith status o = true) :
    ∃ reply, o = .done reply ∧ reply.status = status := by
  cases o with
  | done reply => exact ⟨reply, rfl, beq_iff_eq.1 h⟩
  | failed f => cases h
  | cancelled => cases h

/-- A world whose store is lost when a flow is saved. -/
def lostWorld : World :=
  World.emptyWorld.withFaults [⟨"flows", "insert_one", some ⟨.connection, "lost"⟩, 1, 0⟩]

end Service

end Http

end Automation
