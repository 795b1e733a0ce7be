import Automation.Proofs.Runner.Trail
import Automation.Proofs.Service.Stages
import Automation.Proofs.Sweep.Watch

/-!
# Runs that are interrupted

A run that is interrupted in a pause has written nothing of its end: its record counts as running,
as it did from the beginning (`record_at_pause`), and the audit has a completed entry for each node
before the delay and a started one for the delay itself (`trail_at_pause`).
-/

set_option autoImplicit false

namespace Automation

open World (Outcome)
open Program

/-- A query that is not about test runs. -/
def Request.SparesRuns : Request → Prop
  | .query q => q.collection ≠ .testRuns
  | _ => True

/-- The entries of a run that stands in a delay after other nodes: completed ones for these, the
first one first, and a started one for the delay. -/
structure AuditEntry.StandIn (a : Assignment) (delay : Node) (before : List Node)
    (entries : List AuditEntry) : Prop where
  walk : a.flow.Walk (Runner.choice a) (delay :: before)
  isDelay : delay.type = "delay"
  listed : entries.map (fun e => (e.nodeId, e.nodeType)) = Runner.told (delay :: before)
  completed : ∀ e ∈ entries.dropLast, e.IsCompleted
  last : ∃ e, entries.getLast? = some e ∧ e.status = started

namespace Scene

variable {a : Assignment} {id : ObjectId} {began : Moment} {s s' : Scene} {r : Runner}

/-- The records of a run that has just begun: one of a test run, as it was made, and no audit
entries. -/
structure Fresh (a : Assignment) (id : ObjectId) (began : Moment) (s : Scene) : Prop where
  record : ∃ flowId start, a.flow.start? = some start ∧
    s.store.testRuns.findOne [.idIs id] =
      some ⟨id, (TestRun.begin flowId a.recipient start.id began).kept.document⟩
  entries : s.store.executionLogs.find [.textIs "test_run_id" a.runId] = []
  room : s.store.executionLogs.lastNumber < 10 ^ 23

/-- The record of a run says when it began, and nothing of an end. -/
def Unended (id : ObjectId) (began : Moment) (s : Scene) : Prop :=
  ∃ run : TestRun, s.store.testRuns.findOne [.idIs id] = some ⟨id, run.document⟩ ∧
    run.IsUnended ∧ run.startedAt = began.kept

theorem Fresh.unended (h : s.Fresh a id began) : s.Unended id began := by
  obtain ⟨flowId, start, -, hrecord⟩ := h.record
  exact ⟨_, hrecord, ⟨rfl, rfl, rfl, rfl⟩, rfl⟩

/-! ## The record -/

/-- The record of a run says nothing of an end whenever the run pauses. -/
def pausing (a : Assignment) (id : ObjectId) (began : Moment) : Setting Scene where
  fits s r := (∃ ms, r = .sleep ms) → s.Unended id began
  moves := Moves a id

/-- Queries that are not about test runs, and other requests, leave the record alone. -/
theorem keeps_unended : (pausing a id began).Keeps Request.SparesRuns (Unended id began) := by
  rintro s r hr ⟨run, hrecord, hrun⟩
  refine ⟨fun _ => ⟨run, hrecord, hrun⟩, fun x s' hmoves => ?_⟩
  obtain ⟨store, hleaves, hevolves⟩ := hmoves.leaves
  have hsame : store.testRuns = s.store.testRuns := by
    rcases hleaves.effect with hstore | ⟨q, y, he, hy⟩
    · exact congrArg Store.testRuns hstore
    · obtain rfl : r = .query q := congrArg Exchange.request he
      cases Store.answer_testRuns hy with
      | same heq => exact heq
      | inserted fields heq hq => exact absurd (by rw [hq]; rfl) hr
      | changed oid changes heq hq => exact absurd (by rcases hq with rfl | rfl <;> rfl) hr
      | deleted oid heq hq => exact absurd (by rw [hq]; rfl) hr
  rw [← hsame] at hrecord
  exact ⟨run, Store.findOne_evolves hevolves hrecord, hrun⟩

theorem sparesRuns_of_isQuiet {r : Request} (h : r.IsQuiet) : r.SparesRuns := by
  cases r <;> trivial

theorem sparesRuns_of_isOfAudit {r : Request} (h : r.IsOfAudit) : r.SparesRuns := by
  rcases h with h | h
  · exact sparesRuns_of_isQuiet h
  · match r, h with
    | .query (.insert .executionLogs _), _ => exact nofun
    | .query (.change .executionLogs _ _), _ => exact nofun

theorem sparesRuns_of_isOfVisit {n : Node} {r : Request} (h : r.IsOfVisit n) : r.SparesRuns := by
  cases r <;> trivial

/-- A visit that is named in the record leaves it without an end. -/
theorem Unended.visit (h : s.Unended id began) {now : Moment} {node : String}
    {x : Except StoreError Bool} (hmoves : s.Moves a id ⟨.query (.update .testRuns id
      ((TestRun.visiting node).insert "updated_at" (.date now))), x⟩ s') :
    s'.Unended id began := by
  obtain ⟨run, hrecord, hrun, hbegan⟩ := h
  obtain ⟨store, ⟨y, hy, -⟩, hevolves⟩ := hmoves.leaves
  obtain rfl := Store.answer_update hy
  have hrecord' : (s.store.testRuns.change id (Value.keptFields
      ((TestRun.visiting node).insert "updated_at" (.date now)))).findOne [.idIs id] =
        some ⟨id, (run.visit now.kept node).document⟩ := by
    rw [Shelf.findOne_change, hrecord, Option.map_some, Document.updated,
      TestRun.merge_visiting]
  exact ⟨_, Store.findOne_evolves hevolves hrecord',
    ⟨hrun.status, hrun.finishedAt, hrun.error, hrun.summary⟩, hbegan⟩

theorem open_pausing (s : Scene) : ¬ (pausing a id began).Refuses s := by
  rintro ⟨before, f, hmoves⟩
  obtain ⟨store, ⟨⟨b, hb⟩, -⟩, -⟩ := hmoves.leaves
  cases hb

/-- The outline of a run whose record says nothing of an end until the walk is over. -/
def unended (r : Runner) (a : Assignment) (hid : ObjectId.ofText? a.runId = some id)
    (began : Moment) : Outline (pausing a id began) r a where
  ready _ _ s := s.Unended id began
  named _ _ s := s.Unended id began
  begun _ _ _ s := s.Unended id began
  visited _ _ _ _ s := s.Unended id began
  ended _ _ := True
  lost s := s.Unended id began
  rejects _ _ := trivial
  names {n used s} hs _ := by
    have hquiet : (pausing a id began).Keeps Request.IsQuiet (Unended id began) :=
      fun s r hr => keeps_unended s r (sparesRuns_of_isQuiet hr)
    refine (updateTestRun_upholds a.runId (TestRun.visiting n.id)
      (J := fun _ s => s.Unended id began) hquiet hquiet (fun _ _ hs => hs) ?_ hs).mono ?_
    · intro oid hoid s now hs
      obtain rfl : oid = id := Option.some.inj (hoid.symm.trans hid)
      exact ⟨fun _ => hs, fun x s' hmoves => hs.visit hmoves⟩
    · rintro s o (⟨b, ho, hs⟩ | ⟨-, hrefuses, -⟩)
      · exact Or.inl ⟨b, ho, hs⟩
      · exact absurd hrefuses (open_pausing s)
  begins hs := begin_upholds (fun s r hr => keeps_unended s r (sparesRuns_of_isOfAudit hr)) _ hs
  visits {n used entry s} hs := by
    refine (Runner.visit_upholds (L := Unended id began) (W := fun _ => Unended id began)
      (fun s r hr => keeps_unended s r (sparesRuns_of_isOfVisit hr)) ?_ hs).mono
        fun s o ho => ho.ended
    intro d now ms hdelay hms hguard s hs
    have hsleep := keeps_unended (a := a) s (.sleep ms) trivial hs
    exact ⟨hsleep.1, fun s' => hsleep.2 _ s', fun s' => hsleep.2 _ s'⟩
  finishes hs :=
    (finish_upholds (fun s r hr => keeps_unended s r (sparesRuns_of_isOfAudit hr)) _ _ _
      hs).mono fun s o ⟨ho, hs⟩ => ⟨ho, fun _ => trivial, fun _ _ _ => hs⟩
  fails hs :=
    (finish_upholds (fun s r hr => keeps_unended s r (sparesRuns_of_isOfAudit hr)) _ _ _
      hs).mono fun s o ⟨ho, _⟩ => ⟨ho, trivial⟩
  remarks hs := report_upholds (fun s r hr => keeps_unended s r (sparesRuns_of_isQuiet hr)) _ hs

/-- A run never pauses once it has written its end. -/
theorem run_unended (r : Runner) (hid : ObjectId.ofText? a.runId = some id)
    (hs : s.Unended id began) :
    (r.run a).Upholds (pausing a id began) s fun _ _ => True := by
  refine (unended r a hid began).run (I := Unended id began) ?_ ?_ ?_ (fun _ _ => trivial) hs
  · exact fun s r hr => keeps_unended s r (sparesRuns_of_isQuiet hr)
  · intro s hs
    split
    · trivial
    · exact hs
  · intro ending s _
    refine (Runner.asks_conclude a ending).keeps (I := fun _ => True) ?_ trivial
    intro s r hr _
    refine ⟨?_, fun _ _ _ => trivial⟩
    rintro ⟨ms, rfl⟩
    exact hr.elim

variable {s₀ : Scene} {ms : Int} {next : Wake → Program Summary}

/-- The record of a run that pauses says nothing of an end. -/
theorem record_at_pause (hid : ObjectId.ofText? a.runId = some id) (hfresh : s₀.Fresh a id began)
    (hway : Leads (Moves a id) s₀ (r.run a) s (.ask (.sleep ms) next)) : s.Unended id began :=
  ((run_unended r hid hfresh.unended).leads hway).1 ⟨ms, rfl⟩

/-! ## The audit -/

theorem Fresh.logs (h : s.Fresh a id began) : s.store.Logs a.runId [] where
  found := h.entries
  own _ _ _ hx := absurd hx List.not_mem_nil
  given _ hx := absurd hx List.not_mem_nil
  sorted := List.Pairwise.nil

theorem Fresh.standing (h : s.Fresh a id began) :
    ∃ start, a.flow.start? = some start ∧ s.Standing a id (fun _ _ => True) start .zero := by
  obtain ⟨flowId, start, hstart, hrecord⟩ := h.record
  have hshows : s.Shows a id [] [] _ :=
    ⟨h.logs, hrecord, h.room, fun _ hx => absurd hx List.not_mem_nil, rfl⟩
  exact ⟨start, hstart, [], [], _, .start hstart, hshows, fun _ hx => absurd hx List.not_mem_nil,
    rfl, Or.inl rfl, trivial⟩

/-- The audit of a run that pauses tells of the nodes before the delay that it stands in. -/
theorem trail_at_pause (hid : ObjectId.ofText? a.runId = some id) (hfresh : s₀.Fresh a id began)
    (hway : Leads (Moves a id) s₀ (r.run a) s (.ask (.sleep ms) next)) :
    ∃ delay before entries, AuditEntry.StandIn a delay before entries ∧
      ∀ w : World, w.Holds s.store →
        (w.perform (Repository.getAuditEntries a.runId)).1 = .done entries := by
  obtain ⟨start, hstart, hstands⟩ := hfresh.standing
  have htells : s.Tells a id fun entries _ => InVisitOf "delay" entries :=
    ((run_upholds r hid hstart hstands).leads hway).1
  obtain ⟨visited, entries, run, hread, -, hfollows, e, hlast, hstarted, htype⟩ := htells.read
  obtain ⟨init, rfl⟩ := List.getLast?_eq_some_iff.1 hlast
  have hlisted := hfollows.listed
  rw [List.map_append, List.map_singleton] at hlisted
  rcases visited with _ | ⟨delay, before⟩
  · exact absurd hlisted (by simp [Runner.told])
  · -- the last entry is that of the last node
    have hsame : (e.nodeId, e.nodeType) = (delay.id, delay.type) := by
      have hends := congrArg List.getLast? hlisted
      rw [List.getLast?_concat, Runner.told, List.reverse_cons, List.map_append, List.map_singleton,
        List.getLast?_concat] at hends
      exact Option.some.inj hends
    have hwalk : a.flow.Walk (Runner.choice a) (delay :: before) :=
      hfollows.walk.resolve_left (List.cons_ne_nil _ _)
    refine ⟨delay, before, _, ⟨hwalk, ?_, hfollows.listed, hfollows.completed, e, hlast, hstarted⟩,
      hread⟩
    exact (congrArg Prod.snd hsame).symm.trans htype

/-- A run that has just begun has no audit entries. -/
theorem Fresh.read (h : s.Fresh a id began) {w : World} (hw : w.Holds s.store) :
    (w.perform (Repository.getAuditEntries a.runId)).1 = .done [] :=
  h.logs.read hw

/-! ## Stages -/

/-- The exchanges of a run that goes well lead from one stage to the next. -/
theorem stage_moves {e : Exchange} (h : s.Moves a id e s') (stage : Stage) :
    ∃ stage', stage.Moves e stage' := by
  obtain ⟨store, hleaves, -⟩ := h.leaves
  obtain ⟨r, x⟩ := e
  cases r with
  | connect =>
    obtain ⟨b, rfl⟩ := hleaves.1
    exact ⟨stage, rfl⟩
  | sleep ms => cases x <;> exact ⟨_, rfl⟩
  | query q =>
    cases q with
    | update c oid changes => cases c <;> exact ⟨_, rfl⟩
    | _ => exact ⟨stage, rfl⟩
  | _ => exact ⟨stage, rfl⟩

theorem stage_leads {α : Type} {p p' : Program α} (h : Leads (Moves a id) s p s' p')
    (stage : Stage) : ∃ stage', Leads Stage.Moves stage p stage' p' := by
  induction h generalizing stage with
  | refl s p => exact ⟨stage, .refl _ _⟩
  | step hmoves hrest ih =>
    obtain ⟨stage', hmoves'⟩ := stage_moves hmoves stage
    obtain ⟨stage'', hrest'⟩ := ih stage'
    exact ⟨stage'', .step hmoves' hrest'⟩

end Scene

end Automation
