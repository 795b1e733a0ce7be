import Automation.Proofs.Runner.Outline
import Automation.Proofs.Service.Updates

/-!
# The stages of a run

A run is under way until it writes the end of its record, and it writes nothing afterwards; a run
that is cancelled in a pause writes nothing any more. So a run writes to its own record only, in one
of the three ways, and ends no record but one that it has left running (`run_upholds`). That holds
whatever the store, the clock and the delivery service answer, as long as there is a client of the
store; whether an update takes effect is not said.
-/

set_option autoImplicit false

namespace Automation

open World (Outcome)
open Program
open TestRun (Update)

/-- A reason is never empty. -/
theorem Failure.reason_ne_empty (f : Failure) : f.reason ≠ "" := by
  have hname : f.kind.name ≠ "" := by
    cases f.kind with
    | store kind => cases kind <;> decide
    | _ => decide
  unfold Failure.reason
  split
  · exact hname
  · rename_i hmessage
    intro hempty
    rw [hempty] at hmessage
    exact hmessage rfl

/-- Where a run stands with its record. -/
inductive Stage where
  | underway
  | concluded
  | cancelled
  deriving DecidableEq, Repr

/-- Whether a change of a test run sets its status. -/
def Fields.endsRun (changes : Fields) : Bool := (changes.get? "status").isSome

/-- The end of a walk as an update of the record. -/
def Ending.update (finishedAt : Moment) : Ending → Update
  | .completed used last => .complete finishedAt (some last) (summary (.completed used last))
  | .failed used f => .fail finishedAt f.reason (summary (.failed used f))

theorem Ending.update_fields (finishedAt now : Moment) (ending : Ending) :
    (ending.update finishedAt).fields now =
      (ending.change finishedAt).insert "updated_at" (.date now) := by
  cases ending <;> rfl

theorem Ending.update_isSound (finishedAt : Moment) (ending : Ending) :
    (ending.update finishedAt).IsSound := by
  cases ending with
  | completed used last => rfl
  | failed used f => exact ⟨f.reason_ne_empty, rfl⟩

namespace Stage

/-- The stage after an exchange. A client of the store can always be made. -/
def Moves (s : Stage) : Exchange → Stage → Prop
  | ⟨.connect, .error _⟩, _ => False
  | ⟨.sleep _, .cancelled⟩, s' => s' = .cancelled
  | ⟨.query (.update .testRuns _ changes), _⟩, s' =>
    s' = if changes.endsRun then .concluded else s
  | _, s' => s' = s

/-- Requests of a run that is under way, apart from the quiet ones: it visits nodes, audits visits,
and updates its record. -/
inductive Acts (oid : ObjectId) : Request → Prop
  | post (p : Mail.Post) : Acts oid (.post p)
  | sleep (ms : Int) : Acts oid (.sleep ms)
  | enter (fields : Fields) : Acts oid (.query (.insert .executionLogs fields))
  | change (id : ObjectId) (changes : Fields) :
      Acts oid (.query (.change .executionLogs id changes))
  | update {u : Update} (now : Moment) (hu : u.IsSound) :
      Acts oid (.query (.update .testRuns oid (u.fields now)))

/-- The stages of a run with a record as a setting. -/
def setting (oid : ObjectId) : Setting Stage where
  fits s r := r.IsQuiet ∨ s = .underway ∧ Acts oid r
  moves := Moves

variable {oid : ObjectId} {r : Runner} {a : Assignment}

/-- Quiet requests change no stage. -/
theorem keeps_quiet (stage : Stage) : (setting oid).Keeps Request.IsQuiet (· = stage) := by
  rintro s q hq rfl
  refine ⟨Or.inl hq, fun x s' hmoves => ?_⟩
  rcases hq.eq with rfl | ⟨e, rfl⟩ | rfl
  · exact hmoves
  · exact hmoves
  · cases x with
    | ok b => exact hmoves
    | error f => exact hmoves.elim

theorem keeps_audit : (setting oid).Keeps Request.IsOfAudit (· = underway) := by
  intro s q hq hs
  rcases hq with hq | hq
  · exact keeps_quiet underway s q hq hs
  · match q, hq with
    | .query (.insert .executionLogs fields), _ =>
      exact ⟨Or.inr ⟨hs, Acts.enter fields⟩, fun x s' hmoves => hmoves.trans hs⟩
    | .query (.change .executionLogs id changes), _ =>
      exact ⟨Or.inr ⟨hs, Acts.change id changes⟩, fun x s' hmoves => hmoves.trans hs⟩

theorem keeps_visit {n : Node} : (setting oid).Keeps (Request.IsOfVisit n) (· = underway) := by
  intro s q hq hs
  cases q with
  | post p => exact ⟨Or.inr ⟨hs, Acts.post p⟩, fun x s' hmoves => hmoves.trans hs⟩
  | clock => exact keeps_quiet underway s _ trivial hs
  | report e => exact keeps_quiet underway s _ trivial hs
  | connect => exact keeps_quiet underway s _ trivial hs
  | _ => exact hq.elim

/-- An update is written while the run is under way, and ends it if it ends the record. -/
theorem update_upholds {u : Update} (hu : u.IsSound) (now : Moment) {s : Stage}
    (hs : s = .underway) :
    (setting oid).fits s (.query (.update .testRuns oid (u.fields now))) ∧
      ∀ (x : Except StoreError Bool) s',
        (setting oid).moves s ⟨.query (.update .testRuns oid (u.fields now)), x⟩ s' →
          s' = if u.isEnd then .concluded else .underway := by
  refine ⟨Or.inr ⟨hs, Acts.update now hu⟩, fun x s' hmoves => ?_⟩
  have hends : (u.fields now).endsRun = u.isEnd := Update.isSome_status now u
  rw [show s' = if (u.fields now).endsRun then .concluded else s from hmoves, hends, hs]

/-- The outline of a run: it is under way until its end is recorded. -/
def outline (r : Runner) (a : Assignment) (hid : ObjectId.ofText? a.runId = some oid) :
    Outline (setting oid) r a where
  ready _ _ s := s = .underway
  named _ _ s := s = .underway
  begun _ _ _ s := s = .underway
  visited _ _ _ _ s := s = .underway
  ended _ s := s = .underway
  lost s := s = .cancelled
  rejects hs _ := hs
  names {n used s} hs _ := by
    refine (updateTestRun_upholds a.runId (TestRun.visiting n.id) (J := fun _ => (· = underway))
      (keeps_quiet _) (keeps_quiet _) (fun _ _ hs => hs) ?_ hs).mono ?_
    · intro oid' hid' s now hs
      obtain rfl : oid' = oid := Option.some.inj (hid'.symm.trans hid)
      obtain ⟨hfits, hmoves⟩ := update_upholds (u := .visit n.id) trivial now hs
      exact ⟨hfits, fun x s' h => hmoves x s' h⟩
    · rintro s o (⟨b, ho, hs⟩ | ⟨⟨f, ho⟩, -, hs⟩)
      · exact Or.inl ⟨b, ho, hs⟩
      · exact Or.inr ⟨f, ho, hs⟩
  begins hs := begin_upholds keeps_audit _ hs
  visits {n used entry s} hs := by
    refine (Runner.visit_upholds (L := (· = cancelled)) (W := fun _ => (· = underway))
      keeps_visit ?_ hs).mono fun s o ho => ho.ended
    intro d now ms hdelay hms hguard s hs
    exact ⟨Or.inr ⟨hs, Acts.sleep ms⟩, fun s' hmoves => hmoves.trans hs, fun s' hmoves => hmoves⟩
  finishes hs := (finish_upholds keeps_audit _ _ _ hs).mono fun s o ⟨ho, hs⟩ =>
    ⟨ho, fun _ => hs, fun _ _ _ => hs⟩
  fails hs := finish_upholds keeps_audit _ _ _ hs
  remarks hs := report_upholds (keeps_quiet cancelled) _ hs

theorem records (a : Assignment) (hid : ObjectId.ofText? a.runId = some oid) :
    Runner.Records (setting oid) a (fun _ s => s = underway) fun _ _ s => s = concluded where
  keepsBefore _ := keeps_quiet underway
  keepsAfter _ _ := keeps_quiet concluded
  unnamed hnone := by
    rw [hid] at hnone
    cases hnone
  named oid' hid' ending s finishedAt now hs := by
    obtain rfl : oid' = oid := Option.some.inj (hid'.symm.trans hid)
    obtain ⟨hfits, hmoves⟩ := update_upholds (ending.update_isSound finishedAt) now hs
    rw [Ending.update_fields] at hfits hmoves
    refine ⟨hfits, fun x s' h => (hmoves x s' h).trans ?_⟩
    cases ending <;> rfl
  refused _ _ _ _ _ hs := hs

/-- How a run ends: when it has written the end of its record, or when it was cancelled. -/
def Ends {α : Type} (s : Stage) (o : Outcome α) : Prop :=
  (s = .concluded ∧ ∃ x, o = .done x) ∨ s = .cancelled ∧ o = .cancelled

/-- A run writes to its own record only, ends it once, and writes nothing afterwards. -/
theorem run_upholds (r : Runner) (a : Assignment) (hid : ObjectId.ofText? a.runId = some oid) :
    (r.run a).Upholds (setting oid) .underway Ends := by
  refine (outline r a hid).run (keeps_quiet underway) ?_ ?_ ?_ rfl
  · intro s hs
    split <;> exact hs
  · intro ending s hs
    refine (Runner.conclude_upholds (records a hid) hs).mono ?_
    rintro s o (⟨b, ending', ho, hs⟩ | ⟨-, before, f, hmoves⟩)
    · exact Or.inl ⟨hs, _, ho⟩
    · exact hmoves.elim
  · exact fun s hs => Or.inr ⟨hs, rfl⟩

/-- So does a run in the background, whose summary nobody waits for. -/
theorem asTask {p : Program Summary} {stage : Stage}
    (h : p.Upholds (setting oid) stage Ends) :
    (p >>= fun _ => Program.done ()).Upholds (setting oid) stage Ends := by
  refine Upholds.bind h ?_ ?_ ?_
  · rintro s summary (⟨hs, -⟩ | ⟨-, ho⟩)
    · exact Or.inl ⟨hs, (), rfl⟩
    · cases ho
  · rintro s f (⟨-, x, ho⟩ | ⟨-, ho⟩) <;> cases ho
  · rintro s (⟨-, x, ho⟩ | ⟨hs, -⟩)
    · cases ho
    · exact Or.inr ⟨hs, rfl⟩

/-- So does the task of a run. -/
theorem runTask_upholds (w : World) (flow : Flow) (recipient : String) {run : String}
    (hid : ObjectId.ofText? run = some oid) :
    (w.runTask flow recipient run).Upholds (setting oid) .underway Ends :=
  asTask (run_upholds w.runner ⟨flow, recipient, run⟩ hid)

end Stage

end Automation
