import Automation.Proofs.Runner.Agreement
import Automation.Proofs.Runner.Outline
import Automation.Proofs.Store.Evolution

/-!
# A run under watch

A `Watch` is what somebody sees of a run who looks at the clock: the time, how long the run has
slept, and the record that was made for it. In this setting a pause lasts exactly as long as it is
meant to, unless it is cancelled; everything else may take any time, queries may come to nothing,
and others go on with the store. What the guard allows at each pause bounds what the run has slept
altogether: at no point has it slept more than a day, the pause it stands in included
(`start_upholds`).
-/

set_option autoImplicit false

namespace Automation

open World (Outcome passing)
open Program

/-- What is seen of a run: the time, how long it has slept, the record that was made for it with the
moment at which it began, and the store. -/
structure Watch where
  clock : Int
  slept : Int
  record : Option (ObjectId × Moment)
  store : Store

/-- The record of a test run that an exchange made, with the moment at which it began. -/
def Exchange.made? : Exchange → Option (ObjectId × Moment)
  | ⟨.query (.insert .testRuns fields), .ok (some id)⟩ =>
    match fields.get? "started_at" with
    | some (.date m) => some (id, m)
    | _ => none
  | _ => none

namespace Watch

/-- How an exchange takes its time. -/
def Times (s : Watch) (s' : Watch) : Exchange → Prop
  | ⟨.sleep ms, .elapsed⟩ =>
    s'.clock = s.clock + passing ms ∧ s'.slept = s.slept + passing ms
  | ⟨.sleep ms, .cancelled⟩ =>
    s'.clock ≤ s.clock + passing ms ∧ s'.slept = s.slept + (s'.clock - s.clock)
  | ⟨.clock, now⟩ => s.clock ≤ now.instant ∧ now.instant ≤ s'.clock ∧ s'.slept = s.slept
  | _ => s'.slept = s.slept

/-- How an exchange leaves the store, before others go on with it. -/
def Leaves (s : Watch) (store : Store) : Exchange → Prop
  | ⟨.query q, x⟩ => s.store.Gives q x store
  | _ => store = s.store

/-- What one exchange of a run may change. -/
structure Moves (s : Watch) (e : Exchange) (s' : Watch) : Prop where
  clock : s.clock ≤ s'.clock
  times : s.Times s' e
  record : s'.record = e.made?.or s.record
  store : ∃ store, s.Leaves store e ∧ store.Evolves (fun _ => Query.SparesStart) s'.store

/-- The record that was made says when the run began. -/
def IsDated (s : Watch) : Prop :=
  ∀ id startedAt, s.record = some (id, startedAt) → s.store.Begins id startedAt

/-- The longest time that a run may sleep altogether, in microseconds. -/
def longest : Int := Guard.maxTotalMs * 1000

/-- The run has slept for so long, which is not too long. -/
structure Rests (time : Int) (s : Watch) : Prop where
  dated : s.IsDated
  slept : s.slept = time
  le : time ≤ longest

end Watch

/-- The time that a request pauses for. -/
def Request.pause : Request → Int
  | .sleep ms => passing ms
  | _ => 0

/-- Requests that neither pause nor set again when a test run began. -/
def Request.IsMild : Request → Prop
  | .sleep _ => False
  | .query q => q.SparesStart
  | _ => True

namespace Watch

/-- A run is watched: its record is dated, and with its next pause it has not slept for too long. -/
def setting : Setting Watch where
  fits s r := s.IsDated ∧ s.slept + r.pause ≤ longest
  moves := Moves

variable {s s' : Watch}

/-- What anyone does but a pause leaves a record dated. -/
theorem IsDated.moves {r : Request} {x : r.Answer} (h : s.IsDated)
    (hmild : ∀ q, r = .query q → q.SparesStart) (hmoves : s.Moves ⟨r, x⟩ s') : s'.IsDated := by
  obtain ⟨store, hleaves, hevolves⟩ := hmoves.store
  intro id startedAt hrecord
  rw [hmoves.record] at hrecord
  refine Store.Begins.evolves ?_ hevolves
  cases hmade : Exchange.made? ⟨r, x⟩ with
  | none =>
    -- the record was made before
    rw [hmade, Option.none_or] at hrecord
    have hbegins := h id startedAt hrecord
    cases r with
    | query q => exact hbegins.gives (hmild q rfl) hleaves
    | _ =>
      obtain rfl : store = s.store := hleaves
      exact hbegins
  | some made =>
    rw [hmade, Option.some_or] at hrecord
    obtain rfl : made = (id, startedAt) := Option.some.inj hrecord
    unfold Exchange.made? at hmade
    split at hmade
    · rename_i fields id' heq
      cases heq
      split at hmade
      · rename_i m hstart
        cases hmade
        rcases hleaves with ⟨y, hy, hx⟩ | ⟨-, ⟨e, hx⟩ | hx⟩
        · cases hx
          exact Store.begins_of_insert hy hstart
        · cases hx
        · cases hx
      · cases hmade
    · cases hmade

/-- Without a pause a run has slept as long as before. -/
theorem keeps_rests (time : Int) : setting.Keeps Request.IsMild (Rests time) := by
  intro s r hr hs
  have hpause : r.pause = 0 := by
    cases r with
    | sleep ms => exact hr.elim
    | _ => rfl
  refine ⟨⟨hs.dated, by rw [hpause, hs.slept, Int.add_zero]; exact hs.le⟩, fun x s' hmoves => ?_⟩
  have hslept : s'.slept = s.slept := by
    have htimes := hmoves.times
    cases r with
    | sleep ms => exact hr.elim
    | clock => exact htimes.2.2
    | _ => exact htimes
  refine ⟨hs.dated.moves ?_ hmoves, by rw [hslept, hs.slept], hs.le⟩
  rintro q rfl
  exact hr

/-- At every time the run has slept for some time that is not too long. -/
def Idles (s : Watch) : Prop := ∃ time, s.Rests time

theorem keeps_idles : setting.Keeps Request.IsMild Idles := by
  rintro s r hr ⟨time, hs⟩
  obtain ⟨hfits, hmoves⟩ := keeps_rests time s r hr hs
  exact ⟨hfits, fun x s' h => ⟨time, hmoves x s' h⟩⟩

end Watch

/-! ## What a run asks for -/

theorem isMild_of_isQuiet {r : Request} (h : r.IsQuiet) : r.IsMild := by
  cases r <;> trivial

theorem isMild_of_isOfAudit {r : Request} (h : r.IsOfAudit) : r.IsMild := by
  rcases h with h | h
  · exact isMild_of_isQuiet h
  · obtain ⟨fields, rfl⟩ | ⟨id, changes, rfl⟩ := h.eq <;> trivial

theorem isMild_of_isOfVisit {n : Node} {r : Request} (h : r.IsOfVisit n) : r.IsMild := by
  cases r <;> trivial

theorem isPatient_of_isMild {r : Request} (x : r.Answer) (h : r.IsMild) :
    Exchange.IsPatient ⟨r, x⟩ := by
  cases r with
  | sleep ms => exact h.elim
  | _ => trivial

theorem asks_updateTestRun (id : String) {changes : Fields}
    (h : changes.get? "started_at" = none) :
    (Repository.updateTestRun id changes).Asks Request.IsMild := by
  refine Asks.updateTestRun (fun _ => isMild_of_isQuiet) id fun oid now => ?_
  show Fields.get? (changes.insert "updated_at" (.date now)) "started_at" = none
  rw [Fields.get?_insert, if_neg (by decide), h]

namespace Runner

theorem asks_start (flow : Flow) (recipient : String) :
    (start flow recipient).Asks Request.IsMild := by
  have hadmission := (asks_admission flow).mono fun _ => isMild_of_isQuiet
  refine hadmission.bind fun admitted => ⟨trivial, fun now => ?_⟩
  refine (Asks.createTestRun (fun _ => isMild_of_isQuiet) trivial).bind fun saved => ?_
  cases saved with
  | none => trivial
  | some run => exact ⟨trivial, fun _ => ⟨trivial, fun _ => trivial⟩⟩

theorem asks_conclude (a : Assignment) (ending : Ending) :
    (conclude a ending).Asks Request.IsMild :=
  Asks.conclude (fun _ => isMild_of_isQuiet) a ending fun ending _ _ _ => by cases ending <;> rfl

end Runner

/-! ## The outline of a watched run -/

namespace Watch

variable {r : Runner} {a : Assignment} {n : Node} {used : Usage}

/-- Before a visit of a node the run has slept for what its usage counts. -/
structure Stands (a : Assignment) (n : Node) (used : Usage) (s : Watch) : Prop where
  mem : n ∈ a.flow.nodes
  nonneg : 0 ≤ used.delayMs
  rests : s.Rests (used.delayMs * 1000)

/-- After a visit the run has slept for what its usage then counts. -/
def Visited (a : Assignment) (s : Watch) : Except Failure Step → Prop
  | .ok step => 0 ≤ step.used.delayMs ∧ s.Rests (step.used.delayMs * 1000) ∧
    ∀ next, step.next = some next → next ∈ a.flow.nodes
  | .error _ => s.Idles

theorem keeps_stands : setting.Keeps Request.IsMild (Stands a n used) := by
  rintro s r hr ⟨hmem, hnonneg, hs⟩
  obtain ⟨hfits, hmoves⟩ := keeps_rests _ s r hr hs
  exact ⟨hfits, fun x s' h => ⟨hmem, hnonneg, hmoves x s' h⟩⟩

theorem keeps_visited {x : Except Failure Step} :
    setting.Keeps Request.IsMild fun s => Visited a s x := by
  cases x with
  | error f => exact keeps_idles
  | ok step =>
    rintro s r hr ⟨hnonneg, hs, hnext⟩
    obtain ⟨hfits, hmoves⟩ := keeps_rests _ s r hr hs
    exact ⟨hfits, fun x s' h => ⟨hnonneg, hmoves x s' h, hnext⟩⟩

/-- A visit sleeps no longer than the guard allows, and for what its usage counts afterwards. -/
theorem visit_upholds (hwell : a.flow.WellFormed) {s : Watch} (hs : Stands a n used s) :
    (r.visit a n used).Upholds setting s fun s o =>
      (∃ x, o = outcomeOf x ∧ Visited a s x) ∨ o = .cancelled ∧ s.Idles := by
  have hfollow : ∀ next, a.flow.follow? n (n.outcome a.recipient) = some next →
      next ∈ a.flow.nodes := fun next h => (Flow.follow?_eq_some h).1
  have hnonneg := hs.nonneg
  refine (Runner.visit_upholds (I := Stands a n used) (L := Idles)
    (W := fun ms s => 0 ≤ ms ∧ s.Rests ((used.delayMs + ms) * 1000))
    (fun s r hr => keeps_stands s r (isMild_of_isOfVisit hr)) ?_ hs).mono ?_
  · intro d now ms hdelay hms hguard s hs
    have hms0 := Runner.milliseconds_nonneg hwell hs.mem hdelay hms
    have htotal := (Guard.check_eq_allowed_iff.1 hguard).2.2
    have hpassing : passing ms = ms * 1000 := by
      unfold passing World.microseconds
      split <;> omega
    have hslept := hs.rests.slept
    have hlongest : (used.delayMs + ms) * 1000 ≤ longest :=
      Int.mul_le_mul_of_nonneg_right htotal (by decide)
    -- a pause makes no record and leaves the store to others
    have hdated : ∀ {wake : Wake} {s' : Watch}, s.Moves ⟨.sleep ms, wake⟩ s' → s'.IsDated :=
      fun hmoves => hs.rests.dated.moves (by rintro q ⟨⟩) hmoves
    refine ⟨⟨hs.rests.dated, ?_⟩, fun s' hmoves => ⟨hms0, hdated hmoves, ?_, hlongest⟩,
      fun s' hmoves => ⟨s'.slept, hdated hmoves, rfl, ?_⟩⟩
    · show s.slept + passing ms ≤ longest
      omega
    · have htimes := hmoves.times.2
      omega
    · have htimes := hmoves.times
      obtain ⟨hclock, hslept'⟩ := htimes
      omega
  · intro s o ho
    cases ho with
    | passed hs => exact Or.inl ⟨.ok _, rfl, hs.nonneg, hs.rests, hfollow⟩
    | waited hdelay hms hguard hs =>
      exact Or.inl ⟨.ok _, rfl, Int.add_nonneg hnonneg hs.1, hs.2, hfollow⟩
    | failed hs => exact Or.inl ⟨.error _, rfl, _, hs.rests⟩
    | cancelled hs => exact Or.inr ⟨rfl, hs⟩

/-- The outline of a watched run: before each visit it has slept for what its usage counts. -/
def outline (r : Runner) (a : Assignment) (hwell : a.flow.WellFormed) : Outline setting r a where
  ready := Stands a
  named := Stands a
  begun n used _ := Stands a n used
  visited _ _ _ x s := Visited a s x
  ended _ := Idles
  lost := Idles
  rejects hs _ := ⟨_, hs.rests⟩
  names {n used s} hs _ := by
    refine ((asks_updateTestRun a.runId (by rfl)).upholds keeps_stands
      (updateTestRun_ensures _ _) (fun r x => isPatient_of_isMild x) hs).mono ?_
    rintro s o ⟨hs, es, ⟨b, writes, ho, -⟩ | ⟨-, -, f, ho⟩⟩
    · exact Or.inl ⟨b, ho, hs⟩
    · exact Or.inr ⟨f, ho, _, hs.rests⟩
  begins hs := begin_upholds (fun s r hr => keeps_stands s r (isMild_of_isOfAudit hr)) _ hs
  visits hs := visit_upholds hwell hs
  finishes {n used entry step s} hs := by
    refine (finish_upholds (fun s r hr => keeps_visited s r (isMild_of_isOfAudit hr)) _ _ _
      hs).mono ?_
    rintro s o ⟨ho, hnonneg, hs, hnext⟩
    exact ⟨ho, fun _ => ⟨_, hs⟩, fun next _ h => ⟨hnext next h, hnonneg, hs⟩⟩
  fails hs := finish_upholds (fun s r hr => keeps_visited s r (isMild_of_isOfAudit hr)) _ _ _ hs
  remarks hs := report_upholds (fun s r hr => keeps_idles s r (isMild_of_isQuiet hr)) _ hs

/-- A run of a flow without a defect, begun as every run is, has at no point slept for more than a
day, the pause it stands in included, and what it began with stays on record. -/
theorem start_upholds (r : Runner) {flow : Flow} (hwell : flow.WellFormed) (recipient : String)
    {s : Watch} (hs : s.Rests 0) :
    (Runner.start flow recipient >>= fun id => r.run ⟨flow, recipient, id⟩).Upholds setting s
      fun s _ => s.Idles := by
  refine ((Runner.asks_start flow recipient).keeps (keeps_rests 0) hs).bind ?_ ?_ ?_
  · intro s id hs
    refine (outline r ⟨flow, recipient, id⟩ hwell).run (I := Rests 0) ?_ ?_ ?_ ?_ hs
    · exact fun s q hq => keeps_rests 0 s q (isMild_of_isQuiet hq)
    · intro s hs
      obtain ⟨start, hstart⟩ := hwell.exists_start?
      simp only [hstart]
      exact ⟨(Flow.start?_eq_some hstart).1, Int.le_refl 0, hs⟩
    · exact fun ending s hs => (Runner.asks_conclude _ ending).keeps keeps_idles hs
    · exact fun s hs => hs
  · exact fun s f hs => ⟨0, hs⟩
  · exact fun s hs => ⟨0, hs⟩

end Watch

end Automation
