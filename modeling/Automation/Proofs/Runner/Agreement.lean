import Automation.Proofs.Flow.Delay
import Automation.Proofs.Runner.Course
import Automation.Proofs.Runner.Reference
import Automation.Proofs.Runner.Safety
import Automation.Proofs.Store.Change
import Automation.Proofs.World.Replay

/-!
# A run does what it is to do

In a world whose store has no faults, a run of a flow without a defect does what the reference does.
`Tally.Agrees` relates the tally of the reference to the world and the usage of the run; one visit
keeps it (`Advances.agrees`), so a course does (`Course.agrees`), and what is recorded at the end is
what the tally says.
-/

set_option autoImplicit false

namespace Automation

open World (Outcome Face)
open Program

/-! ## The record -/

/-- The record of a run, whatever else it holds, has these values for its status, the node at which
the run stands, and its summary. -/
def Shelf.Records (s : Shelf) (id : ObjectId) (status node : String) (summary : Summary) : Prop :=
  ∃ d, s.findOne [.idIs id] = some d ∧ d.fields.get? "status" = some (.text status) ∧
    d.fields.get? "current_step_node_id" = some (.text node) ∧
    d.fields.get? "summary" = some summary.write

/-- A search by id finds the document with the change, if its values can be kept. -/
theorem findOne_written {s : Shelf} {id : ObjectId} {changes kept : Fields} {d : Document}
    (hkept : Value.storedFields? changes = .ok kept) (hd : s.findOne [.idIs id] = some d) :
    (World.written s (id, changes)).findOne [.idIs id] = some (d.updated kept) := by
  simp only [World.written, hkept]
  rw [Shelf.findOne_change, hd, Option.map_some]

namespace TestRun

variable {t u : Int} {node : String} {s : Summary}

/-- A summary whose totals are words is kept as it is. -/
theorem stored_summary (hsteps : fitsWord s.steps = true) (hdelay : fitsWord s.delayMs = true) :
    s.write.stored? = .ok s.write :=
  Value.stored?_record <|
    Value.storedFields?_cons (by decide) (Value.stored?_int hsteps) <|
      Value.storedFields?_cons (by decide) (Value.stored?_int hdelay) <|
        Value.storedFields?_cons (by decide) (Value.stored?_ofText? _) Value.storedFields?_nil

/-- What is kept of the change for a visit. -/
theorem stored_visiting (hu : Moment.inRange u = true) (node : String) :
    Value.storedFields? ((visiting node).insert "updated_at" (.date (.ofInstant u))) =
      .ok [("current_step_node_id", .text node),
        ("updated_at", .date (.ofInstant (Moment.cutToMillisecond u)))] :=
  Value.storedFields?_cons (by decide) (Value.stored?_text _) <|
    Value.storedFields?_cons (by decide) (Value.stored?_date hu) Value.storedFields?_nil

/-- What is kept of the change for a run that reached the end. -/
theorem stored_completing (ht : Moment.inRange t = true) (hu : Moment.inRange u = true)
    (node : String) (hs : s.write.stored? = .ok s.write) :
    Value.storedFields?
        ((completing (.ofInstant t) (some node) s).insert "updated_at" (.date (.ofInstant u))) =
      .ok [("status", .text completed),
        ("finished_at", .date (.ofInstant (Moment.cutToMillisecond t))),
        ("current_step_node_id", .text node), ("summary", s.write),
        ("updated_at", .date (.ofInstant (Moment.cutToMillisecond u)))] :=
  Value.storedFields?_cons (by decide) (Value.stored?_text _) <|
    Value.storedFields?_cons (by decide) (Value.stored?_date ht) <|
      Value.storedFields?_cons (by decide) (Value.stored?_text _) <|
        Value.storedFields?_cons (by decide) hs <|
          Value.storedFields?_cons (by decide) (Value.stored?_date hu) Value.storedFields?_nil

/-- What is kept of the change for a run that failed. -/
theorem stored_failing (ht : Moment.inRange t = true) (hu : Moment.inRange u = true)
    (reason : String) (hs : s.write.stored? = .ok s.write) :
    Value.storedFields?
        ((failing (.ofInstant t) reason s).insert "updated_at" (.date (.ofInstant u))) =
      .ok [("status", .text failed),
        ("finished_at", .date (.ofInstant (Moment.cutToMillisecond t))),
        ("error", .text reason), ("summary", s.write),
        ("updated_at", .date (.ofInstant (Moment.cutToMillisecond u)))] :=
  Value.storedFields?_cons (by decide) (Value.stored?_text _) <|
    Value.storedFields?_cons (by decide) (Value.stored?_date ht) <|
      Value.storedFields?_cons (by decide) (Value.stored?_text _) <|
        Value.storedFields?_cons (by decide) hs <|
          Value.storedFields?_cons (by decide) (Value.stored?_date hu) Value.storedFields?_nil

end TestRun

namespace Ending

/-- The status that the record of a run gets when its walk ended. -/
def status : Ending → String
  | .completed .. => TestRun.completed
  | .failed .. => TestRun.failed

/-- What the record of a run says after it was told how the walk ended. -/
theorem records {ending : Ending} {s : Shelf} {id : ObjectId} {d : Document} {node : String}
    {t u : Int} (ht : Moment.inRange t = true) (hu : Moment.inRange u = true)
    (hsummary : ending.summary.write.stored? = .ok ending.summary.write)
    (hd : s.findOne [.idIs id] = some d)
    (hnode : d.fields.get? "current_step_node_id" = some (.text node))
    (hlast : ∀ used last, ending = .completed used last → last = node) :
    (World.written s (id, (ending.change (.ofInstant t)).insert "updated_at"
      (.date (.ofInstant u)))).Records id ending.status node ending.summary := by
  cases ending with
  | completed used last =>
    obtain rfl := hlast used last rfl
    refine ⟨_, findOne_written (TestRun.stored_completing ht hu last hsummary) hd, ?_, ?_, ?_⟩ <;>
      simp [Document.updated, Fields.get?_merge, Fields.get?_cons, status]
  | failed used f =>
    refine ⟨_, findOne_written (TestRun.stored_failing ht hu f.reason hsummary) hd, ?_, ?_, ?_⟩ <;>
      simp [Document.updated, Fields.get?_merge, Fields.get?_cons, Fields.get?_nil, status, hnode]

end Ending

/-! ## The tally and the world -/

namespace Runner

/-- A tally says what a run has used, and what became of the world in which it began; the record of
the run names the node at which it stands, as long as its dates lie in the calendar. -/
structure Tally.Agrees (t : Tally) (id : ObjectId) (first face : Face) (used : Usage) : Prop where
  steps : used.steps = t.steps
  few : t.steps ≤ 100
  waited : used.delayMs = t.waits.sum
  nonneg : 0 ≤ t.waits.sum
  total : t.waits.sum ≤ 86400000
  clock : face.clock = t.clock
  earliest : Moment.earliest ≤ face.clock
  mail : face.mail = t.mail
  posts : face.posts = first.posts ++ t.posts
  sleeps : face.sleeps = first.sleeps ++ t.waits
  record : face.clock < Moment.horizon → ∃ d, face.testRuns.findOne [.idIs id] = some d ∧
    ∀ node, t.stands = some node → d.fields.get? "current_step_node_id" = some (.text node)

/-- One visit of the reference and one step of a walk that began alike end alike. -/
inductive AgreeAfter (id : ObjectId) (first : Face) (used : Usage) :
    Except Tally Tally → Outcome Step → Face → Prop
  | attended {t : Tally} {step : Step} {face : Face}
      (h : t.Agrees id first face ⟨step.used.steps + 1, step.used.delayMs⟩) :
      AgreeAfter id first used (.ok t) (.done step) face
  | stopped {t : Tally} {f : Failure} {face : Face} (h : t.Agrees id first face used) :
      AgreeAfter id first used (.error t) (.failed f) face

variable {r : Runner} {a : Assignment} {n : Node} {used : Usage} {t : Tally} {id : ObjectId}
  {first face : Face} {w w' : World} {es : List Exchange}

/-- The guard lets a run that agrees with its tally go on exactly when it attended fewer than a
hundred nodes. -/
theorem Tally.Agrees.check_zero_iff (h : t.Agrees id first face used) :
    Guard.check used 0 = .allowed ↔ t.steps < 100 := by
  have htotal := h.total
  rw [Guard.check_eq_allowed_iff, h.steps, h.waited]
  simp only [Guard.maxSteps, Guard.maxSingleMs, Guard.maxTotalMs]
  omega

theorem Tally.Agrees.inRange (h : t.Agrees id first face used)
    (hhorizon : face.clock < Moment.horizon) : Moment.inRange face.clock = true := by
  have hearliest := h.earliest
  simp [Moment.inRange, hearliest, hhorizon]

/-- One more node is attended. -/
theorem Tally.Agrees.step (h : t.Agrees id first face used) (hfew : t.steps < 100) :
    t.step.Agrees id first face ⟨used.steps + 1, used.delayMs⟩ where
  steps := by simp [Tally.step, h.steps]
  few := hfew
  waited := h.waited
  nonneg := h.nonneg
  total := h.total
  clock := h.clock
  earliest := h.earliest
  mail := h.mail
  posts := h.posts
  sleeps := h.sleeps
  record := h.record

/-- A message is posted. -/
theorem Tally.Agrees.post (h : t.Agrees id first face used) (p : Mail.Post) :
    (t.post p).Agrees id first (face.after { posts := [p] }) used where
  steps := h.steps
  few := h.few
  waited := h.waited
  nonneg := h.nonneg
  total := h.total
  clock := by simp [Face.after, Tally.post, h.clock]
  earliest := by simp [Face.after, h.earliest]
  mail := by simp [Face.after, Tally.post, h.mail]
  posts := by simp [Face.after, Tally.post, h.posts]
  sleeps := by simp [Face.after, Tally.post, h.sleeps]
  record := by simpa [Face.after, Tally.post] using h.record

/-- A time passes that is not negative and within the limit. -/
theorem Tally.Agrees.wait (h : t.Agrees id first face used) {ms : Int} (hms : 0 ≤ ms)
    (htotal : t.waits.sum + ms ≤ 86400000) :
    (t.wait ms).Agrees id first (face.after { sleeps := [ms] })
      ⟨used.steps, used.delayMs + ms⟩ := by
  have hpassing : World.passing ms = 1000 * ms := by
    unfold World.passing World.microseconds
    split <;> omega
  have hclock : (face.after { sleeps := [ms] }).clock = face.clock + 1000 * ms := by
    simp [Face.after, hpassing]
  have hnonneg := h.nonneg
  have hearliest := h.earliest
  exact {
    steps := h.steps
    few := h.few
    waited := by simp [Tally.wait, h.waited]
    nonneg := by simp only [Tally.wait, List.sum_append, List.sum_singleton]; omega
    total := by simpa [Tally.wait] using htotal
    clock := by rw [hclock, h.clock]; rfl
    earliest := by omega
    mail := by simp [Face.after, Tally.wait, h.mail]
    posts := by simp [Face.after, Tally.wait, h.posts]
    sleeps := by simp [Face.after, Tally.wait, h.sleeps]
    record := fun hhorizon => h.record (by omega) }

/-- An attempt to deliver a message does what the tally says. -/
theorem Tally.Agrees.send (h : t.Agrees id first w.face used) {address subject body : String}
    {notifier : Notifier} {delivered : Bool} (hfaults : w.database.faults = [])
    (hreplays : w.Replays es w') (hes : notifier.Delivers address subject body es delivered) :
    ∃ t', t.send address subject body notifier = (delivered, t') ∧
      t'.Agrees id first w'.face used := by
  have hface := hreplays.face_eq hfaults (by rw [hes.footprint_eq])
  rw [hes.footprint_eq] at hface
  cases hes with
  | nobody hes =>
    refine ⟨t, rfl, ?_⟩
    rw [hface]
    simpa [Notifier.letters] using h
  | nowhere htarget hes =>
    refine ⟨t, by simp only [Tally.send, htarget], ?_⟩
    rw [hface]
    simpa [Notifier.letters, htarget] using h
  | posted htarget hbefore hafter =>
    rename_i m target before after answer
    obtain ⟨v, hbegun, hrest⟩ := World.replays_append.1 hreplays
    have hsame := hbegun.face_eq_of_quiet hfaults hbefore
    have hanswer : answer = t.mail.next.1 := by
      rw [← h.mail, ← hsame]
      exact (World.replays_cons.1 hrest).1
    refine ⟨t.post (m.letter target address subject body), ?_, ?_⟩
    · simp only [Tally.send, htarget, hanswer]
    · rw [hface]
      simpa only [Notifier.letters, htarget] using h.post _

/-! ## One step -/

/-- In a well-formed flow no delay waits a negative time. -/
theorem milliseconds_nonneg (hwell : a.flow.WellFormed) (hn : n ∈ a.flow.nodes) {d : Delay}
    {now : Moment} {ms : Int} (hdelay : n.payload = .delay d)
    (hms : d.milliseconds now = .ok ms) : 0 ≤ ms := by
  have hcomplete := hwell.complete n hn
  rw [Node.IsComplete, hdelay] at hcomplete
  refine Delay.milliseconds_nonneg hms fun amount hkind hamount => ?_
  rcases hcomplete with ⟨-, amount', unit, hamount', hpos, -⟩ | ⟨habsolute, -⟩
  · rw [hamount] at hamount'
    cases hamount'
    omega
  · rw [hkind] at habsolute
    exact absurd habsolute (by decide)

/-- A wait that the guard allows can be stated in seconds. -/
theorem seconds_isFinite {ms : Int} (hnonneg : 0 ≤ ms) (hsingle : ms ≤ Guard.maxSingleMs)
    (negative : Bool) : Binary64.ofIntRatio ms 1000 ≠ .infinite negative := by
  have hlimit : Guard.maxSingleMs.natAbs ≤ 2 ^ 54 * 2 ^ Binary64.maxExponent.toNat := by
    calc Guard.maxSingleMs.natAbs ≤ 2 ^ 54 := by decide
      _ ≤ 2 ^ 54 * 2 ^ Binary64.maxExponent.toNat :=
        Nat.le_mul_of_pos_right _ (Nat.two_pow_pos _)
  have hsmall : ms.natAbs ≤ Guard.maxSingleMs.natAbs := by omega
  obtain ⟨sign, m, e, hfinite⟩ :=
    Binary64.ofIntRatio_isFinite (Nat.le_refl 1000) (hsmall.trans hlimit)
  rw [hfinite]
  exact nofun

/-- The time that a run is told is the one of its tally. -/
theorem Tally.Agrees.now_eq (h : t.Agrees id first w.face used) {now : Moment}
    (hreplays : w.Replays (⟨.clock, now⟩ :: es) w') : now = .ofInstant t.clock := by
  rw [← h.clock]
  exact (World.replays_cons.1 hreplays).1

/-- A delay is attended when the guard allows its wait, and stops a run otherwise. -/
theorem Tally.Agrees.attend_delay (h : t.Agrees id first face used) (hfew : t.steps < 100)
    {d : Delay} (hdelay : n.payload = .delay d) {ms : Int} (hnonneg : 0 ≤ ms)
    (hms : d.milliseconds (.ofInstant t.clock) = .ok ms) :
    t.attend r a.recipient n =
      if Guard.check used ms = .allowed then .ok (t.wait ms).step else .error t := by
  have hguard : (0 ≤ ms ∧ ms ≤ 21600000 ∧ t.waits.sum + ms ≤ 86400000) ↔
      Guard.check used ms = .allowed := by
    rw [Guard.check_eq_allowed_iff, h.steps, h.waited]
    simp only [Guard.maxSteps, Guard.maxSingleMs, Guard.maxTotalMs]
    omega
  unfold Tally.attend
  simp only [hdelay, hms, hguard]

/-- The visit of a node does what the reference does there. -/
theorem Visits.agrees {o : Outcome Step} (hvisit : r.Visits a n used es o)
    (h : t.Agrees id first w.face used) (hfew : t.steps < 100) (hreplays : w.Replays es w')
    (hfaults : w.database.faults = []) (hwell : a.flow.WellFormed) (hn : n ∈ a.flow.nodes) :
    AgreeAfter id first used (t.attend r a.recipient n) o w'.face := by
  obtain ⟨posts, sleeps, hleft⟩ := hvisit.footprint_eq
  have hface := hreplays.face_eq hfaults (by rw [hleft])
  cases hvisit with
  | passed hquiet hnext hes =>
    have hattend : t.attend r a.recipient n = .ok t.step := by
      unfold Tally.attend
      split
      · rename_i hpayload
        exact absurd (by simp [Node.type, hpayload, Payload.type]) hquiet
      · rename_i hpayload
        exact absurd (by simp [Node.type, hpayload, Payload.type]) hquiet
      · rfl
    rw [hattend, hface, hes, Face.after_empty]
    exact AgreeAfter.attended (h.step hfew)
  | astray hcond hnext hes =>
    obtain ⟨m, hm⟩ := hwell.exists_follow? hn (by simp [hcond]) (n.outcome a.recipient)
    rw [hm] at hnext
    cases hnext
  | sent haction hes =>
    obtain ⟨t', hsend, ht'⟩ := h.send hfaults hreplays hes
    have hattend : t.attend r a.recipient n = .ok t'.step := by
      unfold Tally.attend
      simp only [haction, hsend]
    have hsteps : t'.steps = t.steps := by
      have hused := h.steps
      rw [ht'.steps] at hused
      omega
    rw [hattend]
    exact AgreeAfter.attended (ht'.step (by omega))
  | unsent haction hes hf =>
    obtain ⟨t', hsend, ht'⟩ := h.send hfaults hreplays hes
    have hattend : t.attend r a.recipient n = .error t' := by
      unfold Tally.attend
      simp only [haction, hsend]
    rw [hattend]
    exact AgreeAfter.stopped ht'
  | waited hdelay hms hguard hes =>
    rename_i rest message d now ms
    have hnonneg := milliseconds_nonneg hwell hn hdelay hms
    obtain rfl := h.now_eq hreplays
    have htotal : t.waits.sum + ms ≤ 86400000 := by
      rw [← h.waited]
      exact (Guard.check_eq_allowed_iff.1 hguard).2.2
    have hfoot : footprint (⟨.clock, .ofInstant t.clock⟩ :: rest) = { sleeps := [ms] } := by
      rw [footprint_cons, hes]
      rfl
    rw [h.attend_delay hfew hdelay hnonneg hms, if_pos hguard, hface, hfoot]
    exact AgreeAfter.attended ((h.wait hnonneg htotal).step hfew)
  | unmeasured hdelay hms =>
    obtain rfl := h.now_eq hreplays
    have hattend : t.attend r a.recipient n = .error t := by
      unfold Tally.attend
      simp only [hdelay, hms]
    rw [hattend, hface]
    exact AgreeAfter.stopped (by simpa [Exchange.footprint] using h)
  | rejected hdelay hms hguard =>
    have hnonneg := milliseconds_nonneg hwell hn hdelay hms
    obtain rfl := h.now_eq hreplays
    rw [h.attend_delay hfew hdelay hnonneg hms, hguard, if_neg (by rintro ⟨⟩), hface]
    exact AgreeAfter.stopped (by simpa [Exchange.footprint] using h)
  | unstated hdelay hms hsize hes =>
    have hnonneg := milliseconds_nonneg hwell hn hdelay hms
    obtain rfl := h.now_eq hreplays
    rcases hsize with hguard | ⟨hguard, negative, hseconds⟩
    · rw [h.attend_delay hfew hdelay hnonneg hms, hguard, if_neg (by rintro ⟨⟩), hface]
      exact AgreeAfter.stopped (by simpa [hes, Exchange.footprint] using h)
    -- what the guard allows is never too long for seconds in double precision
    · have hsingle := (Guard.check_eq_allowed_iff.1 hguard).2.1
      exact absurd hseconds (seconds_isFinite hnonneg hsingle negative)

/-- Before a visit the record is told of the node, and nothing else happens. -/
theorem Tally.Agrees.told (h : t.Agrees id first w.face used) (hreplays : w.Replays es w')
    (hfaults : w.database.faults = []) {runId node : String} {visits : List (String × String)}
    {writes : List (ObjectId × Fields)} (hid : ObjectId.ofText? runId = some id)
    (hleft : footprint es = { visits, writes })
    (hwrites : Written runId (TestRun.visiting node) es writes) :
    Tally.Agrees { t with stands := some node } id first w'.face used := by
  have hface := hreplays.face_eq hfaults (by rw [hleft])
  simp only [Written, hid] at hwrites
  obtain ⟨now, hnow, rfl⟩ := hwrites
  obtain rfl := hreplays.now_eq hfaults (by rw [hleft]) (by rw [hleft]) hnow
  rw [hface, hleft]
  exact {
    steps := h.steps
    few := h.few
    waited := h.waited
    nonneg := h.nonneg
    total := h.total
    clock := by simp [Face.after, h.clock]
    earliest := by simp [Face.after, h.earliest]
    mail := by simp [Face.after, h.mail]
    posts := by simp [Face.after, h.posts]
    sleeps := by simp [Face.after, h.sleeps]
    record := by
      intro hhorizon
      have hlt : w.face.clock < Moment.horizon := by simpa [Face.after] using hhorizon
      obtain ⟨d, hd, -⟩ := h.record hlt
      refine ⟨_, findOne_written (TestRun.stored_visiting (h.inRange hlt) node) hd, ?_⟩
      intro node' hnode
      cases hnode
      simp [Document.updated, Fields.get?_merge, Fields.get?_cons] }

/-- One step of a walk does what the reference does at the node. -/
theorem Advances.agrees {o : Outcome Step} (hadvances : r.Advances a n used es o)
    (h : t.Agrees id first w.face used) (hid : ObjectId.ofText? a.runId = some id)
    (hreplays : w.Replays es w') (hfaults : w.database.faults = []) (hwell : a.flow.WellFormed)
    (hn : n ∈ a.flow.nodes) : AgreeAfter id first used (t.visit r a.recipient n) o w'.face := by
  unfold Tally.visit
  cases hadvances with
  | stopped hguard =>
    obtain rfl := World.replays_nil.1 hreplays
    have hmany : ¬ t.steps < 100 := by
      rw [← h.check_zero_iff, hguard]
      exact nofun
    rw [if_neg hmany]
    exact AgreeAfter.stopped h
  | refused hguard href hes => exact absurd href (hreplays.not_refused hfaults)
  | visited hguard hbefore hvisits hwrites hvisit hafter =>
    have hfew := h.check_zero_iff.1 hguard
    -- the record is told, the node is visited, and the audit is told of the end
    obtain ⟨v, htold, hrest⟩ := World.replays_append.1 hreplays
    obtain ⟨v', hvisited, hended⟩ := World.replays_append.1 hrest
    have hfaults' := htold.faults_eq hfaults
    have hsame := hended.face_eq_of_quiet (hvisited.faults_eq hfaults') hafter
    rw [if_pos hfew, hsame]
    exact hvisit.agrees (h.told htold hfaults hid hbefore hwrites) hfew hvisited hfaults' hwell hn

/-! ## A walk -/

/-- A walk ended as the reference did: well at the node at which the reference stands, or in a
failure. -/
inductive AgreeAtEnd (id : ObjectId) (first face : Face) : Except Tally Tally → Ending → Prop
  | completed {t : Tally} {used : Usage} {last : String} (h : t.Agrees id first face used)
      (hlast : t.stands = some last) : AgreeAtEnd id first face (.ok t) (.completed used last)
  | failed {t : Tally} {used : Usage} {f : Failure} (h : t.Agrees id first face used) :
      AgreeAtEnd id first face (.error t) (.failed used f)

/-- The course of a run follows the path of its recipient and does what the reference does. -/
theorem Course.agrees {ending : Ending} (hcourse : r.Course a n used es ending)
    (h : t.Agrees id first w.face used) (hid : ObjectId.ofText? a.runId = some id)
    (hreplays : w.Replays es w') (hfaults : w.database.faults = []) (hwell : a.flow.WellFormed)
    {before : List Node} (hwalk : a.flow.Walk (choice a) (n :: before)) {most : Nat}
    (hmost : a.flow.nodes.length = before.length + most) :
    AgreeAtEnd id first w'.face
      ((a.flow.pathFrom a.recipient most n).foldlM (Tally.visit r a.recipient) t) ending := by
  -- a walk of a flow without loops always leaves room for its next node
  have hroom : ∀ {n : Node} {before : List Node} {most : Nat},
      a.flow.Walk (choice a) (n :: before) → a.flow.nodes.length = before.length + most →
        ∃ more, most = more + 1 := by
    intro n before most hwalk hmost
    have hlength := hwalk.length_le hwell.acyclic
    rw [List.length_cons] at hlength
    exact ⟨most - 1, by omega⟩
  induction hcourse generalizing t w before most with
  | failed hadvances =>
    rename_i n used es f
    obtain ⟨most, rfl⟩ := hroom hwalk hmost
    have hstep := hadvances.agrees h hid hreplays hfaults hwell (hwalk.mem n List.mem_cons_self)
    rw [Flow.pathFrom, List.foldlM_cons]
    generalize Tally.visit r a.recipient t n = outcome at hstep
    cases hstep with
    | stopped h => exact AgreeAtEnd.failed h
  | arrived hadvances hlast =>
    rename_i n used es step
    obtain ⟨most, rfl⟩ := hroom hwalk hmost
    have hn := hwalk.mem n List.mem_cons_self
    have hstep := hadvances.agrees h hid hreplays hfaults hwell hn
    rw [hadvances.next_eq] at hlast
    rw [Flow.pathFrom, hwell.successor?_of_end hn (isEnd_of_stopped hn hwell hlast),
      List.foldlM_cons]
    generalize hvisit : Tally.visit r a.recipient t n = outcome at hstep
    cases hstep with
    | attended h => exact AgreeAtEnd.completed h (Tally.visit_eq_ok hvisit).2
  | onward hadvances hend hnext hrest ih =>
    rename_i n next used es rest step ending
    obtain ⟨most, rfl⟩ := hroom hwalk hmost
    have hn := hwalk.mem n List.mem_cons_self
    obtain ⟨v, hadvanced, hreplays⟩ := World.replays_append.1 hreplays
    have hstep := hadvances.agrees h hid hadvanced hfaults hwell hn
    rw [hadvances.next_eq] at hnext
    rw [Flow.pathFrom, hwell.successor?_eq hn, hnext, List.foldlM_cons]
    generalize Tally.visit r a.recipient t n = outcome at hstep
    cases hstep with
    | attended h =>
      exact ih h hreplays (hadvanced.faults_eq hfaults) (hwalk.step hnext)
        (by rw [List.length_cons]; omega)

/-- A run that has not begun agrees with the tally that has not. -/
theorem agrees_begin (hearliest : Moment.earliest ≤ w.clock)
    (hrecord : w.database.store.testRuns.uses id = true) :
    (Tally.begin w).Agrees id w.face w.face .zero where
  steps := rfl
  few := Nat.zero_le _
  waited := rfl
  nonneg := Int.le_refl 0
  total := by simp [Tally.begin]
  clock := rfl
  earliest := hearliest
  mail := rfl
  posts := (List.append_nil _).symm
  sleeps := (List.append_nil _).symm
  record := by
    intro _
    obtain ⟨d, hd, hid⟩ := List.any_eq_true.1 hrecord
    have hfound : (w.database.store.testRuns.findOne [.idIs id]).isSome := by
      rw [Shelf.findOne, List.find?_isSome]
      exact ⟨d, hd, by simpa [Clause.holds] using hid⟩
    obtain ⟨d', hd'⟩ := Option.isSome_iff_exists.1 hfound
    -- the run stands at no node yet
    refine ⟨d', hd', ?_⟩
    rintro node ⟨⟩

theorem StartCourse.agrees {ending : Ending} (hcourse : r.StartCourse a es ending)
    (h : t.Agrees id first w.face .zero) (hid : ObjectId.ofText? a.runId = some id)
    (hreplays : w.Replays es w') (hfaults : w.database.faults = []) (hwell : a.flow.WellFormed) :
    AgreeAtEnd id first w'.face
      ((a.flow.path a.recipient).foldlM (Tally.visit r a.recipient) t) ending := by
  obtain ⟨s, hs⟩ := hwell.exists_start?
  unfold StartCourse at hcourse
  unfold Flow.path
  rw [hs] at hcourse ⊢
  exact Course.agrees hcourse h hid hreplays hfaults hwell (Flow.Walk.start hs)
    (Nat.zero_add _).symm

/-! ## The end -/

/-- What a run with a tally leaves of the world in which it began. -/
structure Tally.Leaves (t : Tally) (w w' : World) : Prop where
  clock : w'.clock = t.clock
  mail : w'.mail = t.mail
  posts : w'.posts = w.posts ++ t.posts
  sleeps : w'.sleeps = w.sleeps ++ t.waits

/-- What a walk that agrees with its tally used can be kept. -/
theorem Tally.Agrees.stored_summary {ending : Ending} (h : t.Agrees id first face ending.used) :
    ending.summary.write.stored? = .ok ending.summary.write := by
  have hfew := h.few
  have hsteps : fitsWord ending.used.steps = true := by
    rw [h.steps]
    simp only [fitsWord, Bool.and_eq_true, decide_eq_true_eq]
    omega
  have hdelay : fitsWord ending.used.delayMs = true := by
    have hnonneg := h.nonneg
    have htotal := h.total
    rw [h.waited]
    simp only [fitsWord, Bool.and_eq_true, decide_eq_true_eq]
    omega
  cases ending <;> exact TestRun.stored_summary hsteps hdelay

/-- The end of a walk that agrees with its tally is recorded, and nothing else happens. -/
theorem Concludes.agrees {ending : Ending} {o : Outcome Summary} {node : String} {w₀ : World}
    (hconcludes : Concludes a ending es o) (h : t.Agrees id w₀.face w.face ending.used)
    (hid : ObjectId.ofText? a.runId = some id) (hreplays : w.Replays es w')
    (hfaults : w.database.faults = []) (hhorizon : t.clock < Moment.horizon)
    (hstands : t.stands = some node)
    (hlast : ∀ used last, ending = .completed used last → last = node) :
    t.Leaves w₀ w' ∧ o = .done ending.summary ∧
      w'.database.store.testRuns.Records id ending.status node ending.summary := by
  cases hconcludes with
  | refused href hes ho => exact absurd href (hreplays.not_refused hfaults)
  | recorded hes hnow hwrites =>
    have hface := hreplays.face_eq hfaults (by rw [hes])
    simp only [Written, hid] at hwrites
    obtain ⟨now', hnow', rfl⟩ := hwrites
    obtain rfl := hreplays.now_eq hfaults (by rw [hes]) (by rw [hes]) hnow
    obtain rfl := hreplays.now_eq hfaults (by rw [hes]) (by rw [hes]) hnow'
    have hlt : w.face.clock < Moment.horizon := by
      rw [h.clock]
      exact hhorizon
    obtain ⟨d, hd, hnode⟩ := h.record hlt
    have hclock : w'.face.clock = w.face.clock := by simp [hface, hes, Face.after]
    have hmail : w'.face.mail = w.face.mail := by simp [hface, hes, Face.after]
    have hposts : w'.face.posts = w.face.posts := by simp [hface, hes, Face.after]
    have hsleeps : w'.face.sleeps = w.face.sleeps := by simp [hface, hes, Face.after]
    refine ⟨⟨hclock.trans h.clock, hmail.trans h.mail, hposts.trans h.posts,
      hsleeps.trans h.sleeps⟩, rfl, ?_⟩
    have hruns := congrArg Face.testRuns hface
    simp only [hes, Face.after, List.foldl_cons, List.foldl_nil] at hruns
    have hrange := h.inRange hlt
    show w'.face.testRuns.Records _ _ _ _
    rw [hruns]
    exact Ending.records hrange hrange h.stored_summary hd (hnode node hstands) hlast

/-- A run agrees with the reference. Take a flow without a defect, a recipient and a notifier, and a
world with a store that has no faults and a record of the run, and let the dates of the run lie in
the calendar. The run posts, waits and ends as the reference says. If the reference attends the
whole path of the recipient, the record says completed and names the end, and its totals are the
length of the path and the sum of its waits. Otherwise some node of the path stops the reference,
and the record says failed and has the totals of the nodes before that one; it names the node,
unless the limit of a hundred nodes stopped the run. -/
theorem run_agrees_with_reference (r : Runner) (flow : Flow) (hvalid : flow.defect? = none)
    (recipient runId : String) (id : ObjectId) (hid : ObjectId.ofText? runId = some id) (w : World)
    (hfaults : w.database.faults = []) (hrecord : w.database.store.testRuns.uses id = true)
    (hearliest : Moment.earliest ≤ w.clock)
    (hhorizon : (Tally.last (r.reference flow recipient w)).clock < Moment.horizon) :
    let path := flow.path recipient
    let t := Tally.last (r.reference flow recipient w)
    let o := (w.perform (r.run ⟨flow, recipient, runId⟩)).1
    let w' := (w.perform (r.run ⟨flow, recipient, runId⟩)).2
    t.Leaves w w' ∧
      match r.reference flow recipient w with
      | .ok _ => ∃ last, path.getLast? = some last ∧ flow.nodesOfType "end" = [last] ∧
          t.steps = path.length ∧ o = .done ⟨path.length, t.waits.sum, none⟩ ∧
          w'.database.store.testRuns.Records id "completed" last.id ⟨path.length, t.waits.sum, none⟩
      | .error _ => ∃ before n after reached node reason, path = before ++ n :: after ∧
          before.foldlM (Tally.visit r recipient) (Tally.begin w) = .ok reached ∧
          reached.visit r recipient n = .error t ∧ t.waits = reached.waits ∧
          t.stands = some node ∧ (before.length < 100 → node = n.id) ∧
          o = .done ⟨before.length, reached.waits.sum, some reason⟩ ∧
          w'.database.store.testRuns.Records id "failed" node
            ⟨before.length, reached.waits.sum, some reason⟩ := by
  have hwell : flow.WellFormed := (Flow.defect?_eq_none_iff flow).1 hvalid
  obtain ⟨es, hreplays, opening, course, closing, ending, rfl, hopening, hcourse, hconcludes⟩ :=
    World.perform_ensures (r.run_ensures ⟨flow, recipient, runId⟩) w
  generalize w.perform (r.run ⟨flow, recipient, runId⟩) = performed at hreplays hconcludes
  obtain ⟨o, w'⟩ := performed
  obtain ⟨v, hopened, hrest⟩ := World.replays_append.1 hreplays
  obtain ⟨v', hwalked, hclosed⟩ := World.replays_append.1 hrest
  have hfaultsv := hopened.faults_eq hfaults
  have hsame := hopened.face_eq_of_quiet hfaults hopening
  have hbegin : (Tally.begin w).Agrees id w.face v.face .zero := by
    rw [hsame]
    exact agrees_begin hearliest hrecord
  have hagrees := hcourse.agrees hbegin hid hwalked hfaultsv hwell
  unfold reference at hhorizon ⊢
  generalize hreference : (flow.path recipient).foldlM (Tally.visit r recipient) (Tally.begin w) =
    outcome at hagrees hhorizon ⊢
  cases hagrees with
  | completed h hlast =>
    rename_i t used node
    obtain ⟨last, hpath, honly⟩ := hwell.getLast?_path recipient
    have hsteps : t.steps = (flow.path recipient).length := by
      rw [Tally.steps_of_foldlM hreference]
      exact Nat.zero_add _
    have hnode : node = last.id := by
      rw [Tally.stands_of_foldlM hreference, hpath] at hlast
      exact (Option.some.inj hlast).symm
    obtain ⟨hleaves, ho, hrecords⟩ := hconcludes.agrees h hid hclosed (hwalked.faults_eq hfaultsv)
      hhorizon hlast (by rintro used last h; cases h; rfl)
    simp only [Ending.summary, h.steps, h.waited, hsteps, hnode] at ho hrecords
    exact ⟨hleaves, last, hpath, honly, hsteps, ho, hrecords⟩
  | failed h =>
    rename_i t used f
    obtain ⟨before, n, after, reached, hpath, hbefore, hstop⟩ :=
      Tally.exists_stop_of_foldlM hreference
    have hcount : reached.steps = before.length := by
      rw [Tally.steps_of_foldlM hbefore]
      exact Nat.zero_add _
    obtain ⟨hsteps, hwaits, -⟩ := Tally.visit_eq_error hstop
    obtain ⟨node, hnode, hfew⟩ := Tally.stands_of_stop rfl hbefore hstop
    obtain ⟨hleaves, ho, hrecords⟩ := hconcludes.agrees h hid hclosed (hwalked.faults_eq hfaultsv)
      hhorizon hnode (by rintro used last h; cases h)
    simp only [Ending.summary, h.steps, h.waited, hsteps, hwaits, hcount] at ho hrecords
    exact ⟨hleaves, before, n, after, reached, node, f.reason, hpath, hbefore, hstop, hwaits, hnode,
      hfew, ho, hrecords⟩

/-- A flow that waits for a minute. -/
def pausingFlow : Flow where
  id := none
  name := "Pause"
  nodes := [⟨"start", none, .start [], []⟩,
    ⟨"delay", none, .delay ⟨some "relative", some 1, some "minutes", none, []⟩, []⟩,
    ⟨"end", none, .finish [], []⟩]
  edges := [⟨"first", "start", "delay", none, none, none, []⟩,
    ⟨"second", "delay", "end", none, none, none, []⟩]
  createdAt := none
  updatedAt := none

/-- A world at the beginning of 1970 that holds nothing but the record of a run. -/
def recordedWorld : World :=
  World.make ⟨"", "", 0, "", "", "", "", "", "", "", "", 0, 0, ""⟩ ⟨.nobody, defaultSubject⟩
    ⟨⟨.empty, ⟨[⟨⟨1⟩, []⟩], 1⟩, .empty⟩, []⟩ ⟨[], 0⟩ 0 .info

/-- A run of the flow that waits for a minute is recorded as completed after three nodes and sixty
thousand milliseconds. -/
theorem run_agrees_with_reference_pausing :
    let performed := recordedWorld.perform (recordedWorld.runner.run
      ⟨pausingFlow, "to@example.com", "000000000000000000000001"⟩)
    pausingFlow.defect? = none ∧ performed.2.sleeps = [60000] ∧
      performed.2.database.store.testRuns.Records ⟨1⟩ "completed" "end" ⟨3, 60000, none⟩ := by
  have hvalid : pausingFlow.defect? = none := by decide
  have hreference : recordedWorld.runner.reference pausingFlow "to@example.com" recordedWorld =
      .ok ⟨3, [60000], some "end", 60000000, ⟨[], 0⟩, []⟩ := rfl
  have hpath : (pausingFlow.path "to@example.com").getLast? =
      some ⟨"end", none, .finish [], []⟩ := rfl
  have hagrees := run_agrees_with_reference recordedWorld.runner pausingFlow hvalid
    "to@example.com" "000000000000000000000001" ⟨1⟩ (by decide) recordedWorld rfl (by decide)
    (by decide) (by rw [hreference]; decide)
  rw [hreference] at hagrees
  obtain ⟨hleaves, last, hlast, -, -, -, hrecords⟩ := hagrees
  rw [hpath] at hlast
  cases hlast
  exact ⟨hvalid, hleaves.sleeps, hrecords⟩

end Runner

end Automation
