import Automation.Proofs.Program.Conduct
import Automation.Proofs.Runner.Course
import Automation.Proofs.Store.Naming

/-!
# Proof outlines of a run

An `Outline` annotates a run in some setting: an assertion for each point between two calls, and for
each call the fact that it leads from one assertion to the next. It says nothing of the walk as a
whole: that the assertions hold on every way through a run, whatever the shape of the flow is,
follows by one induction on the room of the walk (`Outline.run`). What an outline has to say of the
visit of a node comes down to what it says of the visit's requests (`visit_upholds`), and calls that
only ask for the time, the journal, a client or the audit keep whatever such requests keep.
-/

set_option autoImplicit false

namespace Automation

open World (Outcome)
open Program

variable {σ : Type} {c : Setting σ}

/-! ## Calls of a run -/

theorem asks_connect : Repository.connect.Asks Request.IsQuiet := by
  refine ⟨trivial, fun x => ?_⟩
  match x with
  | .error f => trivial
  | .ok true => exact ⟨trivial, fun _ => trivial⟩
  | .ok false => trivial

section Reports

variable {kind : Request → Prop} (hreport : ∀ e, kind (.report e))
include hreport

theorem asks_reportAll (entries : List Journal.Entry) : (reportAll entries).Asks kind := by
  induction entries with
  | nil => trivial
  | cons e rest ih => exact ⟨hreport e, fun _ => ih⟩

/-- A reply is read with at most a warning. -/
theorem asks_accept (address : String) (reply : Mail.Reply) :
    (Mailer.accept address reply).Asks kind := by
  have hcontent : (Mailer.contentOf reply).Asks kind := by
    unfold Mailer.contentOf Mailer.orFault
    cases reply.content with
    | error f => trivial
    | ok content =>
      cases content with
      | record fields => trivial
      | other => trivial
      | malformed => exact ⟨hreport _, fun _ => trivial⟩
  refine hcontent.bind fun content => ?_
  show Asks _ (if reply.isAccepted = true then _ else _)
  split
  · exact ⟨hreport _, fun _ => trivial⟩
  · unfold Mailer.orFault
    cases reply.detail content with
    | error f => trivial
    | ok detail => exact ⟨hreport _, fun _ => trivial⟩

/-- A delivery asks for nothing but its post. -/
theorem asks_send (hpost : ∀ p, kind (.post p)) (notifier : Notifier)
    (address subject body : String) : (notifier.send address subject body).Asks kind := by
  cases notifier with
  | nobody => trivial
  | mailer m =>
    refine ⟨hreport _, fun _ => ?_⟩
    simp only [Program.bind]
    cases (Url.parse m.url).bind Url.empty.merge with
    | error d => trivial
    | ok target =>
      refine ⟨hpost _, fun answer => ?_⟩
      rcases answer with ⟨_ | _, _⟩ | reply
      · exact ⟨hreport _, fun _ => trivial⟩
      · exact ⟨hreport _, fun _ => trivial⟩
      · simp only
        cases Mailer.replyFault? target reply with
        | some f => trivial
        | none => exact asks_accept hreport address reply

end Reports

theorem Runner.asks_admission (flow : Flow) : (admission flow).Asks Request.IsQuiet := by
  refine (asks_reportAll (fun _ => trivial) _).bind fun _ => ?_
  split <;> trivial

section Kinds

variable {kind : Request → Prop} (hquiet : ∀ r, r.IsQuiet → kind r)
include hquiet

/-- A new test run asks for nothing but its record. -/
theorem Program.Asks.createTestRun {run : TestRun}
    (hinsert : kind (.query (.insert .testRuns run.document))) :
    (Repository.createTestRun run).Asks kind := by
  have hreport : ∀ e, kind (.report e) := fun _ => hquiet _ trivial
  refine (asks_connect.mono hquiet).bind fun _ => ⟨hinsert, fun x => ?_⟩
  match x with
  | .ok (some id) => trivial
  | .ok none => exact ⟨hreport _, fun _ => trivial⟩
  | .error e => exact ⟨hreport _, fun _ => trivial⟩

/-- An update of a test run asks for nothing but its changes. -/
theorem Program.Asks.updateTestRun (id : String) {changes : Fields}
    (hupdate : ∀ oid now, kind (.query
      (.update .testRuns oid (changes.insert "updated_at" (.date now))))) :
    (Repository.updateTestRun id changes).Asks kind := by
  unfold Repository.updateTestRun
  cases ObjectId.ofText? id with
  | none => trivial
  | some oid =>
    refine (asks_connect.mono hquiet).bind fun _ => ⟨hquiet _ trivial, fun now => ?_⟩
    refine ⟨hupdate oid now, fun x => ?_⟩
    cases x with
    | ok matched => trivial
    | error e => exact ⟨hquiet _ trivial, fun _ => trivial⟩

/-- A search for stale runs asks for nothing but them. -/
theorem Program.Asks.getStaleTestRuns (before : Moment)
    (hfind : kind (.query (.find .testRuns (Repository.staleFilter before) .insertion))) :
    (Repository.getStaleTestRuns before).Asks kind := by
  refine (asks_connect.mono hquiet).bind fun _ => ⟨hfind, fun found => ?_⟩
  refine ⟨hquiet _ trivial, fun now => ?_⟩
  simp only [Program.bind]
  cases found.bind (Repository.readAll (Repository.testRunOf now)) with
  | ok runs => trivial
  | error e => exact ⟨hquiet _ trivial, fun _ => trivial⟩

/-- The end of a run asks for nothing but to be recorded. -/
theorem Program.Asks.conclude (a : Assignment) (ending : Ending)
    (hupdate : ∀ (ending : Ending) (finishedAt : Moment) (oid : ObjectId) (now : Moment),
      kind (.query (.update .testRuns oid
        ((ending.change finishedAt).insert "updated_at" (.date now))))) :
    (Runner.conclude a ending).Asks kind := by
  have hrecord : ∀ (ending : Ending) (e : Journal.Entry),
      (now >>= fun t => Repository.updateTestRun a.runId (ending.change t) >>= fun _ =>
        report e >>= fun _ => pure ending.summary).Asks kind := fun ending e =>
    ⟨hquiet _ trivial, fun t => (Asks.updateTestRun hquiet _ (hupdate ending t)).bind fun _ =>
      ⟨hquiet _ trivial, fun _ => trivial⟩⟩
  have hfail : ∀ used f, (Runner.fail a used f).Asks kind := fun used f =>
    hrecord (.failed used f) _
  cases ending with
  | failed used f => exact hfail used f
  | completed used last =>
    refine Asks.bind (Asks.attempt (hrecord (.completed used last) _)) fun x => ?_
    cases x with
    | ok summary => trivial
    | error f => exact hfail used f

/-- A visit that begins asks for nothing but its entry. -/
theorem Program.Asks.begin (v : Audit.Visit)
    (hinsert : ∀ now, kind (.query (.insert .executionLogs (v.entry now).document))) :
    (Audit.begin v).Asks kind := by
  refine ⟨hquiet _ trivial, fun now => ?_⟩
  show Asks _ ((Repository.createAuditEntry (v.entry now)).attempt >>= _)
  have hcreate : (Repository.createAuditEntry (v.entry now)).Asks kind := by
    refine (asks_connect.mono hquiet).bind fun _ => ⟨hinsert now, fun x => ?_⟩
    cases x <;> trivial
  refine hcreate.attempt.bind fun outcome => ?_
  cases outcome with
  | ok entry => trivial
  | error f => exact ⟨hquiet _ trivial, fun _ => trivial⟩

/-- A visit that ends asks for nothing but to be noted in its entry. -/
theorem Program.Asks.finish (id : Option String) (status : String) (message : Option String)
    (hchange : ∀ oid now, kind (.query (.change .executionLogs oid
      (AuditEntry.finishing now (.text status) (.ofText? message))))) :
    (Audit.finish id status message).Asks kind := by
  have hupdate : ∀ id now, (Repository.updateAuditEntry id
      (AuditEntry.finishing now (.text status) (.ofText? message))).Asks kind := by
    intro id now
    unfold Repository.updateAuditEntry
    cases ObjectId.ofValue? id with
    | none => trivial
    | some oid =>
      refine (asks_connect.mono hquiet).bind fun _ => ⟨hchange oid now, fun x => ?_⟩
      rcases x with e | (_ | d)
      · trivial
      · trivial
      · refine ⟨hquiet _ trivial, fun now => ?_⟩
        simp only [Program.bind]
        cases Repository.auditEntryOf now d <;> trivial
  unfold Audit.finish Audit.finishDescribed
  split
  · trivial
  · refine ⟨hquiet _ trivial, fun now => (hupdate _ now).attempt.bind fun outcome => ?_⟩
    cases outcome with
    | ok entry => trivial
    | error f => exact ⟨hquiet _ trivial, fun _ => trivial⟩

end Kinds

/-- A state at which no client of the store could be made. -/
def Setting.Refuses (c : Setting σ) (s : σ) : Prop :=
  ∃ before f, c.moves before ⟨.connect, Except.error f⟩ s

/-- What quiet requests keep is kept until there is a client, or none can be made. -/
theorem connect_upholds {I : σ → Prop} {s : σ} (hquiet : c.Keeps Request.IsQuiet I) (hs : I s) :
    Repository.connect.Upholds c s fun s o =>
      I s ∧ (o = .done () ∨ c.Refuses s ∧ ∃ f, o = .failed f) := by
  have hconnect := hquiet s .connect trivial hs
  refine ⟨hconnect.1, fun x s' hmoves => ?_⟩
  have hs' := hconnect.2 x s' hmoves
  match x with
  | .error f => exact ⟨hs', Or.inr ⟨⟨s, f, hmoves⟩, _, rfl⟩⟩
  | .ok false => exact ⟨hs', Or.inl rfl⟩
  | .ok true =>
    let e : Journal.Entry := ⟨.info, Repository.speaker,
      "MongoDB client initialized for event loop <id> (lazy initialization)"⟩
    have hreport := hquiet s' (.report e) trivial hs'
    exact ⟨hreport.1, fun u s'' hmoves' => ⟨hreport.2 u s'' hmoves', Or.inl rfl⟩⟩

/-- An entry for the journal keeps what quiet requests keep. -/
theorem report_upholds {I : σ → Prop} {s : σ} (hquiet : c.Keeps Request.IsQuiet I)
    (e : Journal.Entry) (hs : I s) :
    (report e).Upholds c s fun s o => o = .done () ∧ I s :=
  have hreport := hquiet s (.report e) trivial hs
  ⟨hreport.1, fun _ s' hmoves => ⟨rfl, hreport.2 _ s' hmoves⟩⟩

/-- Several entries for the journal keep what quiet requests keep. -/
theorem reportAll_upholds {I : σ → Prop} {s : σ} (hquiet : c.Keeps Request.IsQuiet I)
    (remarks : List Journal.Entry) (hs : I s) :
    (reportAll remarks).Upholds c s fun s o => o = .done () ∧ I s := by
  induction remarks generalizing s with
  | nil => exact ⟨rfl, hs⟩
  | cons e rest ih => exact (report_upholds hquiet e hs).bind_unit fun s hs => ih hs

/-- An update of a test run writes its change, unless there is no client of the store or the text
does not spell an id. -/
theorem updateTestRun_upholds {I : σ → Prop} {J : Bool → σ → Prop} {s : σ} (id : String)
    (changes : Fields) (hquiet : c.Keeps Request.IsQuiet I)
    (hlater : c.Keeps Request.IsQuiet (J false))
    (hnone : ObjectId.ofText? id = none → ∀ s, I s → J false s)
    (hwrite : ∀ oid, ObjectId.ofText? id = some oid → ∀ s now, I s →
      let q : Query := .update .testRuns oid (changes.insert "updated_at" (.date now))
      c.fits s (.query q) ∧ ∀ (x : Except StoreError q.Answer) s',
        c.moves s ⟨.query q, x⟩ s' → J (x.toOption.getD false) s')
    (hs : I s) :
    (Repository.updateTestRun id changes).Upholds c s fun s o =>
      (∃ b, o = .done b ∧ J b s) ∨ (∃ f, o = .failed f) ∧ c.Refuses s ∧ I s := by
  unfold Repository.updateTestRun
  cases hid : ObjectId.ofText? id with
  | none => exact Or.inl ⟨false, rfl, hnone hid s hs⟩
  | some oid =>
    refine (connect_upholds hquiet hs).bind ?_ ?_ ?_
    · rintro s u ⟨hs, -⟩
      have hclock := hquiet s .clock trivial hs
      refine ⟨hclock.1, fun now s' hmoves => ?_⟩
      obtain ⟨hfits, hwritten⟩ := hwrite oid hid s' now (hclock.2 now s' hmoves)
      refine ⟨hfits, fun x s'' hmoves' => ?_⟩
      have hJ := hwritten x s'' hmoves'
      cases x with
      | ok matched => exact Or.inl ⟨matched, rfl, hJ⟩
      -- an update that the store refuses counts as not done
      | error e =>
        refine (report_upholds hlater _ hJ).bind_unit fun s hs => ?_
        exact Or.inl ⟨false, rfl, hs⟩
    · rintro s f ⟨hs, ho | ⟨hrefuses, -⟩⟩
      · cases ho
      · exact Or.inr ⟨⟨f, rfl⟩, hrefuses, hs⟩
    · rintro s ⟨-, ho | ⟨-, f, ho⟩⟩ <;> cases ho

/-! ## Calls of the audit -/

/-- The requests that the audit makes. -/
def Request.IsOfAudit (r : Request) : Prop := r.IsQuiet ∨ r.IsAudit

theorem isPatient_of_isOfAudit {r : Request} (x : r.Answer) (h : r.IsOfAudit) :
    Exchange.IsPatient ⟨r, x⟩ := by
  cases r with
  | sleep ms => exact (h.elim id id).elim
  | _ => trivial

theorem asks_begin (v : Audit.Visit) : (Audit.begin v).Asks Request.IsOfAudit :=
  Asks.begin (fun _ => Or.inl) v fun _ => Or.inr trivial

theorem asks_finish (id : Option String) (status : String) (message : Option String) :
    (Audit.finish id status message).Asks Request.IsOfAudit :=
  Asks.finish (fun _ => Or.inl) id status message fun _ _ => Or.inr trivial

/-- The beginning of a visit in the audit keeps what the requests of the audit keep. -/
theorem begin_upholds {I : σ → Prop} {s : σ} (haudit : c.Keeps Request.IsOfAudit I)
    (v : Audit.Visit) (hs : I s) :
    (Audit.begin v).Upholds c s fun s o => ∃ entry, o = .done entry ∧ I s := by
  refine ((asks_begin v).upholds haudit (begin_ensures v)
    (fun r x => isPatient_of_isOfAudit x) hs).mono ?_
  rintro s o ⟨hs, es, entry, ho, -⟩
  exact ⟨entry, ho, hs⟩

/-- The end of a visit in the audit keeps what the requests of the audit keep. -/
theorem finish_upholds {I : σ → Prop} {s : σ} (haudit : c.Keeps Request.IsOfAudit I)
    (id : Option String) (status : String) (message : Option String) (hs : I s) :
    (Audit.finish id status message).Upholds c s fun s o => o = .done () ∧ I s := by
  refine ((asks_finish id status message).upholds haudit (finish_ensures id status message)
    (fun r x => isPatient_of_isOfAudit x) hs).mono ?_
  rintro s o ⟨hs, es, ho, -⟩
  exact ⟨ho, hs⟩

/-- Where a client can always be made, a visit that begins asks for the time and enters itself. -/
theorem begin_enters {I : σ → Prop} {J : Moment → σ → Prop} {K : ObjectId → σ → Prop} {s : σ}
    (v : Audit.Visit) (hopen : ∀ s, ¬ c.Refuses s)
    (hclock : ∀ s, I s → c.fits s .clock ∧ ∀ now s', c.moves s ⟨.clock, now⟩ s' → J now s')
    (hquiet : ∀ now, c.Keeps Request.IsQuiet (J now))
    (hinsert : ∀ now s, J now s →
      let q : Query := .insert .executionLogs (v.entry now).document
      c.fits s (.query q) ∧ ∀ (x : Except StoreError q.Answer) s', c.moves s ⟨.query q, x⟩ s' →
        ∃ oid, x = .ok (some oid) ∧ K oid s')
    (hs : I s) :
    (Audit.begin v).Upholds c s fun s o =>
      ∃ oid : ObjectId, o = .done (some oid.text) ∧ K oid s := by
  refine ⟨(hclock s hs).1, fun now s hmoves => ?_⟩
  have hs := (hclock _ hs).2 now s hmoves
  have hcreate : (Repository.createAuditEntry (v.entry now)).Upholds c s fun s o =>
      ∃ oid : ObjectId, o = .done { v.entry now with id := some oid.text } ∧ K oid s := by
    refine (connect_upholds (hquiet now) hs).bind ?_ ?_ ?_
    · rintro s u ⟨hs, -⟩
      obtain ⟨hfits, hentered⟩ := hinsert now s hs
      refine ⟨hfits, fun x s' hmoves => ?_⟩
      obtain ⟨oid, rfl, hK⟩ := hentered x s' hmoves
      exact ⟨oid, rfl, hK⟩
    · rintro s f ⟨-, ho | ⟨hrefuses, -⟩⟩
      · cases ho
      · exact absurd hrefuses (hopen s)
    · rintro s ⟨-, ho | ⟨-, f, ho⟩⟩ <;> cases ho
  have hattempt : (Repository.createAuditEntry (v.entry now)).attempt.Upholds c s fun s o =>
      ∃ x, o = .done x ∧
        ∃ oid : ObjectId, x = .ok { v.entry now with id := some oid.text } ∧ K oid s := by
    refine hcreate.attempt ?_ ?_ ?_
    · rintro s entry ⟨oid, ho, hK⟩
      cases ho
      exact ⟨_, rfl, oid, rfl, hK⟩
    · rintro s f ⟨oid, ho, -⟩
      cases ho
    · rintro s ⟨oid, ho, -⟩
      cases ho
  show Upholds c ((Repository.createAuditEntry (v.entry now)).attempt >>= _) s _
  refine Upholds.bind_done hattempt ?_
  rintro s x ⟨oid, rfl, hK⟩
  exact ⟨oid, rfl, hK⟩

/-- Where a client can always be made, an audit entry with an id is changed. -/
theorem updateAuditEntry_changes {I K : σ → Prop} {s : σ} (id : Value) {oid : ObjectId}
    (hid : ObjectId.ofValue? id = some oid) {changes : Fields} (hopen : ∀ s, ¬ c.Refuses s)
    (hquiet : c.Keeps Request.IsQuiet I)
    (hchange : ∀ s, I s → c.fits s (.query (.change .executionLogs oid changes)) ∧
      ∀ (x : Except StoreError (Option Document)) s',
        c.moves s ⟨.query (.change .executionLogs oid changes), x⟩ s' → K s')
    (hlater : c.Keeps Request.IsQuiet K) (hs : I s) :
    (Repository.updateAuditEntry id changes).Upholds c s fun s o => ∃ x, o = outcomeOf x ∧ K s := by
  unfold Repository.updateAuditEntry
  rw [hid]
  refine (connect_upholds hquiet hs).bind ?_ ?_ ?_
  · rintro s u ⟨hs, -⟩
    obtain ⟨hfits, hchanged⟩ := hchange s hs
    refine ⟨hfits, fun x s' hmoves => ?_⟩
    have hK := hchanged x s' hmoves
    rcases x with e | (_ | d)
    · exact ⟨.error _, rfl, hK⟩
    · exact ⟨.ok none, rfl, hK⟩
    · have hclock := hlater s' .clock trivial hK
      refine ⟨hclock.1, fun now s'' hmoves' => ?_⟩
      simp only [Program.bind]
      cases Repository.auditEntryOf now d with
      | ok entry => exact ⟨.ok (some entry), rfl, hclock.2 now s'' hmoves'⟩
      | error e => exact ⟨.error _, rfl, hclock.2 now s'' hmoves'⟩
  · rintro s f ⟨-, ho | ⟨hrefuses, -⟩⟩
    · cases ho
    · exact absurd hrefuses (hopen s)
  · rintro s ⟨-, ho | ⟨-, f, ho⟩⟩ <;> cases ho

/-- Where a client can always be made, a visit that ends asks for the time and notes it in its
entry. -/
theorem finish_changes {I : σ → Prop} {J : Moment → σ → Prop} {K : σ → Prop} {s : σ}
    {id : String} {oid : ObjectId} (hoid : ObjectId.ofText? id = some oid) (status : String)
    (message : Option String) (hopen : ∀ s, ¬ c.Refuses s)
    (hclock : ∀ s, I s → c.fits s .clock ∧ ∀ now s', c.moves s ⟨.clock, now⟩ s' → J now s')
    (hquiet : ∀ now, c.Keeps Request.IsQuiet (J now))
    (hchange : ∀ now s, J now s →
      let q : Query :=
        .change .executionLogs oid (AuditEntry.finishing now (.text status) (.ofText? message))
      c.fits s (.query q) ∧
        ∀ (x : Except StoreError q.Answer) s', c.moves s ⟨.query q, x⟩ s' → K s')
    (hlater : c.Keeps Request.IsQuiet K) (hs : I s) :
    (Audit.finish (some id) status message).Upholds c s fun s o => o = .done () ∧ K s := by
  -- a text that spells an id is not empty, so the end is written
  show Upholds c (if (Value.text id).isFalsy = true then .done () else _) s _
  rw [ObjectId.isFalsy_of_ofText? hoid, if_neg Bool.false_ne_true]
  refine ⟨(hclock s hs).1, fun now s hmoves => ?_⟩
  have hs := (hclock _ hs).2 now s hmoves
  show Upholds c ((Repository.updateAuditEntry (.text id)
    (AuditEntry.finishing now (.text status) (.ofText? message))).attempt >>= _) s _
  have hupdate := updateAuditEntry_changes (.text id) hoid hopen (hquiet now) (hchange now) hlater
    hs
  refine Upholds.bind_done hupdate.attempt_outcomeOf fun s x hK => ?_
  cases x with
  | ok entry => exact ⟨rfl, hK⟩
  | error f => exact report_upholds hlater _ hK

/-! ## Visits -/

/-- The requests that the visit of a node makes, apart from a pause: only an action posts. -/
def Request.IsOfVisit (n : Node) : Request → Prop
  | .post _ => n.type = "action"
  | r => r.IsQuiet

theorem isOfVisit_of_isQuiet {n : Node} {r : Request} (h : r.IsQuiet) : r.IsOfVisit n := by
  cases r <;> first | exact h | exact h.elim

namespace Runner

variable {r : Runner} {a : Assignment} {n : Node} {used : Usage} {s : σ}

theorem isPatient_of_isOfVisit {q : Request} (x : q.Answer) (h : q.IsOfVisit n) :
    Exchange.IsPatient ⟨q, x⟩ := by
  cases q with
  | sleep ms => exact h.elim
  | _ => trivial

/-- How the visit of a node ends: it goes on to the node that follows, having waited or not; it
fails; or it is cancelled in a pause. -/
inductive Leaves (a : Assignment) (n : Node) (used : Usage) (I lost : σ → Prop)
    (waited : Int → σ → Prop) : σ → Outcome Step → Prop
  | passed {s : σ} {message : String} (hs : I s) :
      Leaves a n used I lost waited s
        (.done ⟨message, used, a.flow.follow? n (n.outcome a.recipient)⟩)
  | waited {s : σ} {message : String} {d : Delay} {now : Moment} {ms : Int}
      (hdelay : n.payload = .delay d) (hms : d.milliseconds now = .ok ms)
      (hguard : Guard.check used ms = .allowed) (hs : waited ms s) :
      Leaves a n used I lost waited s
        (.done ⟨message, ⟨used.steps, used.delayMs + ms⟩,
          a.flow.follow? n (n.outcome a.recipient)⟩)
  | failed {s : σ} {f : Failure} (hs : I s) : Leaves a n used I lost waited s (.failed f)
  | cancelled {s : σ} (hs : lost s) : Leaves a n used I lost waited s .cancelled

/-- A visit whose pauses leave it where it was ends there too, unless it is cancelled. If it ends
well it has used no further step, and goes on to the node that follows. -/
theorem Leaves.goes {I lost : σ → Prop} {o : Outcome Step}
    (h : Leaves a n used I lost (fun _ => I) s o) :
    (∃ x, o = outcomeOf x ∧ I s ∧ ∀ step, x = .ok step →
      step.used.steps = used.steps ∧ step.next = a.flow.follow? n (n.outcome a.recipient)) ∨
        o = .cancelled ∧ lost s := by
  cases h with
  | passed hs =>
    refine Or.inl ⟨.ok _, rfl, hs, ?_⟩
    rintro step ⟨⟩
    exact ⟨rfl, rfl⟩
  | waited hdelay hms hguard hs =>
    refine Or.inl ⟨.ok _, rfl, hs, ?_⟩
    rintro step ⟨⟩
    exact ⟨rfl, rfl⟩
  | failed hs =>
    refine Or.inl ⟨.error _, rfl, hs, ?_⟩
    rintro step ⟨⟩
  | cancelled hs => exact Or.inr ⟨rfl, hs⟩

theorem Leaves.ended {I lost : σ → Prop} {o : Outcome Step}
    (h : Leaves a n used I lost (fun _ => I) s o) :
    (∃ x, o = outcomeOf x ∧ I s) ∨ o = .cancelled ∧ lost s :=
  h.goes.imp_left fun ⟨x, ho, hs, _⟩ => ⟨x, ho, hs⟩

/-- An action posts its message, and goes on if it was delivered. -/
theorem visitAction_upholds {I lost : σ → Prop} {waited : Int → σ → Prop}
    {message : Option String} {extras : Fields} (hpayload : n.payload = .action message extras)
    (hvisit : c.Keeps (Request.IsOfVisit n) I) (hs : I s) :
    (r.visitAction a n message used).Upholds c s (Leaves a n used I lost waited) := by
  have haction : n.type = "action" := by rw [Node.type, hpayload]; rfl
  have hfollow : a.flow.next? n.id = a.flow.follow? n (n.outcome a.recipient) := by
    rw [Flow.follow?, hpayload]
  have hquiet : c.Keeps Request.IsQuiet I := fun s r hr => hvisit s r (isOfVisit_of_isQuiet hr)
  refine (report_upholds hquiet _ hs).bind_unit fun s hs => ?_
  have hasks : (r.notifier.send a.recipient r.subject (bodyOf message)).Asks
      (Request.IsOfVisit n) := asks_send (fun _ => trivial) (fun _ => haction) _ _ _ _
  have hsend := hasks.upholds hvisit
    (r.notifier.send_ensures a.recipient r.subject (bodyOf message))
    (fun q x => isPatient_of_isOfVisit x) hs
  refine hsend.bind ?_ ?_ ?_
  · rintro s v ⟨hs, -⟩
    simp only [upholds_pure, hfollow]
    exact Leaves.passed hs
  · rintro s f ⟨hs, -⟩
    exact Leaves.failed hs
  · rintro s ⟨-, es, delivered, -, ho⟩
    exact absurd ho not_isDeliveryEnd_cancelled

/-- A delay asks for the time and the guard, and waits if it may. -/
theorem visitDelay_upholds {I lost : σ → Prop} {waited : Int → σ → Prop} {d : Delay}
    (hpayload : n.payload = .delay d) (hquiet : c.Keeps Request.IsQuiet I)
    (hsleep : ∀ d now ms, n.payload = .delay d → d.milliseconds now = .ok ms →
      Guard.check used ms = .allowed → ∀ s, I s →
        c.fits s (.sleep ms) ∧
          (∀ s', c.moves s ⟨.sleep ms, Wake.elapsed⟩ s' → waited ms s') ∧
          ∀ s', c.moves s ⟨.sleep ms, Wake.cancelled⟩ s' → lost s') (hs : I s) :
    (visitDelay a n d used).Upholds c s (Leaves a n used I lost waited) := by
  have hfollow : a.flow.next? n.id = a.flow.follow? n (n.outcome a.recipient) := by
    rw [Flow.follow?, hpayload]
  have hclock := hquiet s .clock trivial hs
  refine ⟨hclock.1, fun now s hmoves => ?_⟩
  have hs := hclock.2 now s hmoves
  show Upholds c (ofExcept ((d.milliseconds now).mapError .delay) >>= _) _ _
  cases hms : d.milliseconds now with
  | error fault => exact Leaves.failed hs
  | ok ms =>
    show Upholds c (passGuard (Guard.check used ms) >>= _) _ _
    cases hguard : Guard.check used ms with
    | rejected reason => exact Leaves.failed hs
    | unstated => exact Leaves.failed hs
    | allowed =>
      refine (report_upholds hquiet _ hs).bind_unit fun s hs => ?_
      obtain ⟨hfits, helapsed, hcancelled⟩ := hsleep d now ms hpayload hms hguard s hs
      unfold pause
      split
      -- the wait in seconds is no number in double precision
      · exact Leaves.failed hs
      · refine ⟨hfits, fun wake s' hmoves => ?_⟩
        cases wake with
        | elapsed =>
          show Upholds c (pure _) _ _
          simp only [upholds_pure, hfollow]
          exact Leaves.waited hpayload hms hguard (helapsed s' hmoves)
        | cancelled => exact Leaves.cancelled (hcancelled s' hmoves)

/-- A condition reports its remarks, and goes on if it finds a way. -/
theorem visitCondition_upholds {I lost : σ → Prop} {waited : Int → σ → Prop} {rules : List Rule}
    {extras : Fields} (hpayload : n.payload = .condition rules extras)
    (hquiet : c.Keeps Request.IsQuiet I) (hs : I s) :
    (visitCondition a n rules used).Upholds c s (Leaves a n used I lost waited) := by
  unfold visitCondition Condition.evaluate
  refine (reportAll_upholds hquiet _ hs).bind_unit fun s hs => ?_
  rw [← Node.outcome_of_condition hpayload]
  cases hbranch : branch? a.flow n.id (n.outcome a.recipient) with
  | none => exact (report_upholds hquiet _ hs).bind_unit fun s hs => Leaves.failed hs
  | some e =>
    cases hnode : a.flow.node? e.target with
    | none =>
      simp only [hnode, upholds_failed]
      exact Leaves.failed hs
    | some next =>
      have hnext : a.flow.follow? n (n.outcome a.recipient) = some next := by
        rw [Flow.follow?_of_condition hpayload, hbranch]
        exact hnode
      simp only [hnode, upholds_pure]
      rw [← hnext]
      exact Leaves.passed hs

/-- The visit of a node keeps what its requests keep, but for a pause that the guard allows. -/
theorem visit_upholds {I L : σ → Prop} {W : Int → σ → Prop}
    (hvisit : c.Keeps (Request.IsOfVisit n) I)
    (hsleep : ∀ d now ms, n.payload = .delay d → d.milliseconds now = .ok ms →
      Guard.check used ms = .allowed → ∀ s, I s →
        c.fits s (.sleep ms) ∧
          (∀ s', c.moves s ⟨.sleep ms, Wake.elapsed⟩ s' → W ms s') ∧
          ∀ s', c.moves s ⟨.sleep ms, Wake.cancelled⟩ s' → L s') (hs : I s) :
    (r.visit a n used).Upholds c s (Leaves a n used I L W) := by
  have hquiet : c.Keeps Request.IsQuiet I := fun s r hr => hvisit s r (isOfVisit_of_isQuiet hr)
  unfold visit
  cases hpayload : n.payload with
  | start extras =>
    have hfollow : a.flow.next? n.id = a.flow.follow? n (n.outcome a.recipient) := by
      rw [Flow.follow?, hpayload]
    simp only [upholds_pure, hfollow]
    exact Leaves.passed hs
  | finish extras =>
    have hfollow : none = a.flow.follow? n (n.outcome a.recipient) := by
      rw [Flow.follow?, hpayload]
    simp only [upholds_pure, hfollow]
    exact Leaves.passed hs
  | foreign type hforeign settings =>
    have hfollow : none = a.flow.follow? n (n.outcome a.recipient) := by
      rw [Flow.follow?, hpayload]
    refine (report_upholds hquiet _ hs).bind_unit fun s hs => ?_
    simp only [upholds_pure, hfollow]
    exact Leaves.passed hs
  | action message extras => exact visitAction_upholds hpayload hvisit hs
  | delay d => exact visitDelay_upholds hpayload hquiet hsleep hs
  | condition rules extras => exact visitCondition_upholds hpayload hquiet hs

end Runner

/-! ## The end of a run -/

namespace Runner

/-- What is to be known of the records of the ends of a run: what they start from, that they may be
written, and what they lead to. The first argument of `after` tells whether the record was found. -/
structure Records (c : Setting σ) (a : Assignment) (before : Ending → σ → Prop)
    (after : Bool → Ending → σ → Prop) : Prop where
  keepsBefore : ∀ ending, c.Keeps Request.IsQuiet (before ending)
  keepsAfter : ∀ b ending, c.Keeps Request.IsQuiet (after b ending)
  unnamed : ObjectId.ofText? a.runId = none → ∀ ending s, before ending s → after false ending s
  named : ∀ oid, ObjectId.ofText? a.runId = some oid → ∀ ending s finishedAt now,
    before ending s →
      let q : Query :=
        .update .testRuns oid ((ending.change finishedAt).insert "updated_at" (.date now))
      c.fits s (.query q) ∧ ∀ (x : Except StoreError q.Answer) s',
        c.moves s ⟨.query q, x⟩ s' → after (x.toOption.getD false) ending s'
  refused : ∀ s used last f, c.Refuses s → before (.completed used last) s →
    before (.failed used f) s

variable {a : Assignment} {before : Ending → σ → Prop} {after : Bool → Ending → σ → Prop}
  {ending : Ending} {s : σ}

/-- The end of a walk is recorded, or no client could be made. -/
theorem recordAtNow_upholds (h : Records c a before after) (ending : Ending) (e : Journal.Entry)
    (hs : before ending s) :
    (now >>= fun t => Repository.updateTestRun a.runId (ending.change t) >>= fun _ =>
      report e >>= fun _ => pure ending.summary).Upholds c s fun s o =>
        (∃ b, o = .done ending.summary ∧ after b ending s) ∨
          (∃ f, o = .failed f) ∧ c.Refuses s ∧ before ending s := by
  have hclock := h.keepsBefore ending s .clock trivial hs
  refine ⟨hclock.1, fun t s' hmoves => ?_⟩
  refine (updateTestRun_upholds a.runId (ending.change t) (J := fun b => after b ending)
    (h.keepsBefore ending) (h.keepsAfter false ending)
    (fun hnone s hs => h.unnamed hnone ending s hs)
    (fun oid hid s now hs => h.named oid hid ending s t now hs)
    (hclock.2 t s' hmoves)).bind ?_ ?_ ?_
  · rintro s b (⟨b', -, hs⟩ | ⟨⟨f, ho⟩, -⟩)
    · refine (report_upholds (h.keepsAfter b' ending) e hs).bind_unit fun s hs => ?_
      exact Or.inl ⟨b', rfl, hs⟩
    · cases ho
  · rintro s f (⟨b, ho, -⟩ | ⟨-, hrefuses, hs⟩)
    · cases ho
    · exact Or.inr ⟨⟨f, rfl⟩, hrefuses, hs⟩
  · rintro s (⟨b, ho, -⟩ | ⟨⟨f, ho⟩, -⟩) <;> cases ho

/-- A run ends with the summary of an end that was recorded, or no client could be made. An end that
could not be recorded is replaced by a failure. -/
theorem conclude_upholds (h : Records c a before after) (hs : before ending s) :
    (conclude a ending).Upholds c s fun s o =>
      (∃ b ending', o = .done ending'.summary ∧ after b ending' s) ∨
        (∃ f, o = .failed f) ∧ c.Refuses s := by
  have hfail : ∀ {used f s}, before (.failed used f) s →
      (fail a used f).Upholds c s fun s o =>
        (∃ b ending', o = .done ending'.summary ∧ after b ending' s) ∨
          (∃ f, o = .failed f) ∧ c.Refuses s := by
    intro used f s hs
    refine (recordAtNow_upholds h (.failed used f) _ hs).mono ?_
    rintro s o (⟨b, ho, hs⟩ | ⟨ho, hrefuses, -⟩)
    · exact Or.inl ⟨b, _, ho, hs⟩
    · exact Or.inr ⟨ho, hrefuses⟩
  cases ending with
  | failed used f => exact hfail hs
  | completed used last =>
    have hcomplete : (complete a used last).Upholds c s fun s o =>
        (∃ b, o = .done (Ending.completed used last).summary ∧
          after b (.completed used last) s) ∨
            (∃ f, o = .failed f) ∧ c.Refuses s ∧ before (.completed used last) s :=
      recordAtNow_upholds h (.completed used last) _ hs
    have hattempt : (complete a used last).attempt.Upholds c s fun s o =>
        ∃ x, o = .done x ∧
          ((∃ b, x = .ok (Ending.completed used last).summary ∧
            after b (.completed used last) s) ∨
              (∃ f, x = .error f) ∧ c.Refuses s ∧ before (.completed used last) s) := by
      refine hcomplete.attempt ?_ ?_ ?_
      · rintro s summary (⟨b, ho, hs⟩ | ⟨⟨f, ho⟩, -⟩) <;> cases ho
        exact ⟨.ok _, rfl, Or.inl ⟨b, rfl, hs⟩⟩
      · rintro s f (⟨b, ho, -⟩ | ⟨-, hrefuses, hs⟩)
        · cases ho
        · exact ⟨.error f, rfl, Or.inr ⟨⟨f, rfl⟩, hrefuses, hs⟩⟩
      · rintro s (⟨b, ho, -⟩ | ⟨⟨f, ho⟩, -⟩) <;> cases ho
    refine Upholds.bind_done hattempt fun s x hx => ?_
    rcases hx with ⟨b, rfl, hs⟩ | ⟨⟨f, rfl⟩, hrefuses, hs⟩
    · exact Or.inl ⟨b, _, rfl, hs⟩
    · exact hfail (h.refused s used last f hrefuses hs)

end Runner

/-! ## Outlines -/

/-- Assertions for the points of a run, and what leads from one to the next. -/
structure Outline (c : Setting σ) (r : Runner) (a : Assignment) where
  /-- The run stands before a node. -/
  ready : Node → Usage → σ → Prop
  /-- The record of the run was told of the node. -/
  named : Node → Usage → σ → Prop
  /-- The audit was told that the visit begins, and gave its entry an id. -/
  begun : Node → Usage → Option String → σ → Prop
  /-- The visit is over. -/
  visited : Node → Usage → Option String → Except Failure Step → σ → Prop
  /-- The walk is over. -/
  ended : Ending → σ → Prop
  /-- The run was cancelled in a visit. -/
  lost : σ → Prop
  rejects : ∀ {n used s reason}, ready n used s → Guard.check used 0 = .rejected reason →
    ended (.failed used (.rejected reason)) s
  names : ∀ {n used s}, ready n used s → Guard.check used 0 = .allowed →
    (Repository.updateTestRun a.runId (TestRun.visiting n.id)).Upholds c s fun s o =>
      (∃ b, o = .done b ∧ named n used s) ∨ ∃ f, o = .failed f ∧ ended (.failed used f) s
  begins : ∀ {n used s}, named n used s →
    (Audit.begin (Runner.auditVisit a n)).Upholds c s fun s o =>
      ∃ entry, o = .done entry ∧ begun n used entry s
  visits : ∀ {n used entry s}, begun n used entry s →
    (r.visit a n used).Upholds c s fun s o =>
      (∃ x, o = outcomeOf x ∧ visited n used entry x s) ∨ o = .cancelled ∧ lost s
  finishes : ∀ {n used entry step s}, visited n used entry (.ok step) s →
    (Audit.finish entry AuditEntry.completed (some step.message)).Upholds c s fun s o =>
      o = .done () ∧
        (n.isEnd = true ∨ step.next = none →
          ended (.completed ⟨step.used.steps + 1, step.used.delayMs⟩ n.id) s) ∧
        ∀ next, n.isEnd = false → step.next = some next →
          ready next ⟨step.used.steps + 1, step.used.delayMs⟩ s
  fails : ∀ {n used entry f s}, visited n used entry (.error f) s →
    (Audit.finish entry AuditEntry.failed (some f.reason)).Upholds c s fun s o =>
      o = .done () ∧ ended (.failed used f) s
  remarks : ∀ {n s}, lost s →
    (Runner.cancelRemark a n).Upholds c s fun s o => o = .done () ∧ lost s

namespace Outline

variable {r : Runner} {a : Assignment} {n : Node} {used : Usage} {s : σ}

/-- What holds when a step is over. -/
def Advanced (o : Outline c r a) (n : Node) (used : Usage) (s : σ) : Outcome Step → Prop
  | .done step =>
    (n.isEnd = true ∨ step.next = none →
      o.ended (.completed ⟨step.used.steps + 1, step.used.delayMs⟩ n.id) s) ∧
    ∀ next, n.isEnd = false → step.next = some next →
      o.ready next ⟨step.used.steps + 1, step.used.delayMs⟩ s
  | .failed f => o.ended (.failed used f) s
  | .cancelled => o.lost s

theorem auditedVisit (o : Outline c r a) (hs : o.named n used s) :
    (r.auditedVisit a n used).Upholds c s (o.Advanced n used) := by
  unfold Runner.auditedVisit
  refine Upholds.bind_done (o.begins hs) fun s entry hs => ?_
  -- an attempt turns the end of the visit into a value, unless it is cancelled
  have hvisit : (r.visit a n used).attempt.Upholds c s fun s out =>
      (∃ x, out = .done x ∧ o.visited n used entry x s) ∨ out = .cancelled ∧ o.lost s := by
    refine (o.visits hs).attempt ?_ ?_ ?_
    · rintro s step (⟨x, ho, hs⟩ | ⟨ho, -⟩)
      · cases x <;> cases ho
        exact Or.inl ⟨_, rfl, hs⟩
      · cases ho
    · rintro s f (⟨x, ho, hs⟩ | ⟨ho, -⟩)
      · cases x <;> cases ho
        exact Or.inl ⟨_, rfl, hs⟩
      · cases ho
    · rintro s (⟨x, ho, -⟩ | ⟨-, hs⟩)
      · cases x <;> cases ho
      · exact Or.inr ⟨rfl, hs⟩
  refine hvisit.bind ?_ ?_ ?_
  · rintro s x (⟨x', ho, hs⟩ | ⟨ho, -⟩)
    · cases ho
      cases x with
      | ok step => exact (o.finishes hs).bind_unit fun s hs => hs
      | error f => exact (o.fails hs).bind_unit fun s hs => hs
    · cases ho
  · rintro s f (⟨x, ho, -⟩ | ⟨ho, -⟩) <;> cases ho
  · rintro s (⟨x, ho, -⟩ | ⟨-, hs⟩)
    · cases ho
    · exact hs

/-- One step leads from a point before a node to one before the next, or to the end. -/
theorem advance (o : Outline c r a) (hs : o.ready n used s) :
    (r.advance a n used).Upholds c s (o.Advanced n used) := by
  unfold Runner.advance
  rcases Runner.check_zero_cases used with hguard | ⟨reason, hguard⟩
  · rw [hguard]
    show Upholds c (Repository.updateTestRun a.runId (TestRun.visiting n.id) >>= _) _ _
    refine (o.names hs hguard).bind ?_ ?_ ?_
    · rintro s b (⟨b', -, hs⟩ | ⟨f, ho, -⟩)
      · refine (o.auditedVisit hs).onCancel (fun s step h => h) (fun s f h => h) ?_
        exact fun s hs => o.remarks hs
      · cases ho
    · rintro s f (⟨b, ho, -⟩ | ⟨f', ho, hs⟩) <;> cases ho
      exact hs
    · rintro s (⟨b, ho, -⟩ | ⟨f, ho, -⟩) <;> cases ho
  · rw [hguard]
    exact o.rejects hs hguard

/-- A walk with room for as many steps as the guard allows follows its outline. -/
theorem walk (o : Outline c r a) (steps : Nat) (hroom : Guard.maxSteps ≤ used.steps + steps)
    (hs : o.ready n used s) :
    (r.walk a steps n used).Upholds c s fun s out =>
      (∃ ending, out = .done ending ∧ o.ended ending s) ∨ out = .cancelled ∧ o.lost s := by
  induction steps generalizing n used s with
  -- no room is left because the guard would reject the next step
  | zero =>
    have hguard := Runner.check_of_maxSteps_le 0 (by simpa using hroom)
    exact Or.inl ⟨_, rfl, o.rejects hs hguard⟩
  | succ steps ih =>
    have hstep := (o.advance hs).and_yields (r.advance_steps a n used)
    have hattempt : (r.advance a n used).attempt.Upholds c s fun s out =>
        (∃ x, out = .done x ∧ o.Advanced n used s (outcomeOf x) ∧
          ∀ step, x = .ok step → step.used.steps = used.steps) ∨ out = .cancelled ∧ o.lost s := by
      refine hstep.attempt ?_ ?_ ?_
      · rintro s step ⟨hs, hsteps⟩
        refine Or.inl ⟨.ok step, rfl, hs, fun step' h => ?_⟩
        cases h
        exact hsteps step rfl
      · rintro s f ⟨hs, -⟩
        refine Or.inl ⟨.error f, rfl, hs, fun step h => ?_⟩
        cases h
      · rintro s ⟨hs, -⟩
        exact Or.inr ⟨rfl, hs⟩
    unfold Runner.walk
    refine hattempt.bind ?_ ?_ ?_
    · rintro s x (⟨x', ho, hs, hsteps⟩ | ⟨ho, -⟩)
      · cases ho
        cases x with
        | error f => exact Or.inl ⟨_, rfl, hs⟩
        | ok step =>
          obtain ⟨harrived, honward⟩ := hs
          show Upholds c (if n.isEnd = true then _ else _) _ _
          cases hend : n.isEnd with
          | true => exact Or.inl ⟨_, rfl, harrived (Or.inl hend)⟩
          | false =>
            rw [if_neg Bool.false_ne_true]
            cases hnext : step.next with
            | none => exact Or.inl ⟨_, rfl, harrived (Or.inr hnext)⟩
            | some next =>
              have hmore : Guard.maxSteps ≤ step.used.steps + 1 + steps := by
                rw [hsteps step rfl]
                push_cast at hroom
                omega
              exact ih hmore (honward next hend hnext)
      · cases ho
    · rintro s f (⟨x, ho, -⟩ | ⟨ho, -⟩) <;> cases ho
    · rintro s (⟨x, ho, -⟩ | ⟨-, hs⟩)
      · cases ho
      · exact Or.inr ⟨rfl, hs⟩

/-- A run follows its outline: it says that it begins, walks from the start, and records how the
walk ended. -/
theorem run (o : Outline c r a) {I : σ → Prop} {Q : σ → Outcome Summary → Prop}
    (hquiet : c.Keeps Request.IsQuiet I)
    (hstart : ∀ s, I s → match a.flow.start? with
      | none => o.ended (.failed .zero .startMissing) s
      | some start => o.ready start .zero s)
    (hconclude : ∀ ending s, o.ended ending s → (Runner.conclude a ending).Upholds c s Q)
    (hlost : ∀ s, o.lost s → Q s .cancelled) (hs : I s) : (r.run a).Upholds c s Q := by
  unfold Runner.run
  refine (report_upholds hquiet _ hs).bind_unit fun s hs => ?_
  have hwalk : (r.walkFromStart a).Upholds c s fun s out =>
      (∃ ending, out = .done ending ∧ o.ended ending s) ∨ out = .cancelled ∧ o.lost s := by
    have hbegin := hstart s hs
    unfold Runner.walkFromStart
    cases hs : a.flow.start? with
    | none =>
      rw [hs] at hbegin
      exact Or.inl ⟨_, rfl, hbegin⟩
    | some start =>
      rw [hs] at hbegin
      exact o.walk _ (by decide) hbegin
  refine hwalk.bind ?_ ?_ ?_
  · rintro s ending (⟨ending', ho, hs⟩ | ⟨ho, -⟩)
    · cases ho
      exact hconclude ending s hs
    · cases ho
  · rintro s f (⟨ending, ho, -⟩ | ⟨ho, -⟩) <;> cases ho
  · rintro s (⟨ending, ho, -⟩ | ⟨-, hs⟩)
    · cases ho
    · exact hlost s hs

end Outline

end Automation
