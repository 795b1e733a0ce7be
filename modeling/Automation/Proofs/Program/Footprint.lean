import Automation.Proofs.Program.Dialogue

/-!
# Footprints of dialogues

What a dialogue leaves behind in the world of a run: the messages posted, the pauses, the visits
that the audit was told of, and the changes written to test runs. Most requests leave nothing
behind. Every operation that a run is made of has here one lemma about its footprint and its end;
what a client of the store that cannot be made does to it is said as well (`Refused`).
-/

set_option autoImplicit false

namespace Automation

open World (Outcome)

/-- The text in a field, empty when there is none. -/
def Fields.textOf (fields : Fields) (name : String) : String :=
  match fields.get? name with
  | some (.text s) => s
  | _ => ""

/-- What a dialogue leaves behind: messages posted, pauses in milliseconds, visits begun with the id
and the type of the node, changes written to test runs, and queries that change the test runs in any
other way. -/
structure Footprint where
  posts : List Mail.Post := []
  sleeps : List Int := []
  visits : List (String × String) := []
  writes : List (ObjectId × Fields) := []
  others : List Query := []

namespace Footprint

/-- One footprint after another. -/
def append (f g : Footprint) : Footprint :=
  ⟨f.posts ++ g.posts, f.sleeps ++ g.sleeps, f.visits ++ g.visits, f.writes ++ g.writes,
    f.others ++ g.others⟩

instance : Append Footprint := ⟨append⟩

@[simp] theorem mk_append (posts posts' : List Mail.Post) (sleeps sleeps' : List Int)
    (visits visits' : List (String × String)) (writes writes' : List (ObjectId × Fields))
    (others others' : List Query) :
    (⟨posts, sleeps, visits, writes, others⟩ : Footprint) ++
        (⟨posts', sleeps', visits', writes', others'⟩ : Footprint) =
      ⟨posts ++ posts', sleeps ++ sleeps', visits ++ visits', writes ++ writes',
        others ++ others'⟩ := rfl

@[simp] theorem posts_append (f g : Footprint) : (f ++ g).posts = f.posts ++ g.posts := rfl

@[simp] theorem sleeps_append (f g : Footprint) : (f ++ g).sleeps = f.sleeps ++ g.sleeps := rfl

@[simp] theorem visits_append (f g : Footprint) : (f ++ g).visits = f.visits ++ g.visits := rfl

@[simp] theorem writes_append (f g : Footprint) : (f ++ g).writes = f.writes ++ g.writes := rfl

@[simp] theorem others_append (f g : Footprint) : (f ++ g).others = f.others ++ g.others := rfl

@[simp] theorem empty_append (f : Footprint) : ({} : Footprint) ++ f = f := rfl

@[simp] theorem append_empty (f : Footprint) : f ++ ({} : Footprint) = f := by
  obtain ⟨posts, sleeps, visits, writes, others⟩ := f
  simp

theorem append_assoc (f g h : Footprint) : f ++ g ++ h = f ++ (g ++ h) := by
  obtain ⟨posts, sleeps, visits, writes, others⟩ := f
  obtain ⟨posts', sleeps', visits', writes', others'⟩ := g
  obtain ⟨posts'', sleeps'', visits'', writes'', others''⟩ := h
  simp

end Footprint

namespace Exchange

/-- What one exchange leaves behind. -/
def footprint : Exchange → Footprint
  | ⟨.post p, _⟩ => { posts := [p] }
  | ⟨.sleep ms, _⟩ => { sleeps := [ms] }
  | ⟨.query (.insert .executionLogs fields), _⟩ =>
    { visits := [(fields.textOf "node_id", fields.textOf "node_type")] }
  | ⟨.query (.update .testRuns id changes), _⟩ => { writes := [(id, changes)] }
  | ⟨.query (.insert .testRuns fields), _⟩ => { others := [.insert .testRuns fields] }
  | ⟨.query (.change .testRuns id changes), _⟩ => { others := [.change .testRuns id changes] }
  | ⟨.query (.delete .testRuns id), _⟩ => { others := [.delete .testRuns id] }
  | _ => {}

/-- A pause that is over when its time has passed, or anything else. -/
def IsPatient : Exchange → Prop
  | ⟨.sleep _, wake⟩ => wake = .elapsed
  | _ => True

/-- A client of the store that could not be made. -/
def IsRefusal : Exchange → Prop
  | ⟨.connect, .error _⟩ => True
  | _ => False

end Exchange

/-- With this responder every pause is over when its time has passed, so nothing is cancelled. -/
def Responder.IsPatient (env : Responder) : Prop :=
  ∀ before ms, env.answer before (.sleep ms) = .elapsed

theorem Responder.IsPatient.exchange {env : Responder} (h : env.IsPatient)
    (before : List Exchange) (q : Request) : Exchange.IsPatient ⟨q, env.answer before q⟩ := by
  cases q with
  | sleep ms => exact h before ms
  | _ => trivial

/-- What a dialogue leaves behind. -/
def footprint (es : List Exchange) : Footprint :=
  es.foldr (fun e f => e.footprint ++ f) {}

/-- At some time no client of the store could be made. -/
def Refused (es : List Exchange) : Prop := ∃ e ∈ es, e.IsRefusal

@[simp] theorem footprint_nil : footprint [] = {} := rfl

@[simp] theorem footprint_cons (e : Exchange) (es : List Exchange) :
    footprint (e :: es) = e.footprint ++ footprint es := rfl

@[simp] theorem footprint_append (es es' : List Exchange) :
    footprint (es ++ es') = footprint es ++ footprint es' := by
  induction es with
  | nil => rfl
  | cons e es ih => simp [ih, Footprint.append_assoc]

@[simp] theorem refused_append {es es' : List Exchange} :
    Refused (es ++ es') ↔ Refused es ∨ Refused es' := by
  simp [Refused, or_and_right, exists_or]

theorem Refused.cons {e : Exchange} {es : List Exchange} (h : Refused es) : Refused (e :: es) := by
  obtain ⟨e', he', h⟩ := h
  exact ⟨e', List.mem_cons_of_mem _ he', h⟩

theorem refused_of_connect (f : StoreFault) (es : List Exchange) :
    Refused (⟨.connect, .error f⟩ :: es) :=
  ⟨_, List.mem_cons_self, trivial⟩

/-- A responder that never refuses a client is never seen to. -/
theorem not_refused {α : Type} {env : Responder}
    (henv : ∀ before q, ¬ Exchange.IsRefusal ⟨q, env.answer before q⟩) (before : List Exchange)
    (p : Program α) : ¬ Refused (p.dialogue env before).1 := by
  have hnone : ∀ e ∈ (p.dialogue env before).1, ¬ e.IsRefusal :=
    (Program.ensures_allowed p).dialogue henv before
  rintro ⟨e, he, href⟩
  exact hnone e he href

/-! ## The store -/

open Program

theorem connect_ensures :
    Repository.connect.Ensures Exchange.IsPatient fun es o =>
      footprint es = {} ∧ (o = .done () ∨ Refused es ∧ ∃ f, o = .failed f) := by
  intro x _
  match x with
  | .error f => exact ⟨rfl, Or.inr ⟨refused_of_connect f [], _, rfl⟩⟩
  | .ok true => exact fun _ _ => ⟨rfl, Or.inl rfl⟩
  | .ok false => exact ⟨rfl, Or.inl rfl⟩

/-- The changes that an update writes: one with the time of the update, or none when the text does
not spell the id of a test run. -/
def Written (id : String) (changes : Fields) (es : List Exchange)
    (writes : List (ObjectId × Fields)) : Prop :=
  match ObjectId.ofText? id with
  | none => writes = []
  | some oid => ∃ now : Moment, ⟨.clock, now⟩ ∈ es ∧
      writes = [(oid, changes.insert "updated_at" (.date now))]

theorem Written.mono {id : String} {changes : Fields} {es es' : List Exchange}
    {writes : List (ObjectId × Fields)} (h : Written id changes es writes) (hsub : es ⊆ es') :
    Written id changes es' writes := by
  unfold Written at h ⊢
  split at h
  · exact h
  · obtain ⟨now, hnow, hwrites⟩ := h
    exact ⟨now, hsub hnow, hwrites⟩

/-- An update of a test run writes its change, whatever the store answers, unless there is no client
of the store. -/
theorem updateTestRun_ensures (id : String) (changes : Fields) :
    (Repository.updateTestRun id changes).Ensures Exchange.IsPatient fun es o =>
      (∃ b writes, o = .done b ∧ footprint es = { writes } ∧ Written id changes es writes) ∨
        (Refused es ∧ footprint es = {} ∧ ∃ f, o = .failed f) := by
  unfold Repository.updateTestRun Written
  cases ObjectId.ofText? id with
  | none => exact Or.inl ⟨false, [], rfl, rfl, rfl⟩
  | some oid =>
    refine connect_ensures.bind ?_ ?_ ?_
    · rintro es a ⟨hes, -⟩
      simp only [ensures_now_bind]
      intro now _ x _
      cases x with
      | ok matched =>
        refine Or.inl ⟨matched, _, rfl, ?_, now, by simp, rfl⟩
        simp [hes, Exchange.footprint]
      -- a write that fails is told to the journal, and the update ends as not done
      | error e =>
        intro _ _
        refine Or.inl ⟨false, _, rfl, ?_, now, by simp, rfl⟩
        simp [hes, Exchange.footprint]
    · rintro es f ⟨hes, ho | ⟨href, -⟩⟩
      · cases ho
      · exact Or.inr ⟨href, hes, f, rfl⟩
    · rintro es ⟨-, ho | ⟨-, f, ho⟩⟩ <;> cases ho

/-- A new audit entry is a visit begun, unless there is no client of the store. -/
theorem createAuditEntry_ensures (entry : AuditEntry) :
    (Repository.createAuditEntry entry).Ensures Exchange.IsPatient fun es o => o ≠ .cancelled ∧
      (footprint es = { visits := [(entry.nodeId, entry.nodeType)] } ∨
        Refused es ∧ footprint es = {}) := by
  unfold Repository.createAuditEntry
  refine connect_ensures.bind ?_ ?_ ?_
  · rintro es a ⟨hes, -⟩
    intro x _
    have hfoot : footprint (es ++ [⟨.query (.insert .executionLogs entry.document), x⟩]) =
        { visits := [(entry.nodeId, entry.nodeType)] } := by
      rw [footprint_append, hes]
      rfl
    cases x with
    | ok id => exact ⟨outcomeOf_ne_cancelled (.ok _), Or.inl hfoot⟩
    | error e => exact ⟨outcomeOf_ne_cancelled (.error _), Or.inl hfoot⟩
  · rintro es f ⟨hes, ho | ⟨href, -⟩⟩
    · cases ho
    · exact ⟨outcomeOf_ne_cancelled (.error f), Or.inr ⟨href, hes⟩⟩
  · rintro es ⟨-, ho | ⟨-, f, ho⟩⟩ <;> cases ho

/-- A change of an audit entry leaves nothing behind that counts. -/
theorem updateAuditEntry_ensures (id : Value) (changes : Fields) :
    (Repository.updateAuditEntry id changes).Ensures Exchange.IsPatient fun es o =>
      o ≠ .cancelled ∧ footprint es = {} := by
  unfold Repository.updateAuditEntry
  cases ObjectId.ofValue? id with
  | none => exact ⟨outcomeOf_ne_cancelled (.error _), rfl⟩
  | some oid =>
    refine connect_ensures.bind ?_ ?_ ?_
    · rintro es a ⟨hes, -⟩
      intro x _
      rcases x with e | (_ | d)
      · exact ⟨outcomeOf_ne_cancelled (.error _), by simp [hes, Exchange.footprint]⟩
      · exact ⟨outcomeOf_ne_cancelled (.ok none), by simp [hes, Exchange.footprint]⟩
      · intro now _
        simp only [Program.bind]
        cases Repository.auditEntryOf now d with
        | ok entry =>
          exact ⟨outcomeOf_ne_cancelled (.ok (some entry)), by simp [hes, Exchange.footprint]⟩
        | error e => exact ⟨outcomeOf_ne_cancelled (.error _), by simp [hes, Exchange.footprint]⟩
    · rintro es f ⟨hes, -⟩
      exact ⟨outcomeOf_ne_cancelled (.error f), hes⟩
    · rintro es ⟨-, ho | ⟨-, f, ho⟩⟩ <;> cases ho

/-! ## The audit -/

/-- The audit is told of a visit that begins, unless there is no client of the store; it never
stands in the way. -/
theorem begin_ensures (v : Audit.Visit) :
    (Audit.begin v).Ensures Exchange.IsPatient fun es o => ∃ entry, o = .done entry ∧
      (footprint es = { visits := [(v.nodeId, v.nodeType)] } ∨ Refused es ∧ footprint es = {}) := by
  unfold Audit.begin Audit.enter
  simp only [ensures_now_bind]
  intro now _
  have hcreate := createAuditEntry_ensures (v.entry now)
  refine Ensures.bind_done
    (P := fun es _ => footprint es = { visits := [(v.nodeId, v.nodeType)] } ∨
      Refused es ∧ footprint es = {}) ?_ ?_
  · refine (hcreate.attempt_done fun es h => h.1 rfl).mono ?_
    rintro es o ⟨x, ho, -, hes⟩
    exact ⟨x, ho, hes⟩
  · intro es outcome hes
    have hclock : ∀ rest, footprint rest = {} →
        footprint (⟨.clock, now⟩ :: (es ++ rest)) = footprint es := by
      intro rest hrest
      simp [hrest, Exchange.footprint]
    cases outcome with
    | ok entry =>
      refine ⟨_, rfl, ?_⟩
      rw [hclock [] rfl]
      simpa using hes.imp_right (And.imp_left Refused.cons)
    | error f =>
      intro u _
      refine ⟨_, rfl, ?_⟩
      rw [hclock _ rfl]
      refine hes.imp_right fun h => ⟨Refused.cons (refused_append.2 (Or.inl h.1)), h.2⟩

/-- The end of a visit in the audit leaves nothing behind that counts, and never stands in the
way. -/
theorem finish_ensures (id : Option String) (status : String) (message : Option String) :
    (Audit.finish id status message).Ensures Exchange.IsPatient fun es o =>
      o = .done () ∧ footprint es = {} := by
  unfold Audit.finish Audit.finishDescribed
  split
  · exact ⟨rfl, rfl⟩
  · simp only [ensures_now_bind]
    intro now _
    have hupdate := updateAuditEntry_ensures (.ofText? id)
      (AuditEntry.finishing now (.text status) (.ofText? message))
    refine Ensures.bind_done (P := fun es _ => footprint es = {}) ?_ ?_
    · refine (hupdate.attempt_done fun es h => h.1 rfl).mono ?_
      rintro es o ⟨x, ho, -, hes⟩
      exact ⟨x, ho, hes⟩
    · intro es outcome hes
      cases outcome with
      | ok entry => exact ⟨rfl, by simp [hes, Exchange.footprint]⟩
      | error f =>
        intro u _
        exact ⟨rfl, by simp [hes, Exchange.footprint]⟩

end Automation
