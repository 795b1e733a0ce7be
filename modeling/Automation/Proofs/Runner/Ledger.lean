import Automation.Proofs.Runner.Course
import Automation.Proofs.Runner.Sketch
import Automation.Proofs.Store.Ownership

/-!
# Ledgers of runs

A run has its own surroundings: the time whenever it asks for it, and the replies to what it posts.
What it does and what it leaves in the store is worked out from these and from its flow alone, but
for the ids of its documents (`Surroundings.account`): by a sketch whose state is a `Ledger`. A
`Stand` is where a run stands in a store that others change as well, as long as they spare the
records of the run; the requests of a run are answered there by its surroundings (`Shows.hear`) and
by its own records (`Shows.query`).
-/

set_option autoImplicit false

namespace Automation

open World (Outcome)
open Program

/-! ## Outturns -/

/-- What a run has done but for its records: how often it asked for the time, what it posted, how
long it paused, and of which visits it told the audit. -/
structure Tally where
  readings : Nat := 0
  posts : List Mail.Post := []
  sleeps : List Int := []
  visits : List (String × String) := []
  deriving DecidableEq

namespace Tally

/-- After one more look at the clock. -/
def tick (t : Tally) : Tally := { t with readings := t.readings + 1 }

/-- After one more exchange. -/
def after (t : Tally) : Exchange → Tally
  | ⟨.clock, _⟩ => t.tick
  | ⟨.post p, _⟩ => { t with posts := t.posts ++ [p] }
  | ⟨.sleep ms, _⟩ => { t with sleeps := t.sleeps ++ [ms] }
  | ⟨.query (.insert .executionLogs fields), _⟩ =>
    { t with visits := t.visits ++ [(fields.textOf "node_id", fields.textOf "node_type")] }
  | _ => t

/-- After some exchanges. -/
def of (es : List Exchange) : Tally := es.foldl after {}

@[simp] theorem of_concat (es : List Exchange) (e : Exchange) :
    of (es ++ [e]) = (of es).after e := by
  simp [of]

end Tally

/-- What there is to tell of a run, whatever ids its documents have: how it ended, what it did, its
record, and its audit entries in the order in which they were made. -/
structure Outturn where
  ending : Option (Except Failure Summary)
  tally : Tally
  record : Option Fields
  entries : List Fields

/-! ## Surroundings -/

/-- What a run meets: the time, by how often it has asked for it, and the reply to a post. -/
structure Surroundings where
  pace : Nat → Moment
  reply : Mail.Post → Except Mail.TransportFault Mail.Reply

/-- The answer to a request of a visit. -/
def Surroundings.answer (k : Surroundings) (t : Tally) : (r : Request) → r.Answer
  | .clock => k.pace t.readings
  | .post p => k.reply p
  | .sleep _ => .elapsed
  | r => Responder.uneventful.answer [] r

/-- A run as it is worked out: what it has done, its record, the entries of the visits that are
over, and the entry of the visit that goes on. -/
structure Ledger where
  tally : Tally
  record : Fields
  entries : List Fields
  current : Option Fields

namespace Ledger

variable (k : Surroundings)

/-- The time of the next look at the clock. -/
def now (m : Ledger) : Moment := k.pace m.tally.readings

/-- After one more look at the clock. -/
def tick (m : Ledger) : Ledger := { m with tally := m.tally.tick }

/-- The record after a change, if the store can keep what it sets. -/
def revised (record changes : Fields) (now : Moment) : Fields :=
  match Value.storedFields? (changes.insert "updated_at" (.date now)) with
  | .ok kept => record.merge kept
  | .error _ => record

/-- After a change of the record. -/
def revise (changes : Fields) (m : Ledger) : Ledger :=
  { m.tick with record := revised m.record changes (m.now k) }

/-- The fields of the entry of a visit. -/
def visitFields (flow : Flow) (n : Node) (now : Moment) : Fields :=
  Fields.without ["test_run_id"] ((Runner.auditVisit ⟨flow, "", ""⟩ n).entry now).document

/-- After the entry of a visit was made, if it could be. -/
def enter (flow : Flow) (n : Node) (m : Ledger) : Ledger :=
  { m with
    tally := { m.tally.tick with visits := m.tally.visits ++ [(n.id, n.type)] }
    current := (Value.storedFields? (visitFields flow n (m.now k))).toOption }

/-- After the end of a visit was noted in its entry, if there is one and it could be. The entry is
read back, and one that says nothing of the time would have that of the reading. -/
def leave (status : String) (message : Option String) (m : Ledger) : Ledger :=
  match m.current with
  | none => m
  | some entry =>
    match Value.storedFields?
        (AuditEntry.finishing (m.now k) (.text status) (.ofText? message)) with
    | .ok kept =>
      { m.tick.tick with entries := m.entries ++ [entry.merge kept], current := none }
    | .error _ => { m.tick with entries := m.entries ++ [entry], current := none }

/-- A run by its ledger. -/
def sketch (flow : Flow) : Sketch Ledger where
  answer m r := (k.answer m.tally r, { m with tally := m.tally.after ⟨r, k.answer m.tally r⟩ })
  elapses _ _ := rfl
  named n m := m.revise k (TestRun.visiting n.id)
  begun n m := m.enter k flow n
  finished status message m := m.leave k status message
  recorded ending m := m.tick.revise k (ending.change (m.now k))

end Ledger

/-- The id and the start of a flow that may be run, or why it may not. -/
def Flow.admitted (flow : Flow) : Except Failure (String × Node) :=
  match flow.defect?, flow.id, flow.start? with
  | some d, _, _ => .error (.invalidFlow d)
  | none, none, _ | none, some "", _ => .error .unsavedFlow
  | none, some _, none => .error .startMissing
  | none, some id, some start => .ok (id, start)

/-- The account of a run of a flow for a recipient. -/
def Surroundings.account (k : Surroundings) (r : Runner) (flow : Flow) (recipient : String) :
    Outturn :=
  match flow.admitted with
  | .error f => ⟨some (.error f), {}, none, []⟩
  | .ok (id, start) =>
    match Value.storedFields? (TestRun.begin id recipient start.id (k.pace 0)).document with
    | .error _ => ⟨some (.error .runNotCreated), Tally.tick {}, none, []⟩
    | .ok record =>
      let (o, m) := (Ledger.sketch k flow).run r ⟨flow, recipient, ""⟩
        ⟨Tally.tick {}, record, [], none⟩
      ⟨o.result?, m.tally, some m.record, m.entries⟩

/-! ## A store with others -/

/-- Numbers are left whose ids have no more digits than ids are written with. -/
def Store.HasRoom (s : Store) : Prop :=
  s.testRuns.lastNumber < 10 ^ 23 ∧ s.executionLogs.lastNumber < 10 ^ 23

/-- The record that an exchange made. -/
def Exchange.madeRun? : Exchange → Option ObjectId
  | ⟨.query (.insert .testRuns _), .ok id⟩ => id
  | _ => none

/-- Where a run stands: the store, and its own exchanges before. -/
structure Stand where
  store : Store
  past : List Exchange

namespace Stand

/-- The record of the run, once it is made. -/
def run? (s : Stand) : Option ObjectId := s.past.findSome? Exchange.madeRun?

/-- Others go on with the store, and spare the records of the run. -/
structure Later (s s' : Stand) : Prop where
  past : s'.past = s.past
  store : ∀ id, s.run? = some id → s.store.Evolves (Store.SparesRun id.text id) s'.store

/-- How an exchange goes, and what becomes of the store. -/
def Goes (k : Surroundings) (s : Stand) (store : Store) : Exchange → Prop
  | ⟨.clock, now⟩ => now = k.pace (Tally.of s.past).readings ∧ store = s.store
  | ⟨.post p, x⟩ => x = k.reply p ∧ store = s.store
  | ⟨.sleep _, wake⟩ => wake = .elapsed ∧ store = s.store
  | ⟨.connect, x⟩ => (∃ b, x = .ok b) ∧ store = s.store
  | ⟨.query q, x⟩ =>
    (∃ y, s.store.answer q = .ok (y, store) ∧ x = .ok y) ∨
      ∃ e, s.store.answer q = .error e ∧ x = .error (.unstorable e) ∧ store = s.store
  | _ => store = s.store

/-- One exchange of the run, after others went on. -/
def Moves (k : Surroundings) (s : Stand) (e : Exchange) (s' : Stand) : Prop :=
  ∃ t, s.Later t ∧ t.store.NamesNoneAhead ∧ t.Goes k s'.store e ∧ s'.past = t.past ++ [e] ∧
    s'.store.HasRoom

/-- A request by which a run writes nothing but records of its own. -/
def Conducts (s : Stand) : Request → Prop
  | .query q =>
    match s.run? with
    | none => ∃ fields, q = .insert .testRuns fields
    | some id => s.store.IsOfRun id q
  | _ => True

/-- A run among others. -/
def setting (k : Surroundings) : Setting Stand where
  fits s r := ∀ t, s.Later t → t.Conducts r
  moves := Moves k

/-- The account of a run that ended. -/
def account (s : Stand) (o : Outcome (String × Summary)) : Outturn where
  ending := o.result?.map fun result => result.map Prod.snd
  tally := Tally.of s.past
  record := s.run?.bind fun id => (s.store.testRuns.findOne [.idIs id]).map Document.fields
  entries :=
    match s.run? with
    | none => []
    | some id =>
      (s.store.executionLogs.find [.textIs "test_run_id" id.text]).map Document.unnamed

variable {k : Surroundings} {s s' t : Stand} {id : ObjectId} {α : Type}

theorem Later.refl (s : Stand) : s.Later s := ⟨rfl, fun _ _ => .refl _⟩

theorem Later.run? (h : s.Later t) : t.run? = s.run? := by
  unfold Stand.run?
  rw [h.past]

theorem Later.trans {u : Stand} (h : s.Later t) (h' : t.Later u) : s.Later u := by
  refine ⟨h'.past.trans h.past, fun id hid => ?_⟩
  exact (h.store id hid).trans (h'.store id (h.run?.trans hid))

/-- An exchange leaves the store as it is, but for a query that takes effect. -/
theorem Goes.effect {store : Store} {e : Exchange} (h : s.Goes k store e) :
    store = s.store ∨
      ∃ (q : Query) (y : q.Answer), e = ⟨.query q, .ok y⟩ ∧ s.store.answer q = .ok (y, store) := by
  obtain ⟨r, x⟩ := e
  cases r with
  | query q =>
    rcases h with ⟨y, hy, rfl⟩ | ⟨-, -, -, hstore⟩
    · exact Or.inr ⟨q, y, rfl, hy⟩
    · exact Or.inl hstore
  | clock => exact Or.inl h.2
  | post p => exact Or.inl h.2
  | sleep ms => exact Or.inl h.2
  | connect => exact Or.inl h.2
  | _ => exact Or.inl h

/-- What a program upholds it upholds after others went on. -/
theorem upholds_later {p : Program α} {Q : Stand → Outcome α → Prop}
    (h : p.Upholds (setting k) s Q) (hQ : ∀ s t o, s.Later t → Q s o → Q t o)
    (hlater : s.Later t) : p.Upholds (setting k) t Q := by
  cases p with
  | done a => exact hQ s t _ hlater h
  | failed f => exact hQ s t _ hlater h
  | cancelled => exact hQ s t _ hlater h
  | ask r next =>
    refine ⟨fun u hu => h.1 u (hlater.trans hu), fun x s' hmoves => ?_⟩
    obtain ⟨u, hu, hrest⟩ := hmoves
    exact h.2 x s' ⟨u, hlater.trans hu, hrest⟩

/-! ## The records of a run -/

/-- What the run has done, and its records in the store. -/
structure Shows (id : ObjectId) (t : Tally) (record : Fields) (docs : List Document) (s : Stand) :
    Prop where
  run : s.run? = some id
  tally : Tally.of s.past = t
  record : s.store.testRuns.findOne [.idIs id] = some ⟨id, record⟩
  lists : s.store.Lists id.text docs

variable {tally : Tally} {record : Fields} {docs : List Document}

theorem Shows.later (h : Shows id tally record docs s) (hlater : s.Later t) :
    Shows id tally record docs t where
  run := hlater.run?.trans h.run
  tally := by rw [hlater.past, h.tally]
  record := Store.findOne_evolves (hlater.store id h.run) h.record
  lists := (hlater.store id h.run).keeps (fun hq hy h => Store.Lists.spared h hq hy) h.lists

/-- The record of the run stays its own. -/
theorem run?_concat (h : s.run? = some id) (e : Exchange) (store : Store) :
    (Stand.mk store (s.past ++ [e])).run? = some id := by
  unfold run? at h ⊢
  rw [List.findSome?_append, h]
  rfl

/-- A request that is no query leaves the store to the others. -/
theorem plain (s : Stand) {r : Request} (hr : ∀ q, r ≠ .query q) :
    (setting k).fits s r ∧ ∀ (x : r.Answer) s', (setting k).moves s ⟨r, x⟩ s' →
      ∃ t, s.Later t ∧ t.Goes k t.store ⟨r, x⟩ ∧ s' = ⟨t.store, t.past ++ [⟨r, x⟩]⟩ := by
  constructor
  · intro t ht
    cases r with
    | query q => exact absurd rfl (hr q)
    | _ => trivial
  · rintro x ⟨store, past⟩ ⟨t, hlater, -, hgoes, rfl, -⟩
    obtain rfl : store = t.store := by
      rcases hgoes.effect with hstore | ⟨q, y, he, -⟩
      · exact hstore
      · exact absurd (congrArg Exchange.request he) (hr q)
    exact ⟨t, hlater, hgoes, rfl⟩

/-- Such a request leaves the records of the run as they are. -/
theorem Shows.plain (h : Shows id tally record docs s) {r : Request} (hr : ∀ q, r ≠ .query q) :
    (setting k).fits s r ∧ ∀ (x : r.Answer) s', (setting k).moves s ⟨r, x⟩ s' →
      (∃ t : Stand, Tally.of t.past = tally ∧ t.Goes k t.store ⟨r, x⟩) ∧
        Shows id (tally.after ⟨r, x⟩) record docs s' := by
  obtain ⟨hfits, hmoves⟩ := s.plain (k := k) hr
  refine ⟨hfits, fun x s' hs' => ?_⟩
  obtain ⟨t, hlater, hgoes, rfl⟩ := hmoves x s' hs'
  have ht := h.later hlater
  refine ⟨⟨t, ht.tally, hgoes⟩, run?_concat ht.run _ _, ?_, ht.record, ht.lists⟩
  rw [Tally.of_concat, ht.tally]

/-- The requests of a visit are answered by the surroundings. -/
theorem Shows.hear (h : Shows id tally record docs s) {r : Request} (hr : r.IsOfNode) :
    (setting k).fits s r ∧ ∀ (x : r.Answer) s', (setting k).moves s ⟨r, x⟩ s' →
      x = k.answer tally r ∧ Shows id (tally.after ⟨r, x⟩) record docs s' := by
  obtain ⟨hfits, hmoves⟩ := h.plain (k := k) hr.ne_query
  refine ⟨hfits, fun x s' hs' => ?_⟩
  obtain ⟨⟨t, htally, hgoes⟩, hshows⟩ := hmoves x s' hs'
  refine ⟨?_, hshows⟩
  cases r with
  | clock =>
    rw [hgoes.1, htally]
    rfl
  | report e => rfl
  | post p => exact hgoes.1
  | sleep ms => exact hgoes.1
  | _ => exact hr.elim

/-- A query about the records of the run is answered by the store, exactly if what it sets can be
kept. -/
theorem Shows.query (h : Shows id tally record docs s) {q : Query} {fields : Fields}
    (hsets : q.sets? = some fields)
    (hq : ∀ store : Store, store.Lists id.text docs → store.IsOfRun id q) :
    (setting k).fits s (.query q) ∧ ∀ (x : Except StoreError q.Answer) s',
      (setting k).moves s ⟨.query q, x⟩ s' →
        s'.run? = some id ∧ Tally.of s'.past = tally.after ⟨.query q, x⟩ ∧ s'.store.HasRoom ∧
        ∃ t, Shows id tally record docs t ∧
          ((∃ y, t.store.answer q = .ok (y, s'.store) ∧ x = .ok y ∧
              Value.storedFields? fields = .ok (Value.keptFields fields)) ∨
            ∃ e, x = .error (.unstorable e) ∧ s'.store = t.store ∧
              Value.storedFields? fields = .error e) := by
  constructor
  · intro t hlater
    have ht := h.later hlater
    rw [Conducts, ht.run]
    exact hq t.store ht.lists
  · rintro x ⟨store, past⟩ ⟨t, hlater, -, hgoes, rfl, hroom⟩
    have ht := h.later hlater
    have hkept := t.store.answer_of_sets hsets
    refine ⟨run?_concat ht.run _ _, ?_, hroom, t, ht, ?_⟩
    · rw [Tally.of_concat, ht.tally]
    · rcases hgoes with ⟨y, hy, hx⟩ | ⟨e, he, hx, hstore⟩
      · rw [hy] at hkept
        exact Or.inl ⟨y, hy, hx, hkept⟩
      · rw [he] at hkept
        exact Or.inr ⟨e, hx, hstore, hkept⟩

end Stand

end Automation
