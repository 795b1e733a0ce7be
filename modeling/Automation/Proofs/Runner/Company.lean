import Automation.Proofs.Runner.Ledger

/-!
# Runs in company

Among others that spare its records a run does with every call what its ledger says (`Stand.fits`).
So from the call that starts it to its end it comes to the account that is worked out from its flow
and its surroundings (`Stand.fullRun_ends`).
-/

set_option autoImplicit false

namespace Automation

open World (Outcome)
open Program

namespace Stand

variable {k : Surroundings} {s s' t : Stand} {id : ObjectId} {α : Type} {tally : Tally}
  {record : Fields} {docs : List Document}

/-! ## The calls of a run -/

theorem keeps_idle : (setting k).Keeps Request.IsIdle (Shows id tally record docs) := by
  intro s r hr h
  obtain ⟨hfits, hmoves⟩ := h.plain (k := k) hr.ne_query
  refine ⟨hfits, fun x s' hs' => ?_⟩
  have hshows := (hmoves x s' hs').2
  cases r with
  | report e => exact hshows
  | connect => exact hshows
  | _ => exact hr.elim

theorem connect_upholds (h : Shows id tally record docs s) :
    Repository.connect.Upholds (setting k) s fun s o =>
      o = .done () ∧ Shows id tally record docs s := by
  refine connect_done keeps_idle ?_ h
  rintro s s' f - ⟨t, -, -, ⟨⟨b, hb⟩, -⟩, -⟩
  cases hb

theorem report_upholds (h : Shows id tally record docs s) (e : Journal.Entry) :
    (report e).Upholds (setting k) s fun s o => o = .done () ∧ Shows id tally record docs s := by
  obtain ⟨hfits, hmoves⟩ := keeps_idle (k := k) s (.report e) trivial h
  exact ⟨hfits, fun x s' hs' => ⟨rfl, hmoves x s' hs'⟩⟩

theorem now_upholds {next : Moment → Program α} {Q : Stand → Outcome α → Prop}
    (h : Shows id tally record docs s)
    (hnext : ∀ s, Shows id tally.tick record docs s →
      (next (k.pace tally.readings)).Upholds (setting k) s Q) :
    (Program.now >>= next).Upholds (setting k) s Q := by
  obtain ⟨hfits, hmoves⟩ := h.hear (k := k) (r := .clock) trivial
  refine ⟨hfits, fun now s' hs' => ?_⟩
  obtain ⟨rfl, hshows⟩ := hmoves now s' hs'
  exact hnext s' hshows

/-- An update of the record changes it, if the store can keep what it sets. -/
theorem updateTestRun_upholds {runId : String} (hid : ObjectId.ofText? runId = some id)
    (h : Shows id tally record docs s) (changes : Fields) :
    (Repository.updateTestRun runId changes).Upholds (setting k) s fun s o =>
      ∃ b, o = .done b ∧ Shows id tally.tick
        (Ledger.revised record changes (k.pace tally.readings)) docs s := by
  unfold Repository.updateTestRun Ledger.revised
  rw [hid]
  refine (connect_upholds h).bind_unit fun s h => ?_
  refine now_upholds h fun s h => ?_
  generalize changes.insert "updated_at" (.date (k.pace tally.readings)) = sets
  obtain ⟨hfits, hmoves⟩ := h.query (k := k) (q := .update .testRuns id sets) rfl fun _ _ => rfl
  refine ⟨hfits, fun x s' hs' => ?_⟩
  obtain ⟨hrun, htally, -, t, ht, hanswer⟩ := hmoves x s' hs'
  rcases hanswer with ⟨y, hy, rfl, hkept⟩ | ⟨e, rfl, hstore, herror⟩
  · refine ⟨y, rfl, hrun, htally, ?_, ?_⟩
    · rw [hkept, Store.answer_update hy]
      show (t.store.testRuns.change id _).findOne _ = _
      rw [Shelf.findOne_change, ht.record]
      rfl
    · rw [Store.answer_update hy]
      exact ht.lists.congr rfl
  · rw [herror]
    refine (report_upholds (k := k) ⟨hrun, htally, ?_, ?_⟩ _).bind_unit fun s h => ⟨false, rfl, h⟩
    · rw [hstore]
      exact ht.record
    · rw [hstore]
      exact ht.lists

/-- The end of a run is told to its record. -/
theorem tell_upholds {runId : String} (hid : ObjectId.ofText? runId = some id)
    (h : Shows id tally record docs s) (change : Moment → Fields) (e : Journal.Entry) (a : α) :
    (Program.now >>= fun now => Repository.updateTestRun runId (change now) >>= fun _ =>
        report e >>= fun _ => pure a).Upholds (setting k) s fun s o =>
      o = .done a ∧ Shows id tally.tick.tick (Ledger.revised record
        (change (k.pace tally.readings)) (k.pace tally.tick.readings)) docs s := by
  refine now_upholds h fun s h => ?_
  refine (updateTestRun_upholds hid h _).bind_done fun s b h => ?_
  refine (report_upholds h e).bind_unit fun s h => ?_
  exact ⟨rfl, h⟩

theorem conclude_upholds {a : Assignment} (hid : ObjectId.ofText? a.runId = some id)
    (h : Shows id tally record docs s) (ending : Ending) :
    (Runner.conclude a ending).Upholds (setting k) s fun s o => o = .done ending.summary ∧
      Shows id tally.tick.tick (Ledger.revised record (ending.change (k.pace tally.readings))
        (k.pace tally.tick.readings)) docs s := by
  have htold := fun remark => tell_upholds hid h (k := k)
    (fun now => ending.change now) remark ending.summary
  cases ending with
  | failed used f => exact htold _
  | completed used last =>
    have hcomplete := htold ⟨.info, Runner.speaker, "Test run " ++ a.runId ++
      " completed successfully after " ++ toString used.steps ++ " step(s)"⟩
    exact hcomplete.attempt_eq.bind_eq fun s h => ⟨rfl, h⟩

/-! ## The audit entries of a run -/

/-- The entry of a visit comes last, if the store can keep it. -/
theorem create_upholds (h : Shows id tally record docs s) {e : AuditEntry}
    (hrun : e.runId = id.text) :
    (Repository.createAuditEntry e).Upholds (setting k) s fun s o => ∃ x, o = outcomeOf x ∧
      match x with
      | .ok entry => ∃ text d, entry.id = some text ∧ ObjectId.ofText? text = some d.id ∧
          Value.storedFields? e.document = .ok d.fields ∧
          Shows id { tally with visits := tally.visits ++ [(e.nodeId, e.nodeType)] } record
            (docs ++ [d]) s
      | .error _ => (∃ d, Value.storedFields? e.document = .error d) ∧
          Shows id { tally with visits := tally.visits ++ [(e.nodeId, e.nodeType)] } record docs
            s := by
  unfold Repository.createAuditEntry
  refine (connect_upholds h).bind_unit fun s h => ?_
  have hnamed : e.document.get? "test_run_id" = some (.text id.text) := by
    rw [← hrun]
    rfl
  obtain ⟨hfits, hmoves⟩ :=
    h.query (k := k) (q := .insert .executionLogs e.document) rfl fun _ _ => hnamed
  refine ⟨hfits, fun x s' hs' => ?_⟩
  obtain ⟨hmade, htally, hroom, t, ht, hanswer⟩ := hmoves x s' hs'
  rcases hanswer with ⟨y, hy, rfl, hkept⟩ | ⟨error, rfl, hstore, herror⟩
  · obtain ⟨oid, rfl, hnumber, hruns, hlists⟩ := ht.lists.enter hnamed hy
    have hspelt : ObjectId.ofText? oid.text = some oid := by
      refine ObjectId.ofText?_text ?_
      rw [hnumber]
      exact Collection.numbered_isProper hroom.2
    have hshows : Shows id { tally with visits := tally.visits ++ [(e.nodeId, e.nodeType)] } record
        (docs ++ [⟨oid, Value.keptFields e.document⟩]) s' := by
      refine ⟨hmade, htally, ?_, hlists⟩
      rw [hruns]
      exact ht.record
    show Upholds _ (done { e with id := some oid.text }) _ _
    generalize oid.text = text at hspelt
    exact ⟨.ok _, rfl, text, ⟨oid, Value.keptFields e.document⟩, rfl, hspelt, hkept, hshows⟩
  · refine ⟨.error (.auditNotCreated _), rfl, ⟨error, herror⟩, hmade, htally, ?_, ?_⟩
    · rw [hstore]
      exact ht.record
    · rw [hstore]
      exact ht.lists

/-- The end of a visit is noted in its entry, if the store can keep it. -/
theorem change_upholds {d : Document} {text : String} (hid : ObjectId.ofText? text = some d.id)
    (h : Shows id tally record (docs ++ [d]) s) {changes : Fields}
    (hspares : changes.get? "test_run_id" = none) :
    (Repository.updateAuditEntry (.text text) changes).Upholds (setting k) s fun s o =>
      ∃ x, o = outcomeOf x ∧
        match Value.storedFields? changes with
        | .ok kept => Shows id tally.tick record (docs ++ [d.updated kept]) s
        | .error _ => Shows id tally record (docs ++ [d]) s := by
  unfold Repository.updateAuditEntry
  rw [show ObjectId.ofValue? (.text text) = some d.id from hid]
  refine (connect_upholds h).bind_unit fun s h => ?_
  obtain ⟨hfits, hmoves⟩ :=
    h.query (k := k) (q := .change .executionLogs d.id changes) rfl fun store hlists => by
      refine ⟨hspares, fun d' hd' hsame => ?_⟩
      have hlast : d ∈ docs ++ [d] := List.mem_append_right _ List.mem_cons_self
      rw [hlists.own d' hd' d hlast hsame]
      exact (hlists.mem hlast).2
  refine ⟨hfits, fun x s' hs' => ?_⟩
  obtain ⟨hmade, htally, hroom, t, ht, hanswer⟩ := hmoves x s' hs'
  rcases hanswer with ⟨y, hy, rfl, hkept⟩ | ⟨error, rfl, hstore, herror⟩
  · obtain ⟨⟨d', rfl⟩, hruns, hlists⟩ := ht.lists.finish hspares hy
    rw [hkept]
    have hshows : Shows id tally record (docs ++ [d.updated (Value.keptFields changes)]) s' := by
      refine ⟨hmade, htally, ?_, hlists⟩
      rw [hruns]
      exact ht.record
    refine now_upholds hshows fun s h => ?_
    cases Repository.auditEntryOf (k.pace tally.readings) d' with
    | ok entry => exact ⟨.ok (some entry), rfl, h⟩
    | error e => exact ⟨.error _, rfl, h⟩
  · rw [herror]
    refine ⟨.error _, rfl, hmade, htally, ?_, ?_⟩
    · rw [hstore]
      exact ht.record
    · rw [hstore]
      exact ht.lists

/-! ## The sketch fits -/

/-- Between two visits the records of a run are those of its ledger. -/
def Rests (id : ObjectId) (m : Ledger) (s : Stand) : Prop :=
  ∃ docs, m.current = none ∧ docs.map Document.unnamed = m.entries ∧
    Shows id m.tally m.record docs s

/-- In a visit they are so too, and the entry of the visit comes last, if it could be made. -/
inductive Visits (id : ObjectId) (m : Ledger) (s : Stand) : Option String → Prop
  | noted {docs : List Document} {d : Document} {text : String}
      (hentries : docs.map Document.unnamed = m.entries) (hcurrent : m.current = some d.unnamed)
      (hid : ObjectId.ofText? text = some d.id)
      (hshows : Shows id m.tally m.record (docs ++ [d]) s) : Visits id m s (some text)
  | dropped (hrests : Rests id m s) : Visits id m s none

variable {m : Ledger} {entry : Option String} {flow : Flow} {a : Assignment} {n : Node}

theorem Visits.hear (h : Visits id m s entry) {r : Request} (hr : r.IsOfNode) :
    (setting k).fits s r ∧ ∀ (x : r.Answer) s', (setting k).moves s ⟨r, x⟩ s' →
      x = k.answer m.tally r ∧
        Visits id { m with tally := m.tally.after ⟨r, k.answer m.tally r⟩ } s' entry := by
  cases h with
  | noted hentries hcurrent hid hshows =>
    obtain ⟨hfits, hmoves⟩ := hshows.hear (k := k) hr
    refine ⟨hfits, fun x s' hs' => ?_⟩
    obtain ⟨rfl, hshows⟩ := hmoves x s' hs'
    exact ⟨rfl, .noted hentries hcurrent hid hshows⟩
  | dropped hrests =>
    obtain ⟨docs, hcurrent, hentries, hshows⟩ := hrests
    obtain ⟨hfits, hmoves⟩ := hshows.hear (k := k) hr
    refine ⟨hfits, fun x s' hs' => ?_⟩
    obtain ⟨rfl, hshows⟩ := hmoves x s' hs'
    exact ⟨rfl, .dropped ⟨docs, hcurrent, hentries, hshows⟩⟩

/-- A visit that begins has its entry. -/
theorem begin_visits (hflow : a.flow = flow) (hrun : a.runId = id.text) (h : Rests id m s) :
    (Audit.begin (Runner.auditVisit a n)).Upholds (setting k) s fun s o =>
      ∃ entry, o = .done entry ∧ Visits id (m.enter k flow n) s entry := by
  obtain ⟨docs, hcurrent, hentries, hshows⟩ := h
  refine now_upholds hshows fun s hshows => ?_
  show Upholds _ ((Repository.createAuditEntry _).attempt >>= _) s _
  have hcreate := create_upholds (k := k) hshows
    (e := (Runner.auditVisit a n).entry (k.pace m.tally.readings)) hrun
  have hstored : (Value.storedFields?
      ((Runner.auditVisit a n).entry (k.pace m.tally.readings)).document).map
        (Fields.without ["test_run_id"]) =
          Value.storedFields? (Ledger.visitFields flow n (k.pace m.tally.readings)) := by
    rw [AuditEntry.stored_unnamed, ← hflow]
    rfl
  refine hcreate.attempt_outcomeOf.bind_done fun s x hx => ?_
  cases x with
  | ok entry =>
    obtain ⟨text, d, htext, hid, hkept, hshows⟩ := hx
    rw [hkept] at hstored
    refine ⟨entry.id, rfl, ?_⟩
    rw [htext]
    refine .noted hentries ?_ hid hshows
    show (Value.storedFields? (Ledger.visitFields flow n (k.pace m.tally.readings))).toOption = _
    rw [← hstored]
    rfl
  | error f =>
    obtain ⟨⟨defect, herror⟩, hshows⟩ := hx
    rw [herror] at hstored
    refine (report_upholds hshows _).bind_unit fun s hshows => ?_
    refine ⟨none, rfl, .dropped ⟨docs, ?_, hentries, hshows⟩⟩
    show (Value.storedFields? (Ledger.visitFields flow n (k.pace m.tally.readings))).toOption = _
    rw [← hstored]
    rfl

theorem Rests.report (h : Rests id m s) (e : Journal.Entry) :
    (report e).Upholds (setting k) s fun s o => o = .done () ∧ Rests id m s := by
  obtain ⟨docs, hcurrent, hentries, hshows⟩ := h
  exact (report_upholds hshows e).mono fun s o ho => ⟨ho.1, docs, hcurrent, hentries, ho.2⟩

/-- The end of a visit does not name a run, so it goes to what an entry says besides. -/
theorem unnamed_finished {d : Document} {now : Moment} {status message : Value} {kept : Fields}
    (hkept : Value.storedFields? (AuditEntry.finishing now status message) = .ok kept) :
    (d.updated kept).unnamed = d.unnamed.merge kept := by
  obtain rfl := Value.storedFields?_eq_kept _ hkept
  refine Fields.without_merge ?_ _
  simp [AuditEntry.finishing, Value.keptFields]

/-- A visit that ends has its end in its entry. -/
theorem finish_rests (h : Visits id m s entry) (status : String) (message : Option String) :
    (Audit.finish entry status message).Upholds (setting k) s fun s o =>
      o = .done () ∧ Rests id (m.leave k status message) s := by
  cases h with
  | dropped hrests =>
    refine ⟨rfl, ?_⟩
    unfold Ledger.leave
    rw [hrests.choose_spec.1]
    exact hrests
  | @noted docs d text hentries hcurrent hid hshows =>
    -- a text that spells an id is not empty, so the end is written
    show Upholds _ (if (Value.text text).isFalsy = true then .done () else _) s _
    rw [ObjectId.isFalsy_of_ofText? hid, if_neg Bool.false_ne_true]
    refine now_upholds hshows fun s hshows => ?_
    let changes := AuditEntry.finishing (m.now k) (.text status) (.ofText? message)
    have hchange : (Repository.updateAuditEntry (.text text) changes).Upholds (setting k) s
        fun s o => ∃ x, o = outcomeOf x ∧ Rests id (m.leave k status message) s := by
      refine (change_upholds (k := k) hid hshows rfl).mono ?_
      rintro s o ⟨x, ho, hshows⟩
      refine ⟨x, ho, ?_⟩
      unfold Ledger.leave
      rw [hcurrent]
      cases hkept : Value.storedFields? changes with
      | ok kept =>
        simp only [changes] at hkept
        simp only [changes, hkept] at hshows ⊢
        refine ⟨_, rfl, ?_, hshows⟩
        rw [List.map_append, hentries, List.map_singleton, unnamed_finished hkept]
      | error e =>
        simp only [changes] at hkept
        simp only [changes, hkept] at hshows ⊢
        refine ⟨_, rfl, ?_, hshows⟩
        rw [List.map_append, hentries, List.map_singleton]
    show Upholds _ ((Repository.updateAuditEntry (.text text) changes).attempt >>= _) s _
    refine hchange.attempt_outcomeOf.bind_done fun s x hrests => ?_
    cases x with
    | ok entry => exact ⟨rfl, hrests⟩
    | error f => exact hrests.report _

/-- A run does what its sketch says, whatever others do that spare its records. -/
theorem fits (k : Surroundings) {a : Assignment} (hid : ObjectId.ofText? a.runId = some id)
    (hrun : a.runId = id.text) :
    (Ledger.sketch k a.flow).Fits (setting k) a (Rests id)
      fun entry m s => Visits id m s entry where
  remarks e m s h := h.report e
  names n m s h := by
    obtain ⟨docs, hcurrent, hentries, hshows⟩ := h
    refine (updateTestRun_upholds hid hshows (TestRun.visiting n.id)).mono ?_
    rintro s o ⟨b, ho, hshows⟩
    exact ⟨b, ho, docs, hcurrent, hentries, hshows⟩
  begins n m s h := begin_visits rfl hrun h
  asks entry m s r hr h := h.hear hr
  finishes entry status message m s h := finish_rests h status message
  concludes ending m s h := by
    obtain ⟨docs, hcurrent, hentries, hshows⟩ := h
    refine (conclude_upholds hid hshows ending).mono ?_
    rintro s o ⟨ho, hshows⟩
    exact ⟨ho, docs, hcurrent, hentries, hshows⟩

/-! ## From the start to the end -/

/-- The record of the run is still to be made. -/
structure Unmade (tally : Tally) (s : Stand) : Prop where
  run : s.run? = none
  tally : Tally.of s.past = tally

theorem Unmade.later (h : Unmade tally s) (hlater : s.Later t) : Unmade tally t :=
  ⟨hlater.run?.trans h.run, by rw [hlater.past, h.tally]⟩

theorem Unmade.concat (h : Unmade tally s) {e : Exchange} (he : e.madeRun? = none) (store : Store) :
    Unmade (tally.after e) ⟨store, s.past ++ [e]⟩ := by
  refine ⟨?_, ?_⟩
  · have hrun := h.run
    unfold Stand.run? at hrun ⊢
    rw [List.findSome?_append, hrun, List.findSome?_singleton, he]
    rfl
  · rw [Tally.of_concat, h.tally]

theorem Unmade.plain (h : Unmade tally s) {r : Request} (hr : ∀ q, r ≠ .query q) :
    (setting k).fits s r ∧ ∀ (x : r.Answer) s', (setting k).moves s ⟨r, x⟩ s' →
      (∃ t : Stand, Tally.of t.past = tally ∧ t.Goes k t.store ⟨r, x⟩) ∧
        Unmade (tally.after ⟨r, x⟩) s' := by
  obtain ⟨hfits, hmoves⟩ := s.plain (k := k) hr
  refine ⟨hfits, fun x s' hs' => ?_⟩
  obtain ⟨t, hlater, hgoes, rfl⟩ := hmoves x s' hs'
  have ht := h.later hlater
  refine ⟨⟨t, ht.tally, hgoes⟩, ht.concat ?_ _⟩
  cases r with
  | query q => exact absurd rfl (hr q)
  | _ => rfl

theorem keeps_unmade : (setting k).Keeps Request.IsIdle (Unmade tally) := by
  intro s r hr h
  obtain ⟨hfits, hmoves⟩ := h.plain (k := k) hr.ne_query
  refine ⟨hfits, fun x s' hs' => ?_⟩
  have hunmade := (hmoves x s' hs').2
  cases r with
  | report e => exact hunmade
  | connect => exact hunmade
  | _ => exact hr.elim

end Stand

/-- A flow is judged aloud before a run. -/
theorem Runner.admission_eq (flow : Flow) : Runner.admission flow =
    reportAll flow.verdictEntries >>= fun _ => ofExcept flow.admitted := by
  unfold Runner.admission Flow.admitted
  congr 1
  funext _
  generalize flow.defect? = defect, flow.id = id, flow.start? = start
  cases defect with
  | some d => rfl
  | none =>
    cases id with
    | none => rfl
    | some id =>
      by_cases hid : id = ""
      · subst hid
        rfl
      · cases start with
        | none =>
          simp only
          rfl
        | some start =>
          simp only
          rfl

/-- A run from the call that starts it to its end, with the id of its record. -/
def Runner.fullRun (r : Runner) (flow : Flow) (recipient : String) : Program (String × Summary) :=
  Runner.start flow recipient >>= fun runId =>
    r.run ⟨flow, recipient, runId⟩ >>= fun summary => pure (runId, summary)

namespace Stand

variable {k : Surroundings} {s t : Stand} {tally : Tally}

/-- A run came to its end with an account. -/
inductive Ends (e : Outturn) (s : Stand) (o : Outcome (String × Summary)) : Prop
  | unmade {tally : Tally} (hunmade : Unmade tally s)
      (he : e = ⟨o.result?.map fun result => result.map Prod.snd, tally, none, []⟩)
  | made {id : ObjectId} {tally : Tally} {record : Fields} {docs : List Document}
      (hshows : Shows id tally record docs s)
      (he : e = ⟨o.result?.map fun result => result.map Prod.snd, tally, some record,
        docs.map Document.unnamed⟩)

theorem Ends.later {e : Outturn} {o : Outcome (String × Summary)} (h : Ends e s o)
    (hlater : s.Later t) : Ends e t o := by
  cases h with
  | unmade hunmade he => exact .unmade (hunmade.later hlater) he
  | made hshows he => exact .made (hshows.later hlater) he

theorem Ends.account_eq {e : Outturn} {o : Outcome (String × Summary)} (h : Ends e s o) :
    s.account o = e := by
  unfold account
  cases h with
  | unmade hunmade he =>
    rw [he, hunmade.run, hunmade.tally]
    rfl
  | made hshows he =>
    simp only [he, hshows.run, hshows.tally, hshows.record, hshows.lists.found, Option.bind_some,
      Option.map_some]

/-- The record of a run is the document that was made under a new id, and no entry names it yet. -/
theorem Unmade.made (h : Unmade tally s) (hahead : s.store.NamesNoneAhead) {fields : Fields}
    {made : Option ObjectId} {store : Store} (hroom : store.HasRoom)
    (hmade : s.store.answer (.insert .testRuns fields) = .ok (made, store)) :
    ∃ id, made = some id ∧ ObjectId.ofText? id.text = some id ∧
      Shows id tally (Value.keptFields fields) []
        ⟨store, s.past ++ [⟨.query (.insert .testRuns fields), Except.ok made⟩]⟩ := by
  obtain ⟨rfl, hstore⟩ := Store.answer_insert hmade
  have hunused := s.store.uses_freshNumber .testRuns
  have hlast := s.store.lastNumber_lt_freshNumber .testRuns
  have hlt : s.store.freshNumber .testRuns < 10 ^ 23 := by
    have hlt := hroom.1
    rwa [hstore] at hlt
  have hlists := hahead.lists hlast hlt
  refine ⟨_, rfl, ObjectId.ofText?_text (Collection.numbered_isProper hlt), ?_, ?_, ?_, ?_⟩
  · have hrun := h.run
    unfold Stand.run? at hrun ⊢
    rw [List.findSome?_append, hrun]
    rfl
  · rw [Tally.of_concat, h.tally]
    rfl
  · rw [hstore]
    exact Shelf.findOne_concat_self (d := ⟨_, Value.keptFields fields⟩) hunused _
  · rw [hstore]
    exact hlists.congr rfl

/-- The record of a run is made, if the store can keep it. -/
theorem createTestRun_upholds (h : Unmade tally s) (run : TestRun) :
    (Repository.createTestRun run).Upholds (setting k) s fun s o => ∃ saved, o = .done saved ∧
      match Value.storedFields? run.document with
      | .ok record => ∃ id text, saved = some { run with id := some text } ∧ id.text = text ∧
          ObjectId.ofText? text = some id ∧ Shows id tally record [] s
      | .error _ => saved = none ∧ Unmade tally s := by
  have hconnect : Repository.connect.Upholds (setting k) s fun s o =>
      o = .done () ∧ Unmade tally s := by
    refine connect_done keeps_unmade ?_ h
    rintro s s' f - ⟨t, -, -, ⟨⟨b, hb⟩, -⟩, -⟩
    cases hb
  unfold Repository.createTestRun
  refine hconnect.bind_unit fun s h => ⟨?_, ?_⟩
  · intro t hlater
    rw [Conducts, (h.later hlater).run]
    exact ⟨_, rfl⟩
  · rintro x ⟨store, past⟩ ⟨t, hlater, hahead, hgoes, rfl, hroom⟩
    have ht := h.later hlater
    have hkept := t.store.answer_of_sets (q := .insert .testRuns run.document) rfl
    rcases hgoes with ⟨y, hy, rfl⟩ | ⟨e, he, rfl, rfl⟩
    · rw [hy] at hkept
      rw [hkept]
      obtain ⟨id, rfl, hspelt, hshows⟩ := ht.made hahead hroom hy
      generalize htext : id.text = text at hspelt
      show Upholds _ (done (some { run with id := some id.text })) _ _
      rw [htext]
      exact ⟨_, rfl, id, text, rfl, htext, hspelt, hshows⟩
    · rw [he] at hkept
      rw [hkept]
      let refused : Exchange :=
        ⟨.query (.insert .testRuns run.document), Except.error (.unstorable e)⟩
      have hunmade : Unmade tally ⟨t.store, t.past ++ [refused]⟩ := ht.concat (e := refused) rfl _
      obtain ⟨hfits, hmoves⟩ := keeps_unmade (k := k) _ (.report _) trivial hunmade
      exact ⟨hfits, fun x s' hs' => ⟨none, rfl, rfl, hmoves x s' hs'⟩⟩

/-- How the call that starts a run ends: the flow may not be run, or the record cannot be kept, or
the run begins with its record. -/
inductive Starts (k : Surroundings) (flow : Flow) (recipient : String) (s : Stand) :
    Outcome String → Prop
  | rejected {f : Failure} (hflow : flow.admitted = .error f) (h : Unmade {} s) :
      Starts k flow recipient s (.failed f)
  | refused {flowId : String} {node : Node} {e : StorageDefect}
      (hflow : flow.admitted = .ok (flowId, node))
      (hkept : Value.storedFields?
        (TestRun.begin flowId recipient node.id (k.pace 0)).document = .error e)
      (h : Unmade (Tally.tick {}) s) : Starts k flow recipient s (.failed .runNotCreated)
  | begun {flowId : String} {node : Node} {record : Fields} {id : ObjectId} {text : String}
      (hflow : flow.admitted = .ok (flowId, node))
      (hkept : Value.storedFields?
        (TestRun.begin flowId recipient node.id (k.pace 0)).document = .ok record)
      (htext : id.text = text) (hspelt : ObjectId.ofText? text = some id)
      (h : Shows id (Tally.tick {}) record [] s) : Starts k flow recipient s (.done text)

/-- Whether a flow may be run is settled without its record. -/
theorem admission_upholds (h : Unmade tally s) (flow : Flow) :
    (Runner.admission flow).Upholds (setting k) s fun s o =>
      o = outcomeOf flow.admitted ∧ Unmade tally s := by
  have hjudged : (reportAll flow.verdictEntries).Upholds (setting k) s fun s o =>
      o = .done () ∧ Unmade tally s := by
    generalize flow.verdictEntries = entries
    induction entries generalizing s with
    | nil => exact ⟨rfl, h⟩
    | cons e rest ih =>
      obtain ⟨hfits, hmoves⟩ := keeps_unmade (k := k) s (.report e) trivial h
      exact ⟨hfits, fun x s' hs' => ih (hmoves x s' hs')⟩
  rw [Runner.admission_eq]
  refine hjudged.bind_unit fun s h => ?_
  cases flow.admitted with
  | error f => exact ⟨rfl, h⟩
  | ok admitted => exact ⟨rfl, h⟩

theorem start_upholds (h : Unmade {} s) (flow : Flow) (recipient : String) :
    (Runner.start flow recipient).Upholds (setting k) s (Starts k flow recipient) := by
  have hadmitted := admission_upholds (k := k) h flow
  unfold Runner.start
  cases hflow : flow.admitted with
  | error f =>
    rw [hflow] at hadmitted
    refine hadmitted.bind ?_ ?_ ?_
    · rintro s a ⟨ho, -⟩
      cases ho
    · rintro s f' ⟨ho, h⟩
      cases ho
      exact .rejected hflow h
    · rintro s ⟨ho, -⟩
      cases ho
  | ok admitted =>
    rw [hflow] at hadmitted
    obtain ⟨flowId, node⟩ := admitted
    refine Upholds.bind_eq hadmitted fun s h => ?_
    obtain ⟨hfits, hmoves⟩ := h.plain (k := k) (r := .clock) nofun
    refine ⟨hfits, fun now s' hs' => ?_⟩
    obtain ⟨⟨t, htally, hnow, -⟩, h⟩ := hmoves now s' hs'
    obtain rfl : now = k.pace 0 := by
      rw [htally] at hnow
      exact hnow
    have hcreate := createTestRun_upholds (k := k) h
      (TestRun.begin flowId recipient node.id (k.pace 0))
    refine hcreate.bind_done fun s saved hsaved => ?_
    cases hkept : Value.storedFields?
        (TestRun.begin flowId recipient node.id (k.pace 0)).document with
    | error e =>
      rw [hkept] at hsaved
      obtain ⟨rfl, h⟩ := hsaved
      exact .refused hflow hkept h
    | ok record =>
      rw [hkept] at hsaved
      obtain ⟨id, text, rfl, htext, hspelt, h⟩ := hsaved
      obtain ⟨hfits, hmoves⟩ := h.plain (k := k) (r := .launch flow recipient text) nofun
      refine ⟨hfits, fun x s' hs' => ?_⟩
      have h := (hmoves x s' hs').2
      refine (report_upholds h _).bind_unit fun s h => ?_
      exact .begun hflow hkept htext hspelt h

/-- A run comes to the account that is worked out from its flow and its surroundings, whatever
others do that spare its records. -/
theorem fullRun_ends (h : Unmade {} s) (r : Runner) (flow : Flow) (recipient : String) :
    (r.fullRun flow recipient).Upholds (setting k) s (Ends (k.account r flow recipient)) := by
  unfold Runner.fullRun
  refine (start_upholds h flow recipient).bind ?_ ?_ ?_
  · rintro s text hstarts
    cases hstarts with
    | @begun flowId node record id text hflow hkept htext hspelt h =>
      have hrests : Rests id ⟨Tally.tick {}, record, [], none⟩ s := ⟨[], rfl, rfl, h⟩
      have hrun := (fits k (a := ⟨flow, recipient, text⟩) hspelt htext.symm).run (r := r) hrests
      -- the id of the record does not bear on the ledger
      have hsame : (Ledger.sketch k flow).run r ⟨flow, recipient, text⟩
          ⟨Tally.tick {}, record, [], none⟩ = (Ledger.sketch k flow).run r ⟨flow, recipient, ""⟩
            ⟨Tally.tick {}, record, [], none⟩ := by
        apply Sketch.run_congr
        · rfl
        · rfl
      refine hrun.bind_done ?_
      rintro s summary ⟨ho, docs, -, hentries, hshows⟩
      refine .made hshows ?_
      unfold Surroundings.account
      simp only [hflow, hkept, ← hsame, ho, hentries]
      rfl
  · rintro s f hstarts
    unfold Surroundings.account
    cases hstarts with
    | rejected hflow h =>
      refine .unmade h ?_
      rw [hflow]
      rfl
    | refused hflow hkept h =>
      refine .unmade h ?_
      rw [hflow]
      simp only [hkept]
      rfl
  · rintro s hstarts
    cases hstarts

end Stand

end Automation
