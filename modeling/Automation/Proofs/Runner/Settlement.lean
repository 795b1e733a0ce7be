import Automation.Proofs.Runner.Agreement
import Automation.Proofs.Runner.Outage
import Automation.Proofs.Store.Logbook

/-!
# Audit entries while the store fails

An audit entry that was made is settled by the time that its run has ended, whichever writes of the
run fail: its end was noted in it, or noting it failed and it is as it was begun (`IsSettled`). In a
visit the entry of that visit is open and all others are settled; the next one is made under an id
that is not in use, so it does not touch them. Ids of twenty-four digits must not run out.
-/

set_option autoImplicit false

namespace Automation

open World (Outcome)
open Program

/-! ## Numbers of documents -/

namespace World

variable {α : Type} {w w' : World} {es : List Exchange}

/-- The audit entries of a world. -/
def logs (w : World) : Shelf := w.database.store.executionLogs

/-- Numbers are left whose ids have no more digits than ids are written with. -/
def HasRoom (w : World) : Prop := w.logs.lastNumber < 10 ^ 23

theorem HasRoom.before {r : Request} (h : (w.answer r).2.HasRoom) : w.HasRoom := by
  unfold HasRoom logs at h ⊢
  rcases w.store_answer r with hstore | ⟨q, y, -, hy⟩
  · rwa [hstore] at h
  · exact Nat.lt_of_le_of_lt (Store.lastNumber_le .executionLogs hy) h

theorem HasRoom.before_perform {p : Program α} (h : (w.perform p).2.HasRoom) : w.HasRoom := by
  induction p generalizing w with
  | ask r next ih => exact (ih _ h).before
  | _ => exact h

/-- Worlds in which there is room, with the exchanges they had. -/
def roomy : Setting (World × List Exchange) where
  fits _ _ := True
  moves s e s' := s.1.answer e.request = (e.answer, s'.1) ∧ s'.2 = s.2 ++ [e] ∧ s'.1.HasRoom

/-- What a program upholds where there is room holds of a world that performed it, if there still
is. -/
theorem perform_roomy {p : Program α} {Q : World × List Exchange → Outcome α → Prop}
    (h : p.Upholds roomy (w, es) Q) (hroom : (w.perform p).2.HasRoom) :
    Q ((w.perform p).2, es ++ w.exchanges p) (w.perform p).1 := by
  induction p generalizing w es with
  | ask r next ih =>
    rw [exchanges, List.append_cons]
    refine ih _ (h.2 _ ((w.answer r).2, es ++ [⟨r, (w.answer r).1⟩]) ⟨rfl, rfl, ?_⟩) hroom
    exact HasRoom.before_perform (p := next (w.answer r).1) hroom
  | _ =>
    rw [exchanges, List.append_nil]
    exact h

end World

/-! ## Settled entries -/

/-- An audit entry was made under an id. -/
def Exchange.Makes (fields : Fields) (oid : ObjectId) (e : Exchange) : Prop :=
  e = ⟨.query (.insert .executionLogs fields), Except.ok (some oid)⟩

/-- What became of an audit entry that was begun. -/
inductive AuditEntry.IsSettled (logs : Shelf) (es : List Exchange) (oid : ObjectId)
    (e : AuditEntry) : Prop
  /-- Its end was noted in it. -/
  | ended {now : Moment} {status : String} {message : Option String}
      (hstatus : status = completed ∨ status = failed)
      (hfound : logs.findOne [.idIs oid] = some ((e.kept.finish now.kept status message).under oid))
  /-- Its end could not be noted, and it is as it was begun. -/
  | left {changes : Fields} {error : StoreError}
      (hfailed : ⟨.query (.change .executionLogs oid changes), Except.error error⟩ ∈ es)
      (hfound : logs.findOne [.idIs oid] = some (e.kept.under oid))

namespace Settlement

open World

/-- All audit entries that were made are settled, but perhaps one. -/
structure Settled (but : Option ObjectId) (s : World × List Exchange) : Prop where
  faults : ∀ f ∈ s.1.database.faults, f.StrikesWrites
  room : s.1.HasRoom
  entries : ∀ e ∈ s.2, ∀ fields oid, e.Makes fields oid → but ≠ some oid →
    ∃ entry : AuditEntry, fields = entry.document ∧ entry.status = AuditEntry.started ∧
      entry.IsSettled s.1.logs s.2 oid

/-- The entry of the visit is open, and all others are settled. -/
structure Open (oid : ObjectId) (s : World × List Exchange) : Prop where
  others : Settled (some oid) s
  entry : ∃ entry : AuditEntry, entry.status = AuditEntry.started ∧
    s.1.logs.findOne [.idIs oid] = some (entry.kept.under oid) ∧
    ∀ e ∈ s.2, ∀ fields, e.Makes fields oid → fields = entry.document

/-- A visit has begun: its entry is open, or it could not be made. -/
def Begun (entry : Option String) (s : World × List Exchange) : Prop :=
  match entry with
  | none => Settled none s
  | some text => ∃ oid, ObjectId.ofText? text = some oid ∧ Open oid s

/-- A request that leaves the audit entries alone. -/
def IsAside : Request → Prop
  | .query q => q.collection ≠ .executionLogs
  | _ => True

variable {but : Option ObjectId} {oid : ObjectId} {w w' : World} {es : List Exchange}
  {entry : AuditEntry} {status : String} {message : Option String}

theorem isSettled_mono {logs logs' : Shelf} {es es' : List Exchange}
    (h : entry.IsSettled logs es oid) (hsub : es ⊆ es')
    (hfound : ∀ d, logs.findOne [.idIs oid] = some d → logs'.findOne [.idIs oid] = some d) :
    entry.IsSettled logs' es' oid := by
  cases h with
  | ended hstatus h => exact .ended hstatus (hfound _ h)
  | left hfailed h => exact .left (hsub hfailed) (hfound _ h)

/-! ## One request -/

/-- An exchange that makes no entry, and does not touch any, leaves them as settled as they are. -/
theorem Settled.append (h : Settled but (w, es)) {e : Exchange}
    (hmakes : ∀ fields oid, ¬ e.Makes fields oid)
    (hfaults : ∀ f ∈ w'.database.faults, f.StrikesWrites) (hroom : w'.HasRoom)
    (hlogs : w'.logs = w.logs) : Settled but (w', es ++ [e]) := by
  refine ⟨hfaults, hroom, fun e' he' fields oid hmade hbut => ?_⟩
  rcases List.mem_append.1 he' with he' | he'
  · obtain ⟨entry, hfields, hstarted, hsettled⟩ := h.entries e' he' fields oid hmade hbut
    refine ⟨entry, hfields, hstarted, isSettled_mono hsettled (List.subset_append_left _ _) ?_⟩
    exact fun d hd => (congrArg (Shelf.findOne · _) hlogs).trans hd
  · rw [List.mem_singleton.1 he'] at hmade
    exact absurd hmade (hmakes fields oid)

theorem Open.append (h : Open oid (w, es)) {e : Exchange}
    (hmakes : ∀ fields oid, ¬ e.Makes fields oid)
    (hfaults : ∀ f ∈ w'.database.faults, f.StrikesWrites) (hroom : w'.HasRoom)
    (hlogs : w'.logs = w.logs) : Open oid (w', es ++ [e]) := by
  obtain ⟨entry, hstarted, hfound, honly⟩ := h.entry
  refine ⟨h.others.append hmakes hfaults hroom hlogs, entry, hstarted,
    (congrArg (Shelf.findOne · _) hlogs).trans hfound, fun e' he' fields hmade => ?_⟩
  rcases List.mem_append.1 he' with he' | he'
  · exact honly e' he' fields hmade
  · rw [List.mem_singleton.1 he'] at hmade
    exact absurd hmade (hmakes fields oid)

/-- What a request that leaves the audit alone does not change. -/
theorem aside (hfaults : ∀ f ∈ w.database.faults, f.StrikesWrites) {r : Request} (hr : IsAside r)
    {x : r.Answer} (hanswer : w.answer r = (x, w')) :
    (∀ fields oid, ¬ Exchange.Makes fields oid ⟨r, x⟩) ∧
      (∀ f ∈ w'.database.faults, f.StrikesWrites) ∧ w'.logs = w.logs := by
  have hstore := w.store_answer r
  have hafter := forall_faults_answer hfaults (fun f _ _ hf => ⟨hf.1, hf.2⟩) r
  rw [hanswer] at hstore hafter
  refine ⟨?_, hafter, ?_⟩
  · rintro fields oid heq
    cases heq
    exact hr rfl
  · rcases hstore with hsame | ⟨q, y, rfl, hy⟩
    · exact congrArg Store.executionLogs hsame
    · cases Store.answer_executionLogs hy with
      | same heq => exact heq
      | inserted fields heq hq => exact absurd (by rw [hq]; rfl) hr
      | changed other changes heq hq => exact absurd (by rcases hq with rfl | rfl <;> rfl) hr
      | deleted other heq hq => exact absurd (by rw [hq]; rfl) hr

theorem keeps_settled : roomy.Keeps IsAside (Settled but) := by
  rintro ⟨w, es⟩ r hr hs
  refine ⟨trivial, ?_⟩
  rintro x ⟨w', es'⟩ ⟨hanswer, hes', hroom⟩
  obtain rfl : es' = es ++ [⟨r, x⟩] := hes'
  obtain ⟨hmakes, hfaults, hlogs⟩ := aside hs.faults hr hanswer
  exact hs.append hmakes hfaults hroom hlogs

theorem keeps_open : roomy.Keeps IsAside (Open oid) := by
  rintro ⟨w, es⟩ r hr hs
  refine ⟨trivial, ?_⟩
  rintro x ⟨w', es'⟩ ⟨hanswer, hes', hroom⟩
  obtain rfl : es' = es ++ [⟨r, x⟩] := hes'
  obtain ⟨hmakes, hfaults, hlogs⟩ := aside hs.others.faults hr hanswer
  exact hs.append hmakes hfaults hroom hlogs

theorem keeps_begun (entry : Option String) : roomy.Keeps IsAside (Begun entry) := by
  cases entry with
  | none => exact keeps_settled
  | some text =>
    rintro s r hr ⟨oid, hoid, hs⟩
    obtain ⟨hfits, hmoves⟩ := keeps_open s r hr hs
    exact ⟨hfits, fun x s' h => ⟨oid, hoid, hmoves x s' h⟩⟩

/-- A new entry is open, and touches no other. -/
theorem Settled.enter (h : Settled none (w, es)) (hstarted : entry.status = AuditEntry.started)
    {y : Option ObjectId} (hy : w.database.store.answer (.insert .executionLogs entry.document) =
      .ok (y, w'.database.store))
    (hfaults : ∀ f ∈ w'.database.faults, f.StrikesWrites) (hroom : w'.HasRoom) :
    ∃ oid, y = some oid ∧ oid.IsProper ∧
      Open oid (w', es ++ [⟨.query (.insert .executionLogs entry.document), Except.ok y⟩]) := by
  obtain ⟨rfl, hstore⟩ := Store.answer_insert hy
  rw [AuditEntry.keptFields_document] at hstore
  have hunused := w.database.store.uses_freshNumber .executionLogs
  have hlogs : w'.logs = ⟨w.logs.documents ++
      [entry.kept.under (Collection.executionLogs.numbered
        (w.database.store.freshNumber .executionLogs))],
      w.database.store.freshNumber .executionLogs⟩ := congrArg Store.executionLogs hstore
  have hproper : (Collection.executionLogs.numbered
      (w.database.store.freshNumber .executionLogs)).IsProper := by
    refine Collection.numbered_isProper ?_
    have hlast := hroom
    unfold HasRoom at hlast
    rwa [hlogs] at hlast
  generalize Collection.executionLogs.numbered
    (w.database.store.freshNumber .executionLogs) = oid at hunused hlogs hproper ⊢
  refine ⟨oid, rfl, hproper, ⟨hfaults, hroom, ?_⟩, entry, hstarted, ?_, ?_⟩
  · intro e he fields oid' hmade hbut
    rcases List.mem_append.1 he with he | he
    · obtain ⟨entry', hfields, hstarted', hsettled⟩ :=
        h.entries e he fields oid' hmade (by rintro ⟨⟩)
      refine ⟨entry', hfields, hstarted', isSettled_mono hsettled (List.subset_append_left _ _) ?_⟩
      intro d hd
      show w'.logs.findOne _ = _
      rw [hlogs]
      exact Shelf.findOne_concat hd _ _
    · rw [List.mem_singleton.1 he] at hmade
      cases hmade
      exact absurd rfl hbut
  · show w'.logs.findOne _ = _
    rw [hlogs]
    exact Shelf.findOne_concat_self (d := entry.kept.under oid) hunused _
  · intro e he fields hmade
    rcases List.mem_append.1 he with he | he
    · -- an entry that was made before is in use
      obtain ⟨entry', -, -, hsettled⟩ := h.entries e he fields oid hmade (by rintro ⟨⟩)
      have hused : w.logs.uses oid = true := by
        cases hsettled with
        | ended hstatus hfound => exact Shelf.uses_of_findOne hfound
        | left hfailed hfound => exact Shelf.uses_of_findOne hfound
      rw [show w.logs.uses oid = false from hunused] at hused
      cases hused
    · rw [List.mem_singleton.1 he] at hmade
      cases hmade
      rfl

/-- The end of a visit is noted in its entry, and in no other. -/
theorem Open.close (h : Open oid (w, es))
    (hstatus : status = AuditEntry.completed ∨ status = AuditEntry.failed) {now : Moment}
    {y : Option Document} (hy : w.database.store.answer (.change .executionLogs oid
      (AuditEntry.finishing now (.text status) (.ofText? message))) = .ok (y, w'.database.store))
    (hfaults : ∀ f ∈ w'.database.faults, f.StrikesWrites) (hroom : w'.HasRoom) :
    Settled none (w', es ++ [⟨.query (.change .executionLogs oid
      (AuditEntry.finishing now (.text status) (.ofText? message))), Except.ok y⟩]) := by
  obtain ⟨entry, hstarted, hfound, honly⟩ := h.entry
  have hlogs : w'.logs = w.logs.change oid (Value.keptFields
      (AuditEntry.finishing now (.text status) (.ofText? message))) :=
    congrArg Store.executionLogs (Store.answer_change hy)
  have hended : w'.logs.findOne [.idIs oid] =
      some ((entry.kept.finish now.kept status message).under oid) := by
    rw [hlogs, Shelf.findOne_change, show w.logs.findOne _ = _ from hfound, Option.map_some,
      Document.updated, AuditEntry.under, AuditEntry.merge_finishing]
    rfl
  refine ⟨hfaults, hroom, fun e he fields oid' hmade _ => ?_⟩
  rcases List.mem_append.1 he with hbefore | hnew
  · by_cases hown : oid' = oid
    · subst hown
      exact ⟨entry, honly e hbefore fields hmade, hstarted, .ended hstatus hended⟩
    · obtain ⟨entry', hfields, hstarted', hsettled⟩ := h.others.entries e hbefore fields oid' hmade
        fun heq => hown (Option.some.inj heq).symm
      refine ⟨entry', hfields, hstarted', isSettled_mono hsettled (List.subset_append_left _ _) ?_⟩
      intro d hd
      show w'.logs.findOne _ = _
      rw [hlogs, Shelf.findOne_change_of_ne _ (Ne.symm hown)]
      exact hd
  · rw [List.mem_singleton.1 hnew] at hmade
    cases hmade

/-- An entry whose end could not be noted is as it was begun. -/
theorem Open.leave (h : Open oid (w, es)) {changes : Fields} {error : StoreError}
    (hlogs : w'.logs = w.logs) (hfaults : ∀ f ∈ w'.database.faults, f.StrikesWrites)
    (hroom : w'.HasRoom) :
    Settled none
      (w', es ++ [⟨.query (.change .executionLogs oid changes), Except.error error⟩]) := by
  obtain ⟨entry, hstarted, hfound, honly⟩ := h.entry
  have hothers := h.others.append (e := ⟨.query (.change .executionLogs oid changes),
    Except.error error⟩) (by rintro fields oid ⟨⟩) hfaults hroom hlogs
  refine ⟨hfaults, hroom, fun e he fields oid' hmade _ => ?_⟩
  by_cases hown : oid' = oid
  · subst hown
    rcases List.mem_append.1 he with he | he
    · refine ⟨entry, honly e he fields hmade, hstarted, .left
        (List.mem_append_right _ List.mem_cons_self) ?_⟩
      exact (congrArg (Shelf.findOne · _) hlogs).trans hfound
    · rw [List.mem_singleton.1 he] at hmade
      cases hmade
  · exact hothers.entries e he fields oid' hmade fun heq => hown (Option.some.inj heq).symm

/-! ## The calls of the audit -/

/-- No client of the store is refused. -/
theorem not_refused_of_strikesWrites {f : StoreFault}
    (hfaults : ∀ g ∈ w.database.faults, g.StrikesWrites) :
    w.answer .connect ≠ (Except.error f, w') := by
  have htouch : w.database.touch "connect" = (.ok (), w.database) :=
    Database.touch_of_place (fun g hg => (hfaults g hg).place_ne_client) _
  simp only [answer, htouch]
  intro hrefused
  split at hrefused <;> cases hrefused

theorem isAside_of_isIdle {r : Request} (h : r.IsIdle) : IsAside r := by
  cases r <;> trivial

theorem isAside_of_isQuiet {r : Request} (h : r.IsQuiet) : IsAside r := by
  cases r <;> trivial

theorem isAside_of_isOfRecord {r : Request} (h : r.IsOfRecord) : IsAside r := by
  rcases h.eq with h | ⟨id, changes, rfl⟩
  · exact isAside_of_isQuiet h
  · exact nofun

theorem keeps_quiet : roomy.Keeps Request.IsQuiet (Settled but) := fun s r hr =>
  keeps_settled s r (isAside_of_isQuiet hr)

variable {s : World × List Exchange}

theorem connect_settled (hs : Settled but s) :
    Repository.connect.Upholds roomy s fun s o => o = .done () ∧ Settled but s := by
  refine connect_done (fun s r hr => keeps_settled s r (isAside_of_isIdle hr)) ?_ hs
  exact fun s s' f hs h => not_refused_of_strikesWrites hs.faults h.1

theorem connect_open (hs : Open oid s) :
    Repository.connect.Upholds roomy s fun s o => o = .done () ∧ Open oid s := by
  refine connect_done (fun s r hr => keeps_open s r (isAside_of_isIdle hr)) ?_ hs
  exact fun s s' f hs h => not_refused_of_strikesWrites hs.others.faults h.1

/-- A query is answered by the store, or it raises an error and changes nothing. -/
theorem query_cases {q : Query} {x : Except StoreError q.Answer} {s' : World × List Exchange}
    (hfaults : ∀ f ∈ w.database.faults, f.StrikesWrites)
    (hmoves : roomy.moves (w, es) ⟨.query q, x⟩ s') :
    ∃ w' : World, s' = (w', es ++ [⟨.query q, x⟩]) ∧ w'.HasRoom ∧
      (∀ f ∈ w'.database.faults, f.StrikesWrites) ∧
        ((∃ y, w.database.store.answer q = .ok (y, w'.database.store) ∧ x = .ok y) ∨
          (∃ e, x = .error e) ∧ w'.database.store = w.database.store) := by
  obtain ⟨w', es'⟩ := s'
  obtain ⟨hanswer, hes', hroom⟩ := hmoves
  obtain rfl : es' = es ++ [⟨.query q, x⟩] := hes'
  have hraises : w.Raises := fun f hf => (hfaults f hf).raises
  have hquery := (hraises.query q).2
  have hafter := forall_faults_answer hfaults (fun f _ _ hf => ⟨hf.1, hf.2⟩) (.query q)
  rw [show w.answer (.query q) = (x, w') from hanswer] at hquery hafter
  exact ⟨w', rfl, hroom, hafter, hquery⟩

/-- A visit begins with an open entry, or with none. -/
theorem begin_settles (v : Audit.Visit) (hs : Settled none s) :
    (Audit.begin v).Upholds roomy s fun s o => ∃ entry, o = .done entry ∧ Begun entry s := by
  have hclock := keeps_settled s .clock trivial hs
  refine ⟨hclock.1, fun now s hmoves => ?_⟩
  have hs := hclock.2 now s hmoves
  have hcreate : (Repository.createAuditEntry (v.entry now)).Upholds roomy s fun s o =>
      ∃ x, o = outcomeOf x ∧ ((∃ entry, x = .ok entry ∧ Begun entry.id s) ∨
        (∃ f, x = .error f) ∧ Settled none s) := by
    refine (connect_settled hs).bind_unit fun s hs => ⟨trivial, fun x s' hmoves => ?_⟩
    obtain ⟨w, es⟩ := s
    obtain ⟨w', rfl, hroom, hfaults, ⟨y, hy, rfl⟩ | ⟨⟨e, rfl⟩, hstore⟩⟩ :=
      query_cases hs.faults hmoves
    · obtain ⟨oid, rfl, hproper, hopen⟩ := hs.enter rfl hy hfaults hroom
      exact ⟨.ok { v.entry now with id := some oid.text }, rfl, Or.inl ⟨_, rfl, oid,
        ObjectId.ofText?_text hproper, hopen⟩⟩
    · exact ⟨.error (.auditNotCreated e.message), rfl, Or.inr ⟨⟨_, rfl⟩,
        hs.append (by rintro fields oid ⟨⟩) hfaults hroom (congrArg Store.executionLogs hstore)⟩⟩
  show Upholds roomy ((Repository.createAuditEntry (v.entry now)).attempt >>= _) s _
  refine Upholds.bind_done hcreate.attempt_outcomeOf fun s x hs => ?_
  rcases hs with ⟨entry, rfl, hs⟩ | ⟨⟨f, rfl⟩, hs⟩
  · exact ⟨entry.id, rfl, hs⟩
  · exact (report_upholds keeps_quiet _ hs).bind_unit fun s hs => ⟨none, rfl, hs⟩

/-- An open entry is settled when the end of its visit is written, whether or not the write takes
effect. -/
theorem updateAuditEntry_settles {text : String} (hoid : ObjectId.ofText? text = some oid)
    (hstatus : status = AuditEntry.completed ∨ status = AuditEntry.failed) (now : Moment)
    (hs : Open oid s) :
    (Repository.updateAuditEntry (.text text)
      (AuditEntry.finishing now (.text status) (.ofText? message))).Upholds roomy s fun s o =>
        ∃ x, o = outcomeOf x ∧ Settled none s := by
  unfold Repository.updateAuditEntry
  rw [show ObjectId.ofValue? (.text text) = some oid from hoid]
  refine (connect_open hs).bind_unit fun s hs => ⟨trivial, fun x s' hmoves => ?_⟩
  obtain ⟨w, es⟩ := s
  obtain ⟨w', rfl, hroom, hfaults, ⟨y, hy, rfl⟩ | ⟨⟨e, rfl⟩, hstore⟩⟩ :=
    query_cases hs.others.faults hmoves
  · have hs := hs.close hstatus hy hfaults hroom
    cases y with
    | none => exact ⟨.ok none, rfl, hs⟩
    | some d =>
      have hclock := keeps_settled _ .clock trivial hs
      refine ⟨hclock.1, fun now s' hmoves => ?_⟩
      simp only [Program.bind]
      cases Repository.auditEntryOf now d with
      | ok entry => exact ⟨.ok (some entry), rfl, hclock.2 now s' hmoves⟩
      | error e => exact ⟨.error _, rfl, hclock.2 now s' hmoves⟩
  · exact ⟨.error _, rfl, hs.leave (congrArg Store.executionLogs hstore) hfaults hroom⟩

/-- A visit that ends settles its entry, if it has one. -/
theorem finish_settles (entry : Option String)
    (hstatus : status = AuditEntry.completed ∨ status = AuditEntry.failed) (hs : Begun entry s) :
    (Audit.finish entry status message).Upholds roomy s fun s o =>
      o = .done () ∧ Settled none s := by
  cases entry with
  | none => exact ⟨rfl, hs⟩
  | some text =>
    obtain ⟨oid, hoid, hs⟩ := hs
    -- a text that spells an id is not empty, so the end is written
    show Upholds roomy (if (Value.text text).isFalsy = true then .done () else _) s _
    rw [ObjectId.isFalsy_of_ofText? hoid, if_neg Bool.false_ne_true]
    have hclock := keeps_open s .clock trivial hs
    refine ⟨hclock.1, fun now s hmoves => ?_⟩
    have hs := hclock.2 now s hmoves
    show Upholds roomy ((Repository.updateAuditEntry (.text text)
      (AuditEntry.finishing now (.text status) (.ofText? message))).attempt >>= _) s _
    refine (updateAuditEntry_settles hoid hstatus now hs).attempt_outcomeOf.bind_done
      fun s x hs => ?_
    cases x with
    | ok entry => exact ⟨rfl, hs⟩
    | error f => exact report_upholds keeps_quiet _ hs

/-! ## The run -/

theorem isPatient_of_isOfRecord {r : Request} (x : r.Answer) (h : r.IsOfRecord) :
    Exchange.IsPatient ⟨r, x⟩ := by
  cases r with
  | sleep ms => exact h.elim
  | _ => trivial

theorem isAside_of_isOfVisit {n : Node} {r : Request} (h : r.IsOfVisit n) : IsAside r := by
  cases r <;> trivial

/-- The outline of a run: in a visit its entry is open. -/
def outline (r : Runner) (a : Assignment) : Outline roomy r a where
  ready _ _ s := Settled none s
  named _ _ s := Settled none s
  begun _ _ entry s := Begun entry s
  visited _ _ entry _ s := Begun entry s
  ended _ s := Settled none s
  lost _ := True
  rejects hs _ := hs
  names hs _ := by
    refine ((asks_record_updateTestRun _ _).upholds (I := Settled none)
      (fun s r hr => keeps_settled s r (isAside_of_isOfRecord hr)) (updateTestRun_ensures _ _)
      (fun r x => isPatient_of_isOfRecord x) hs).mono ?_
    rintro s o ⟨hs, es, ⟨b, writes, ho, -⟩ | ⟨-, -, f, ho⟩⟩
    · exact Or.inl ⟨b, ho, hs⟩
    · exact Or.inr ⟨f, ho, hs⟩
  begins hs := begin_settles _ hs
  visits {n used entry s} hs := by
    have hkeeps := keeps_begun entry
    refine (Runner.visit_upholds (I := Begun entry) (L := fun _ => True) (W := fun _ => Begun entry)
      (fun s r hr => hkeeps s r (isAside_of_isOfVisit hr)) ?_ hs).mono fun s o ho => ho.ended
    intro d now ms hdelay hms hguard s hs
    obtain ⟨hfits, hmoves⟩ := hkeeps s (.sleep ms) trivial hs
    exact ⟨hfits, fun s' h => hmoves _ s' h, fun _ _ => trivial⟩
  finishes hs :=
    (finish_settles _ (Or.inl rfl) hs).mono fun _ _ ⟨ho, hs⟩ => ⟨ho, fun _ => hs, fun _ _ _ => hs⟩
  fails hs := finish_settles _ (Or.inr rfl) hs
  remarks _ := ⟨trivial, fun _ _ _ => ⟨rfl, trivial⟩⟩

/-- When a run has ended, every entry that it made is settled. -/
theorem run_settles (r : Runner) (a : Assignment) (hs : Settled none s) :
    (r.run a).Upholds roomy s fun s o => o = .cancelled ∨ Settled none s := by
  refine (outline r a).run keeps_quiet ?_ ?_ (fun _ _ => Or.inl rfl) hs
  · intro s hs
    split <;> exact hs
  · intro ending s hs
    refine ((Runner.asks_record_conclude a ending).keeps (I := Settled none)
      (fun s r hr => keeps_settled s r (isAside_of_isOfRecord hr)) hs).mono ?_
    exact fun s o hs => Or.inr hs

end Settlement

/-! ## Outages do not bear on a run -/

/-- Failures of the store do not change what a run does. Let any of the calls fail by which the run
writes its record or its audit entries, each raising an error and changing nothing. The run ends
with the same summary as if none failed, and it has visited the same nodes, sent the same messages,
slept as long and told its record of the same, in the same order. When only calls of the audit fail,
the record of the run is in the end the same. And each audit entry that was made has its end noted
in it, or noting it failed and the entry is as it was begun. -/
theorem run_unmoved_by_outages (w : World) (hfaults : ∀ f ∈ w.database.faults, f.StrikesWrites)
    (r : Runner) (a : Assignment) :
    ∃ summary, (w.perform (r.run a)).1 = .done summary ∧
      ((w.withFaults []).perform (r.run a)).1 = .done summary ∧
      footprint (w.exchanges (r.run a)) = footprint ((w.withFaults []).exchanges (r.run a)) ∧
      ((∀ f ∈ w.database.faults, f.IsOfAudit) →
        (w.perform (r.run a)).2.database.store.testRuns =
          ((w.withFaults []).perform (r.run a)).2.database.store.testRuns) ∧
      ((w.perform (r.run a)).2.HasRoom → ∀ e ∈ w.exchanges (r.run a), ∀ fields oid,
        e.Makes fields oid → ∃ entry : AuditEntry, fields = entry.document ∧
          entry.status = AuditEntry.started ∧
          entry.IsSettled (w.perform (r.run a)).2.logs (w.exchanges (r.run a)) oid) := by
  let spared : Prop := ∀ f ∈ w.database.faults, f.IsOfAudit
  have hnone : ∀ f ∈ (w.withFaults []).database.faults, f.StrikesWrites :=
    fun f hf => absurd hf List.not_mem_nil
  obtain ⟨summary, ho, hsketch, hshows⟩ := w.perform_shows spared hfaults id r a
  obtain ⟨summary', ho', hsketch', hshows'⟩ := (w.withFaults []).perform_shows spared hnone
    (fun _ f hf => absurd hf List.not_mem_nil) r a
  have hface : (w.withFaults []).face = w.face := rfl
  rw [hface] at hsketch' hshows'
  obtain rfl : summary = summary' := Outcome.done.inj (hsketch.symm.trans hsketch')
  have hleft := hshows.left.trans hshows'.left.symm
  refine ⟨summary, ho, ho', hleft, fun hspared => ?_, fun hroom => ?_⟩
  · have htestRuns := hshows.weathers.testRuns hspared
    rw [hleft] at htestRuns
    exact htestRuns.trans (hshows'.weathers.testRuns hspared).symm
  · have hbegin : Settlement.Settled none (w, []) :=
      ⟨hfaults, hroom.before_perform, fun e he => absurd he List.not_mem_nil⟩
    have hsettled := World.perform_roomy (Settlement.run_settles r a hbegin) hroom
    rw [List.nil_append, ho] at hsettled
    rcases hsettled with hcancelled | hsettled
    · cases hcancelled
    · exact fun e he fields oid hmade => hsettled.entries e he fields oid hmade nofun

/-- The second audit entry cannot be made, and the end of the first cannot be noted. -/
def auditOutage : List Fault :=
  [⟨"execution_logs", "insert_one", some ⟨.reconnect, "connection closed"⟩, 1, 1⟩,
    ⟨"execution_logs", "find_one_and_update", some ⟨.reconnect, "connection closed"⟩, 1, 0⟩]

/-- A world in which they fail. -/
def struckWorld : World := Runner.recordedWorld.withFaults auditOutage

/-- The flow that waits for a minute, as it is run there. -/
def struckRun : Program Summary :=
  struckWorld.runner.run ⟨Runner.pausingFlow, "to@example.com", "000000000000000000000001"⟩

/-- The flow that waits for a minute does so, and its record is the same, while the audit loses one
of its three entries and the end of another. -/
theorem run_unmoved_by_outages_pausing :
    ∃ summary, (struckWorld.perform struckRun).1 = .done summary ∧
      (Runner.recordedWorld.perform struckRun).1 = .done summary ∧
      footprint (struckWorld.exchanges struckRun) =
        footprint (Runner.recordedWorld.exchanges struckRun) ∧
      (struckWorld.perform struckRun).2.database.store.testRuns =
        (Runner.recordedWorld.perform struckRun).2.database.store.testRuns ∧
      (struckWorld.perform struckRun).2.logs.documents.length = 2 ∧
      ∀ e ∈ struckWorld.exchanges struckRun, ∀ fields oid, e.Makes fields oid →
        ∃ entry : AuditEntry, fields = entry.document ∧ entry.status = AuditEntry.started ∧
          entry.IsSettled (struckWorld.perform struckRun).2.logs
            (struckWorld.exchanges struckRun) oid := by
  have haudit : ∀ f ∈ struckWorld.database.faults, f.IsOfAudit := by
    show ∀ f ∈ auditOutage, f.IsOfAudit
    simp [auditOutage, Fault.IsOfAudit, Collection.name]
  have hraises : ∀ f ∈ struckWorld.database.faults, f.Raises := by
    show ∀ f ∈ auditOutage, f.Raises
    simp [auditOutage, Fault.Raises]
  have hroom : (struckWorld.perform struckRun).2.HasRoom := by
    unfold World.HasRoom
    decide +kernel
  have hlost : (struckWorld.perform struckRun).2.logs.documents.length = 2 := by decide +kernel
  have hcalm : struckWorld.withFaults [] = Runner.recordedWorld := rfl
  have hrun := run_unmoved_by_outages struckWorld
    (fun f hf => ⟨hraises f hf, Or.inr (haudit f hf)⟩) struckWorld.runner
    ⟨Runner.pausingFlow, "to@example.com", "000000000000000000000001"⟩
  rw [hcalm, show struckWorld.runner.run ⟨Runner.pausingFlow, "to@example.com",
    "000000000000000000000001"⟩ = struckRun from rfl] at hrun
  obtain ⟨summary, ho, ho', hleft, htestRuns, hsettled⟩ := hrun
  exact ⟨summary, ho, ho', hleft, htestRuns haudit, hlost, hsettled hroom⟩

end Automation
