import Mathlib.Logic.Function.Basic
import Mathlib.Logic.Relation
import Automation.Proofs.Runner.Company
import Automation.Proofs.Service.Requests

/-!
# Runs apart from each other and from edits

Runs share one store, and between any two of their steps other runs may go on and flows may be
made, changed and deleted (`Company.Step`). What one run writes is its own (`Company.IsApart`), so
a step of one company member is for every other one of the steps that its account allows. Hence each
run comes to the account that it comes to when nobody else is there (`Company.runs_isolated`).
-/

set_option autoImplicit false

namespace Automation

open World (Outcome)
open Program

/-! ## Alone -/

/-- Where numbers are left, they were before. -/
theorem Store.HasRoom.of_le {s s' : Store} (h : s'.HasRoom)
    (hle : ∀ c, (s.shelf c).lastNumber ≤ (s'.shelf c).lastNumber) : s.HasRoom :=
  ⟨Nat.lt_of_le_of_lt (hle .testRuns) h.1, Nat.lt_of_le_of_lt (hle .executionLogs) h.2⟩

/-- The answer to a request with which nothing interferes, and the store after it. -/
def Store.respond (s : Store) : (r : Request) → r.Answer × Store
  | .query q =>
    match s.answer q with
    | .ok (y, s') => (.ok y, s')
    | .error e => (.error (.unstorable e), s)
  | r => (Responder.uneventful.answer [] r, s)

theorem Store.respond_query (s : Store) (q : Query) :
    (∃ y, s.answer q = .ok (y, (s.respond (.query q)).2) ∧ (s.respond (.query q)).1 = .ok y) ∨
      ∃ e, s.answer q = .error e ∧ (s.respond (.query q)).1 = .error (.unstorable e) ∧
        (s.respond (.query q)).2 = s := by
  cases hanswer : s.answer q with
  | ok result => exact Or.inl ⟨result.1, by simp [respond, hanswer]⟩
  | error e => exact Or.inr ⟨e, by simp [respond, hanswer]⟩

namespace Stand

variable {k : Surroundings} {s : Stand} {store : Store} {α : Type}

/-- The answer to a request of a run in its surroundings, and the store after it. -/
def respond (k : Surroundings) (s : Stand) : (r : Request) → r.Answer × Store
  | .clock => (k.pace (Tally.of s.past).readings, s.store)
  | .post p => (k.reply p, s.store)
  | r => s.store.respond r

theorem respond_goes (k : Surroundings) (s : Stand) (r : Request) :
    s.Goes k (s.respond k r).2 ⟨r, (s.respond k r).1⟩ := by
  cases r with
  | query q => exact s.store.respond_query q
  | connect => exact ⟨⟨false, rfl⟩, rfl⟩
  | clock => exact ⟨rfl, rfl⟩
  | post p => exact ⟨rfl, rfl⟩
  | sleep ms => exact ⟨rfl, rfl⟩
  | _ => exact rfl

/-- The rest of a run, with nobody else there. -/
def finish (k : Surroundings) : Program α → Stand → Outcome α × Stand
  | .done a, s => (.done a, s)
  | .failed f, s => (.failed f, s)
  | .cancelled, s => (.cancelled, s)
  | .ask r next, s =>
    finish k (next (s.respond k r).1) ⟨(s.respond k r).2, s.past ++ [⟨r, (s.respond k r).1⟩]⟩

/-! ## What an exchange changes -/

/-- An exchange takes back no number. -/
theorem Goes.lastNumber_le {e : Exchange} (h : s.Goes k store e) (c : Collection) :
    (s.store.shelf c).lastNumber ≤ (store.shelf c).lastNumber := by
  rcases h.effect with rfl | ⟨q, y, -, hy⟩
  · exact Nat.le_refl _
  · exact Store.lastNumber_le c hy

theorem finish_lastNumber_le (k : Surroundings) (p : Program α) (s : Stand) (c : Collection) :
    (s.store.shelf c).lastNumber ≤ ((finish k p s).2.store.shelf c).lastNumber := by
  induction p generalizing s with
  | ask r next ih =>
    exact Nat.le_trans ((respond_goes k s r).lastNumber_le c)
      (ih (s.respond k r).1 ⟨(s.respond k r).2, s.past ++ [Exchange.mk r (s.respond k r).1]⟩)
  | _ => exact Nat.le_refl _

/-- The record of a run is the first that its exchanges made. -/
theorem run?_after (s : Stand) (e : Exchange) (store : Store) :
    (Stand.mk store (s.past ++ [e])).run? = s.run?.or e.madeRun? := by
  unfold run?
  rw [List.findSome?_append, List.findSome?_singleton]

/-- An exchange that makes a record gives it a number that was not given out before. -/
theorem Goes.madeRun? {e : Exchange} {id : ObjectId} (h : s.Goes k store e)
    (hmade : e.madeRun? = some id) :
    id = Collection.testRuns.numbered (s.store.freshNumber .testRuns) ∧
      store.testRuns.lastNumber = s.store.freshNumber .testRuns := by
  obtain ⟨r, x⟩ := e
  unfold Exchange.madeRun? at hmade
  split at hmade
  · rename_i fields given heq
    cases heq
    rcases h with ⟨y, hy, hx⟩ | ⟨defect, -, hx, -⟩
    · obtain ⟨rfl, rfl⟩ := Store.answer_insert hy
      cases hx
      cases hmade
      exact ⟨rfl, rfl⟩
    · cases hx
  · cases hmade

/-- The queries of a run: its record is made, and from then on they are about what it owns. -/
theorem Conducts.query_cases {q : Query} (h : s.Conducts (.query q)) :
    (s.run? = none ∧ ∃ fields, q = .insert .testRuns fields) ∨
      ∃ own, s.run? = some own ∧ s.store.IsOfRun own q := by
  rw [Conducts] at h
  cases hrun : s.run? with
  | none =>
    rw [hrun] at h
    exact Or.inl ⟨rfl, h⟩
  | some own =>
    rw [hrun] at h
    exact Or.inr ⟨own, rfl, h⟩

/-- What a run asks of the store spares the records of another. -/
theorem Conducts.spares {q : Query} {id : ObjectId} (h : s.Conducts (.query q))
    (hid : id.IsProper) (hown : ∀ own, s.run? = some own → own.IsProper ∧ own ≠ id) :
    s.store.SparesRun id.text id q := by
  rcases h.query_cases with ⟨-, fields, rfl⟩ | ⟨own, hrun, hq⟩
  · trivial
  · obtain ⟨hproper, hne⟩ := hown own hrun
    exact hq.spares hne hproper hid

/-- What a run asks of the store names no run that is still to be made. -/
theorem Conducts.namesNoneAhead {q : Query} {y : q.Answer} (h : s.Conducts (.query q))
    (hahead : s.store.NamesNoneAhead)
    (hgiven : ∀ own, s.run? = some own →
      ∃ n ≤ s.store.testRuns.lastNumber, own = Collection.testRuns.numbered n)
    (hy : s.store.answer q = .ok (y, store)) : store.NamesNoneAhead := by
  rcases h.query_cases with ⟨-, fields, rfl⟩ | ⟨own, hrun, hq⟩
  · exact hahead.aside (fun hc => Collection.noConfusion hc) hy
  · exact hahead.answer hq (hgiven own hrun) hy

/-- A run changes nothing but its own record and its own audit entries. -/
theorem Conducts.others_eq {e : Exchange} (h : s.Conducts e.request) (hgoes : s.Goes k store e)
    (c : Collection) :
    store.others (Stand.mk store (s.past ++ [e])).run? c =
      s.store.others (Stand.mk store (s.past ++ [e])).run? c := by
  rcases hgoes.effect with rfl | ⟨q, y, rfl, hy⟩
  · rfl
  · rw [run?_after]
    rcases h.query_cases with ⟨hrun, fields, rfl⟩ | ⟨own, hrun, hq⟩
    -- the record is made under the id that is the run's own from then on
    · rw [hrun]
      exact Store.others_of_insert hy c
    · rw [hrun]
      exact Store.others_of_isOfRun hq hy c

end Stand

/-! ## Company -/

/-- A run that somebody starts. -/
structure Member where
  runner : Runner
  surroundings : Surroundings
  flow : Flow
  recipient : String

namespace Member

/-- The call that starts the run, and the run. -/
def program (m : Member) : Program (String × Summary) := m.runner.fullRun m.flow m.recipient

/-- The account of the run. -/
def outturn (m : Member) : Outturn := m.surroundings.account m.runner m.flow m.recipient

/-- The run with nobody else there, from a store. -/
def alone (m : Member) (store : Store) : Outcome (String × Summary) × Stand :=
  Stand.finish m.surroundings m.program ⟨store, []⟩

end Member

/-- A request to make, change or delete a flow. -/
inductive FlowRequest where
  | create (draft : Draft)
  | update (id : String) (revision : Revision)
  | delete (id : String)

/-- What is done about the request. -/
def FlowRequest.program : FlowRequest → Program Unit
  | .create draft => Editor.create draft >>= fun _ => pure ()
  | .update id revision => Editor.update id revision >>= fun _ => pure ()
  | .delete id => Editor.delete id

/-- A request that asks the store for nothing but flows. -/
def Request.IsOfFlows : Request → Prop
  | .query q => q.collection = .flows
  | _ => True

theorem isOfFlows_reads : Request.Reads Request.IsOfFlows where
  quiet r hr := by
    rcases hr.eq with rfl | ⟨e, rfl⟩ | rfl <;> trivial
  findFlow _ := rfl

section

-- the trimmed name is nothing that a request depends on
attribute [local irreducible] Text.trim

theorem FlowRequest.asks (f : FlowRequest) : f.program.Asks Request.IsOfFlows := by
  cases f with
  | create draft =>
    exact Asks.bind (isOfFlows_reads.asks_create fun _ _ => rfl) fun _ => trivial
  | update id revision =>
    exact Asks.bind (isOfFlows_reads.asks_update id fun _ _ _ => rfl) fun _ => trivial
  | delete id => exact isOfFlows_reads.asks_delete (fun _ => rfl) id

end

/-- How an exchange with a request about flows goes, if not always well. -/
def Store.Serves (s : Store) : Exchange → Store → Prop
  | ⟨.query q, x⟩, s' => s.Gives q x s'
  | _, s' => s' = s

theorem Store.Serves.effect {s s' : Store} {e : Exchange} (h : s.Serves e s') :
    s' = s ∨ ∃ (q : Query) (y : q.Answer), e.request = .query q ∧ s.answer q = .ok (y, s') := by
  obtain ⟨r, x⟩ := e
  cases r with
  | query q =>
    rcases h with ⟨y, hy, -⟩ | ⟨hstore, -⟩
    · exact Or.inr ⟨q, y, rfl, hy⟩
    · exact Or.inl hstore
  | _ => exact Or.inl h

theorem Store.Serves.lastNumber_le {s s' : Store} {e : Exchange} (h : s.Serves e s')
    (c : Collection) : (s.shelf c).lastNumber ≤ (s'.shelf c).lastNumber := by
  rcases h.effect with rfl | ⟨q, y, -, hy⟩
  · exact Nat.le_refl _
  · exact Store.lastNumber_le c hy

theorem Store.respond_serves (s : Store) (r : Request) :
    s.Serves ⟨r, (s.respond r).1⟩ (s.respond r).2 := by
  cases r with
  | query q =>
    rcases s.respond_query q with ⟨y, hy, hx⟩ | ⟨e, -, hx, hstore⟩
    · exact Or.inl ⟨y, hy, hx⟩
    · exact Or.inr ⟨hstore, Or.inl ⟨_, hx⟩⟩
  | _ => exact rfl

/-- A query about flows spares the records of every run. -/
theorem Store.sparesRun_of_flows {s : Store} {q : Query} (hq : q.collection = .flows)
    (runId : String) (id : ObjectId) : s.SparesRun runId id q := by
  cases q with
  | insert c fields =>
    obtain rfl : c = .flows := hq
    trivial
  | change c oid changes =>
    obtain rfl : c = .flows := hq
    trivial
  | update c oid changes =>
    obtain rfl : c = .flows := hq
    trivial
  | delete c oid => exact hq
  | _ => trivial

/-- A run on its way: what is left of it, and its exchanges before. -/
structure Strand where
  left : Program (String × Summary)
  past : List Exchange

/-- Runs on their way, and requests about flows under way, that share a store. -/
structure Company (ι : Type) where
  store : Store
  strands : ι → Strand
  requests : List (Program Unit)

/-- How a program ended, if it has. -/
def Program.end? {α : Type} : Program α → Option (Outcome α)
  | .done a => some (.done a)
  | .failed f => some (.failed f)
  | .cancelled => some .cancelled
  | .ask .. => none

namespace Company

variable {ι : Type} {members : ι → Member} {c c' : Company ι} {i j : ι}

/-- Where a run stands. -/
def stand (c : Company ι) (i : ι) : Stand := ⟨c.store, (c.strands i).past⟩

/-- Nobody has done anything yet. -/
def gathered (members : ι → Member) (store : Store) : Company ι :=
  ⟨store, fun i => ⟨(members i).program, []⟩, []⟩

/-- The runs are on the way to their accounts, their records are numbered and no two of them are the
same, and what is asked for flows is asked of flows. -/
structure IsApart (members : ι → Member) (c : Company ι) : Prop where
  ahead : c.store.NamesNoneAhead
  strands : ∀ i, (c.strands i).left.Upholds (Stand.setting (members i).surroundings) (c.stand i)
    (Stand.Ends (members i).outturn)
  given : ∀ i id, (c.stand i).run? = some id →
    ∃ n ≤ c.store.testRuns.lastNumber, id = Collection.testRuns.numbered n
  apart : ∀ i j id, (c.stand i).run? = some id → (c.stand j).run? = some id → i = j
  requests : ∀ p ∈ c.requests, p.Asks Request.IsOfFlows

theorem isApart_gathered (members : ι → Member) {store : Store} (hstore : store.NamesNoneAhead) :
    IsApart members (gathered members store) where
  ahead := hstore
  strands _ := Stand.fullRun_ends ⟨rfl, rfl⟩ _ _ _
  given _ _ h := nomatch h
  apart _ _ _ h := nomatch h
  requests _ h := absurd h List.not_mem_nil

namespace IsApart

variable (h : IsApart members c)
include h

/-- An account of a run that ended is the one it was on the way to. -/
theorem account_eq {o : Outcome (String × Summary)} (hend : (c.strands i).left.end? = some o) :
    (c.stand i).account o = (members i).outturn := by
  have hupholds := h.strands i
  cases hleft : (c.strands i).left with
  | ask r next => simp [hleft, Program.end?] at hend
  | _ =>
    simp only [hleft, Program.end?, Option.some.injEq] at hend hupholds
    subst hend
    exact Stand.Ends.account_eq hupholds

/-- The record of a run has a proper id while there is room. -/
theorem isProper (hroom : c.store.HasRoom) {id : ObjectId} (hrun : (c.stand i).run? = some id) :
    id.IsProper := by
  obtain ⟨n, hn, rfl⟩ := h.given i id hrun
  exact Collection.numbered_isProper (Nat.lt_of_le_of_lt hn hroom.1)

/-- A run is on its way to its account also after others went on that spare its records. -/
theorem strand_later {store : Store} (hspares : ∀ id, (c.stand i).run? = some id →
      c.store.Evolves (Store.SparesRun id.text id) store) :
    (c.strands i).left.Upholds (Stand.setting (members i).surroundings)
      ⟨store, (c.strands i).past⟩ (Stand.Ends (members i).outturn) :=
  Stand.upholds_later (h.strands i) (fun _ _ _ hlater hends => hends.later hlater) ⟨rfl, hspares⟩

/-- A record that a run has is none that is yet to be numbered. -/
theorem ne_fresh {id : ObjectId} (hrun : (c.stand i).run? = some id) :
    id ≠ Collection.testRuns.numbered (c.store.freshNumber .testRuns) := by
  rintro rfl
  obtain ⟨n, hn, hsame⟩ := h.given i _ hrun
  have hlast := c.store.lastNumber_lt_freshNumber .testRuns
  rw [Collection.numbered_injective hsame] at hlast
  exact absurd hn (Nat.not_le_of_lt hlast)

/-- An exchange with a request about flows leaves the runs apart. -/
theorem serve {before after : List (Program Unit)} {r : Request} {next : r.Answer → Program Unit}
    {x : r.Answer} {store : Store} (hrequests : c.requests = before ++ .ask r next :: after)
    (hserves : c.store.Serves ⟨r, x⟩ store) :
    IsApart members { c with store, requests := before ++ next x :: after } := by
  have hasks : (Program.ask r next).Asks Request.IsOfFlows :=
    h.requests _ (by simp [hrequests])
  refine ⟨?_, fun j => ?_, fun j id hrun => ?_, h.apart, fun p hp => ?_⟩
  -- what a request about flows asks for names no run, so nothing that is said of the runs changes
  · rcases hserves.effect with hstore | ⟨q, y, rfl, hy⟩
    · exact (hstore ▸ h.ahead : store.NamesNoneAhead)
    · have hflows : q.collection = .flows := hasks.1
      exact h.ahead.aside (by simp [hflows]) hy
  · refine h.strand_later fun id hid => ?_
    rcases hserves.effect with hstore | ⟨q, y, rfl, hy⟩
    · exact hstore ▸ .refl _
    · exact .step (Store.sparesRun_of_flows hasks.1 _ _) hy (.refl _)
  · obtain ⟨n, hn, hid⟩ := h.given j id hrun
    exact ⟨n, Nat.le_trans hn (hserves.lastNumber_le .testRuns), hid⟩
  · rcases List.mem_append.1 hp with hp | hp
    · exact h.requests p (by simp [hrequests, hp])
    · rcases List.mem_cons.1 hp with rfl | hp
      · exact hasks.2 x
      · exact h.requests p (by simp [hrequests, hp])

end IsApart

/-! ## Steps -/

variable [DecidableEq ι]

/-- After an exchange of a run, with what is then left of it. -/
def exchanged (c : Company ι) (i : ι) (e : Exchange) (store : Store)
    (left : Program (String × Summary)) : Company ι :=
  { c with store, strands := Function.update c.strands i ⟨left, (c.strands i).past ++ [e]⟩ }

/-- One exchange of a run, in its own surroundings and with the store as it is. -/
inductive Advances (members : ι → Member) (i : ι) (c : Company ι) : Company ι → Prop
  | mk {r : Request} {next : r.Answer → Program (String × Summary)} {x : r.Answer} {store : Store}
      (hleft : (c.strands i).left = .ask r next)
      (hgoes : (c.stand i).Goes (members i).surroundings store ⟨r, x⟩) :
      Advances members i c (c.exchanged i ⟨r, x⟩ store (next x))

/-- One step of the company: a run goes on, a request about flows comes in, or one goes on. -/
inductive Step (members : ι → Member) (c : Company ι) : Company ι → Prop
  | advance {c' : Company ι} (i : ι) (h : Advances members i c c') : Step members c c'
  | arrive (f : FlowRequest) : Step members c { c with requests := f.program :: c.requests }
  | serve {before after : List (Program Unit)} {r : Request} {next : r.Answer → Program Unit}
      {x : r.Answer} {store : Store} (hrequests : c.requests = before ++ .ask r next :: after)
      (hserves : c.store.Serves ⟨r, x⟩ store) :
      Step members c { c with store, requests := before ++ next x :: after }

/-- What the company may come to, in whatever order its members go on. -/
abbrev Reaches (members : ι → Member) : Company ι → Company ι → Prop :=
  Relation.ReflTransGen (Step members)

variable {e : Exchange} {store : Store} {left : Program (String × Summary)}

@[simp] theorem store_exchanged : (c.exchanged i e store left).store = store := rfl

@[simp] theorem strands_exchanged_self :
    (c.exchanged i e store left).strands i = ⟨left, (c.strands i).past ++ [e]⟩ := by
  simp [exchanged]

@[simp] theorem strands_exchanged_of_ne (h : j ≠ i) :
    (c.exchanged i e store left).strands j = c.strands j := by
  simp [exchanged, h]

@[simp] theorem stand_exchanged_self :
    (c.exchanged i e store left).stand i = ⟨store, (c.stand i).past ++ [e]⟩ := by
  simp [exchanged, stand]

@[simp] theorem run?_exchanged_of_ne (h : j ≠ i) :
    ((c.exchanged i e store left).stand j).run? = (c.stand j).run? := by
  simp [stand, Stand.run?, h]

/-- There was room before a step after which there is. -/
theorem Step.hasRoom (hstep : Step members c c') (hroom : c'.store.HasRoom) : c.store.HasRoom := by
  refine hroom.of_le fun coll => ?_
  cases hstep with
  | advance i h =>
    obtain ⟨-, hgoes⟩ := h
    exact hgoes.lastNumber_le coll
  | arrive f => exact Nat.le_refl _
  | serve hrequests hserves => exact hserves.lastNumber_le coll

/-- The record of a run after an exchange of one is the record that it had, or a new one of that
run. -/
theorem run?_exchanged (hgoes : (c.stand i).Goes (members i).surroundings store e)
    {id : ObjectId} (hrun : ((c.exchanged i e store left).stand j).run? = some id) :
    (c.stand j).run? = some id ∨
      j = i ∧ id = Collection.testRuns.numbered (c.store.freshNumber .testRuns) ∧
        store.testRuns.lastNumber = c.store.freshNumber .testRuns := by
  by_cases hj : j = i
  · subst hj
    rw [stand_exchanged_self, Stand.run?_after] at hrun
    cases hold : (c.stand j).run? with
    -- a run that has its record makes no other
    | some own =>
      rw [hold] at hrun
      exact Or.inl hrun
    | none =>
      rw [hold] at hrun
      exact Or.inr ⟨rfl, hgoes.madeRun? hrun⟩
  · rw [run?_exchanged_of_ne hj] at hrun
    exact Or.inl hrun

namespace IsApart

variable (h : IsApart members c)
include h

/-- The exchange of a run leaves the runs apart. -/
theorem advance (hstep : Advances members i c c') (hroom : c'.store.HasRoom) :
    IsApart members c' := by
  have hbefore := (Step.advance i hstep).hasRoom hroom
  obtain @⟨r, next, x, store, hleft, hgoes⟩ := hstep
  have hupholds := h.strands i
  rw [hleft] at hupholds
  obtain ⟨hfits, hmoves⟩ := hupholds
  have hconducts : (c.stand i).Conducts r := hfits _ (.refl _)
  refine ⟨?_, fun j => ?_, fun j id hrun => ?_, fun j j' id hrun hrun' => ?_, h.requests⟩
  · -- the run names no run but its own
    rcases hgoes.effect with hstore | ⟨q, y, hq, hy⟩
    · exact (hstore ▸ h.ahead : store.NamesNoneAhead)
    · cases hq
      exact hconducts.namesNoneAhead h.ahead (h.given i) hy
  · by_cases hj : j = i
    · subst hj
      rw [strands_exchanged_self, stand_exchanged_self]
      exact hmoves x _ ⟨c.stand j, .refl _, h.ahead, hgoes, rfl, hroom⟩
    · -- for every other run the exchange is one that spares its records
      have hspares : ∀ id, (c.stand j).run? = some id →
          c.store.Evolves (Store.SparesRun id.text id) store := by
        intro id hid
        rcases hgoes.effect with hstore | ⟨q, y, hq, hy⟩
        · exact hstore ▸ .refl _
        · cases hq
          refine .step (hconducts.spares (h.isProper hbefore hid) fun own hown => ?_) hy (.refl _)
          exact ⟨h.isProper hbefore hown, fun hsame => hj (h.apart j i id hid (hsame ▸ hown))⟩
      simpa [stand, hj] using h.strand_later hspares
  -- a number that is given out is the last one from then on
  · rcases run?_exchanged hgoes hrun with hold | ⟨-, hid, hlast⟩
    · obtain ⟨n, hn, hid⟩ := h.given j id hold
      exact ⟨n, Nat.le_trans hn (hgoes.lastNumber_le .testRuns), hid⟩
    · exact ⟨_, Nat.le_of_eq hlast.symm, hid⟩
  -- a record that is made is none of those that were there, so no two runs share one
  · rcases run?_exchanged hgoes hrun with hold | ⟨hj, hid, -⟩ <;>
      rcases run?_exchanged hgoes hrun' with hold' | ⟨hj', hid', -⟩
    · exact h.apart j j' id hold hold'
    · exact absurd hid' (h.ne_fresh hold)
    · exact absurd hid (h.ne_fresh hold')
    · rw [hj, hj']

/-- Every step leaves the runs apart. -/
theorem step (hstep : Step members c c') (hroom : c'.store.HasRoom) : IsApart members c' := by
  cases hstep with
  | advance i hadvances => exact h.advance hadvances hroom
  | arrive f =>
    refine ⟨h.ahead, h.strands, h.given, h.apart, fun p hp => ?_⟩
    rcases List.mem_cons.1 hp with rfl | hp
    · exact f.asks
    · exact h.requests p hp
  | serve hrequests hserves => exact h.serve hrequests hserves

/-- Whatever the company comes to, its runs are apart. -/
theorem reaches (hreaches : Reaches members c c') (hroom : c'.store.HasRoom) :
    IsApart members c' := by
  induction hreaches with
  | refl => exact h
  | tail _ hstep ih => exact (ih (hstep.hasRoom hroom)).step hstep hroom

/-- A run that is left alone from here on comes to its account. -/
theorem finish_account {p : Program (String × Summary)} (hleft : (c.strands i).left = p)
    (hroom : (Stand.finish (members i).surroundings p (c.stand i)).2.store.HasRoom) :
    (Stand.finish (members i).surroundings p (c.stand i)).2.account
      (Stand.finish (members i).surroundings p (c.stand i)).1 = (members i).outturn := by
  -- by induction on what is left of the run; each of its exchanges leaves the runs apart
  induction p generalizing c with
  | ask r next ih =>
    have hgoes := (c.stand i).respond_goes (members i).surroundings r
    have hstep : Advances members i c (c.exchanged i ⟨r, _⟩ _ (next _)) := .mk hleft hgoes
    have hbefore := hroom.of_le (Stand.finish_lastNumber_le _ _ ⟨_, _ ++ [_]⟩)
    have hrest := ih _ (h.advance hstep hbefore) (by rw [strands_exchanged_self])
    rw [stand_exchanged_self] at hrest
    exact hrest hroom
  | done a => exact h.account_eq (by rw [hleft]; rfl)
  | failed f => exact h.account_eq (by rw [hleft]; rfl)
  | cancelled => exact h.account_eq (by rw [hleft]; rfl)

end IsApart

/-- A run that nobody else is there with comes to its account. -/
theorem alone_account (m : Member) {first : Store} (hfirst : first.NamesNoneAhead)
    (hroom : (m.alone first).2.store.HasRoom) :
    (m.alone first).2.account (m.alone first).1 = m.outturn :=
  (isApart_gathered (fun _ : Unit => m) hfirst).finish_account (i := ()) rfl hroom

/-- Runs that share a store with each other and with requests about flows are isolated: each that
has ended did and left, but for the ids of its documents, what it does and leaves when nobody else
is there; so does each that has not ended, if it is left alone from here on; and no exchange of a
run touches anything in the store but the record of that run and the audit entries that name it. -/
theorem runs_isolated {store : Store} (hstore : store.NamesNoneAhead)
    (hreaches : Reaches members (gathered members store) c) (hroom : c.store.HasRoom) (i : ι) :
    (∀ first : Store, first.NamesNoneAhead → ((members i).alone first).2.store.HasRoom →
      (∀ o, (c.strands i).left.end? = some o →
        (c.stand i).account o = ((members i).alone first).2.account ((members i).alone first).1) ∧
      ∀ o s, Stand.finish (members i).surroundings (c.strands i).left (c.stand i) = (o, s) →
        s.store.HasRoom →
        s.account o = ((members i).alone first).2.account ((members i).alone first).1) ∧
    (∀ c', Advances members i c c' → ∀ coll,
      c'.store.others (c'.stand i).run? coll = c.store.others (c'.stand i).run? coll) := by
  have hapart := (isApart_gathered members hstore).reaches hreaches hroom
  refine ⟨fun first hfirst hroom' => ?_, ?_⟩
  · rw [alone_account _ hfirst hroom']
    refine ⟨fun o hend => hapart.account_eq hend, fun o s hfinish hrest => ?_⟩
    have haccount := hapart.finish_account (i := i) rfl
    rw [hfinish] at haccount
    exact haccount hrest
  · rintro c' ⟨hleft, hgoes⟩ coll
    have hupholds := hapart.strands i
    rw [hleft] at hupholds
    have hconducts : (c.stand i).Conducts _ := hupholds.1 _ (.refl _)
    rw [stand_exchanged_self, store_exchanged]
    exact hconducts.others_eq hgoes coll

/-! ## Schedules -/

/-- After the next exchange of a run. -/
def advanced (members : ι → Member) (c : Company ι) (i : ι) : Company ι :=
  match (c.strands i).left with
  | .ask r next =>
    let answered := (c.stand i).respond (members i).surroundings r
    c.exchanged i ⟨r, answered.1⟩ answered.2 (next answered.1)
  | _ => c

/-- After the next exchange with the request about flows that came in last. -/
def served (c : Company ι) : Company ι :=
  match c.requests with
  | .ask r next :: rest =>
    { c with store := (c.store.respond r).2, requests := next (c.store.respond r).1 :: rest }
  | _ => c

theorem reaches_advanced (members : ι → Member) (c : Company ι) (i : ι) :
    Reaches members c (c.advanced members i) := by
  unfold advanced
  split
  · rename_i r next hleft
    exact .single (.advance i (.mk hleft ((c.stand i).respond_goes _ r)))
  · exact .refl

theorem reaches_served (c : Company ι) : Reaches members c c.served := by
  unfold served
  split
  · rename_i r next rest hrequests
    have hfirst : c.requests = [] ++ .ask r next :: rest := hrequests
    exact .single (.serve hfirst (c.store.respond_serves r))
  · exact .refl

/-- A flow of two nodes, which two people are to get. -/
def shortFlow : Flow where
  id := some "a00000000000000000000001"
  name := "Short"
  nodes := [⟨"start", none, .start [], []⟩, ⟨"end", none, .finish [], []⟩]
  edges := [⟨"only", "start", "end", none, none, none, []⟩]
  createdAt := some (.ofInstant 0)
  updatedAt := some (.ofInstant 0)

/-- Two runs of the flow, the clock of the second an hour ahead. -/
def pair (second : Bool) : Member where
  runner := ⟨.nobody, Runner.defaultSubject⟩
  surroundings :=
    { pace := fun n => .ofInstant (n + if second then 3600000000 else 0)
      reply := fun _ => .ok (MailScript.accepting 1) }
  flow := shortFlow
  recipient := if second then "second@example.com" else "first@example.com"

/-- A store in which the flow is saved. -/
def shortStore : Store :=
  ⟨⟨[⟨Collection.flows.numbered 1, shortFlow.document⟩], 1⟩, .empty, .empty⟩

/-- A round in which both runs and the request about flows get a turn. -/
def pairRound (c : Company Bool) : Company Bool :=
  ((c.advanced pair false).advanced pair true).served

/-- The flow is deleted after both runs were begun, while they take turns. -/
def pairAfter : Company Bool :=
  let begun := ((gathered pair shortStore).advanced pair false).advanced pair true
  pairRound^[32]
    { begun with requests := [FlowRequest.program (.delete "a00000000000000000000001")] }

theorem pair_reaches : Reaches pair (gathered pair shortStore) pairAfter := by
  have hround : ∀ (n : Nat) (c : Company Bool), Reaches pair c (pairRound^[n] c) := by
    intro n
    induction n with
    | zero => exact fun c => .refl
    | succ n ih =>
      intro c
      have hfirst := reaches_advanced pair c false
      have hsecond := reaches_advanced pair (c.advanced pair false) true
      exact ((hfirst.trans hsecond).trans (reaches_served _)).trans (ih (pairRound c))
  have hbegun := (reaches_advanced pair (gathered pair shortStore) false).trans
    (reaches_advanced pair _ true)
  exact (hbegun.trans (.single (.arrive (.delete "a00000000000000000000001")))).trans
    (hround 32 _)

/-- Of the two runs, from under which the flow is deleted, the second comes to the account that it
comes to alone, where no flow is saved at all. -/
theorem runs_isolated_pair :
    pairAfter.store.flows.documents.length = 0 ∧
    ∃ o, (pairAfter.strands true).left.end? = some o ∧ (pairAfter.stand true).account o =
      ((pair true).alone .empty).2.account ((pair true).alone .empty).1 := by
  have hended : (pairAfter.strands true).left.end?.isSome = true := by decide +kernel
  have hroom : pairAfter.store.HasRoom := ⟨by decide +kernel, by decide +kernel⟩
  have hroom' : ((pair true).alone .empty).2.store.HasRoom :=
    ⟨by decide +kernel, by decide +kernel⟩
  obtain ⟨o, ho⟩ := Option.isSome_iff_exists.1 hended
  have hisolated := runs_isolated (fun d hd => absurd hd List.not_mem_nil) pair_reaches hroom true
  obtain ⟨haccount, -⟩ := hisolated.1 .empty (fun d hd => absurd hd List.not_mem_nil) hroom'
  exact ⟨by decide +kernel, o, ho, haccount o ho⟩

end Company

end Automation
