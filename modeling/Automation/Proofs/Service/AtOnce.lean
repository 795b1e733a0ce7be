import Automation.Proofs.Flow.Roundtrip
import Automation.Proofs.Service.Editing
import Automation.RunDesk

/-!
# Changes of flows at one instant

A request about a flow takes no time: the clock stands still while it looks for the flow and writes
what is to be changed, so all that it reads and writes is of one moment (`World.AtOnce`). It either
ends with what the store then has (`update_atOnce`), or it fails and nothing was done
(`FailsAtOnce`). Calls of the store may raise errors on the way, or find nothing.
-/

set_option autoImplicit false

namespace Automation

open World (Outcome)
open Program

-- how names are trimmed does not matter here, and is costly to look at
attribute [local irreducible] Text.trim

variable {α β : Type} {before w w' : World} {s s' : Store}

/-! ## Worlds of one instant -/

namespace World

/-- A world that differs from one before in nothing that can be seen from outside, the time
included, but that it has this store. -/
structure AtOnce (before : World) (s : Store) (w : World) : Prop where
  store : w.database.store = s
  clock : w.clock = before.clock
  tasks : w.tasks = before.tasks
  posts : w.posts = before.posts
  raises : before.Raises → w.Raises

theorem atOnce_self (w : World) : w.AtOnce w.database.store w := ⟨rfl, rfl, rfl, rfl, id⟩

theorem AtOnce.now (h : before.AtOnce s w) : w.now = before.now := by
  rw [World.now, h.clock, World.now]

theorem AtOnce.trans (h : before.AtOnce s w) (h' : w.AtOnce s' w') : before.AtOnce s' w' :=
  ⟨h'.store, h'.clock.trans h.clock, h'.tasks.trans h.tasks, h'.posts.trans h.posts,
    fun hbefore => h'.raises (h.raises hbefore)⟩

/-- A quiet request is answered at once. -/
theorem answer_quiet_atOnce (w : World) {r : Request} (hr : r.IsQuiet) :
    w.AtOnce w.database.store (w.answer r).2 := by
  have hraises : w.Raises → (w.answer r).2.Raises := fun hw =>
    (hw.answer r (by rintro q rfl; exact hr)).1
  have hstore : (w.answer r).2.database.store = w.database.store := by
    rcases w.store_answer r with hstore | ⟨q, -, rfl, -⟩
    · exact hstore
    · exact hr.elim
  obtain rfl | ⟨e, rfl⟩ | rfl := hr.eq
  · exact ⟨hstore, rfl, rfl, rfl, hraises⟩
  · refine ⟨hstore, ?_, ?_, ?_, hraises⟩ <;> simp only [answer, report] <;> split <;> rfl
  · have hrest : (w.answer .connect).2.clock = w.clock ∧ (w.answer .connect).2.tasks = w.tasks ∧
        (w.answer .connect).2.posts = w.posts := by
      simp only [answer]
      split
      · exact ⟨rfl, rfl, rfl⟩
      · split <;> exact ⟨rfl, rfl, rfl⟩
    exact ⟨hstore, hrest.1, hrest.2.1, hrest.2.2, hraises⟩

theorem keeps_atOnce (before : World) (s : Store) :
    setting.Keeps Request.IsQuiet (before.AtOnce s) :=
  setting_keeps fun w r hr h => by
    have hw := w.answer_quiet_atOnce hr
    rw [h.store] at hw
    exact h.trans hw

/-- A query is answered at once, by the store or to no avail. -/
theorem answer_query_atOnce (w : World) (q : Query) : ∃ s',
    w.database.store.Gives q (w.answer (.query q)).1 s' ∧ w.AtOnce s' (w.answer (.query q)).2 := by
  refine ⟨(w.answer (.query q)).2.database.store, ?_, rfl, rfl, rfl, rfl, fun hw => (hw.query q).1⟩
  simp only [answer, Database.answer, Store.Gives]
  rcases Fault.strike q.collection.name q.method w.database.faults with ⟨_ | _ | f, faults⟩
  · cases w.database.store.answer q with
    | ok x => exact Or.inl ⟨x.1, rfl, rfl⟩
    | error e => exact Or.inr ⟨rfl, Or.inl ⟨_, rfl⟩⟩
  · exact Or.inr ⟨rfl, Or.inr rfl⟩
  · exact Or.inr ⟨rfl, Or.inl ⟨_, rfl⟩⟩

theorem query_atOnce {q : Query} {k : Except StoreError q.Answer → Program α}
    {Q : World → Outcome α → Prop} (h : before.AtOnce s w)
    (hk : ∀ x s' w', s.Gives q x s' → before.AtOnce s' w' → (k x).Upholds setting w' Q) :
    (Program.query q >>= k).Upholds setting w Q := by
  refine ⟨trivial, fun x w' hmoves => ?_⟩
  obtain ⟨s', hgives, hw'⟩ := w.answer_query_atOnce q
  rw [show w.answer (.query q) = (x, w') from hmoves] at hgives hw'
  rw [h.store] at hgives
  exact hk x s' w' hgives (h.trans hw')

end World

open World

/-- A program that failed, and nothing was done. -/
def FailsAtOnce (before : World) (s : Store) (w : World) (o : Outcome α) : Prop :=
  (∃ f, o = .failed f) ∧ before.AtOnce s w

theorem report_atOnce (h : before.AtOnce s w) (e : Journal.Entry) :
    (report e).Upholds setting w fun w o => o = .done () ∧ before.AtOnce s w :=
  report_upholds (keeps_atOnce before s) e h

theorem fail_atOnce (h : before.AtOnce s w) (operation : String) (e : StoreError) :
    (Repository.fail operation e : Program α).Upholds setting w (FailsAtOnce before s) :=
  (fail_upholds (keeps_atOnce before s) operation e h).mono fun _ _ ho => ⟨ho.2, ho.1⟩

theorem connect_atOnce {k : Unit → Program α} {Q : World → Outcome α → Prop}
    (h : before.AtOnce s w) (hk : ∀ w, before.AtOnce s w → (k ()).Upholds setting w Q)
    (hfailed : ∀ w f, before.AtOnce s w → Q w (.failed f)) :
    (Repository.connect >>= k).Upholds setting w Q := by
  refine (connect_upholds (keeps_atOnce before s) h).bind ?_ ?_ ?_
  · exact fun w _ hw => hk w hw.1
  · exact fun w f hw => hfailed w f hw.1
  · rintro w ⟨-, ho | ⟨-, f, ho⟩⟩ <;> cases ho

/-- Every time that is asked for is the same. -/
theorem now_atOnce {k : Moment → Program α} {Q : World → Outcome α → Prop}
    (h : before.AtOnce s w)
    (hk : ∀ w, before.AtOnce s w → (k before.now).Upholds setting w Q) :
    (Program.now >>= k).Upholds setting w Q := by
  refine ⟨trivial, fun x w' hmoves => ?_⟩
  cases (show ((w.now, w) : Moment × World) = (x, w') from hmoves)
  rw [h.now]
  exact hk w h

/-- A search, asked by a client, leaves the store as it is. -/
theorem search_atOnce {filter : List Clause}
    {k : Except StoreError (Option Document) → Program α} {Q : World → Outcome α → Prop}
    (h : before.AtOnce s w)
    (hk : ∀ (x : Except StoreError (Option Document)) w, before.AtOnce s w →
      (∀ d, x = .ok (some d) → s.answer (.findOne .flows filter) = .ok (some d, s)) →
      (k x).Upholds setting w Q)
    (hfailed : ∀ w f, before.AtOnce s w → Q w (.failed f)) :
    (Repository.connect >>= fun _ => Program.query (.findOne .flows filter) >>= k).Upholds
      setting w Q := by
  refine connect_atOnce h (fun w h => query_atOnce h fun x s' w' hgives h' => ?_) hfailed
  rcases hgives with ⟨y, hy, rfl⟩ | ⟨rfl, hx⟩
  · have hsame : s' = s := by
      simp only [Store.answer] at hy
      split at hy <;> cases hy
      rfl
    subst hsame
    refine hk _ w' h' fun d hd => ?_
    cases hd
    exact hy
  · refine hk x w' h' fun d hd => ?_
    subst hd
    rcases hx with ⟨e, he⟩ | hx
    · cases he
    · cases hx

/-! ## Flows that are looked for -/

/-- The flow that the store has under an id, as it is read at a time. -/
def Store.HasFlowAt (s : Store) (now : Moment) (id : String) (flow : Flow) : Prop :=
  ∃ oid d, ObjectId.ofText? id = some oid ∧ s.flows.findOne [.idIs oid] = some d ∧
    Repository.flowOf now d = .ok flow

theorem flowOf?_atOnce (h : before.AtOnce s w) (operation : String) (d : Option Document) :
    (Repository.flowOf? operation d).Upholds setting w fun w o =>
      (∃ found, o = .done found ∧ before.AtOnce s w ∧
        ∀ flow ∈ found, ∃ d', d = some d' ∧ Repository.flowOf before.now d' = .ok flow) ∨
      FailsAtOnce before s w o := by
  cases d with
  | none => exact Or.inl ⟨none, rfl, h, nofun⟩
  | some d =>
    refine now_atOnce h fun w h => ?_
    split
    · rename_i flow hflow
      refine Or.inl ⟨some flow, rfl, h, fun flow' hflow' => ?_⟩
      cases hflow'
      exact ⟨d, rfl, hflow⟩
    · exact (fail_atOnce h _ _).mono fun w o ho => Or.inr ho

theorem searchFlow_atOnce (h : before.AtOnce s w) (operation : String) (filter : List Clause) :
    (Repository.searchFlow operation filter).Upholds setting w fun w o =>
      (∃ found, o = .done found ∧ before.AtOnce s w ∧ ∀ flow ∈ found, ∃ d,
        s.answer (.findOne .flows filter) = .ok (some d, s) ∧
          Repository.flowOf before.now d = .ok flow) ∨
      FailsAtOnce before s w o := by
  refine search_atOnce h (fun x w h hfound => ?_) fun w f h => Or.inr ⟨⟨f, rfl⟩, h⟩
  match x with
  | .ok d =>
    refine (flowOf?_atOnce h _ d).mono ?_
    rintro w o (⟨found, rfl, h, hread⟩ | ho)
    · refine Or.inl ⟨found, rfl, h, fun flow hflow => ?_⟩
      obtain ⟨d', rfl, hflow⟩ := hread flow hflow
      exact ⟨d', hfound d' rfl, hflow⟩
    · exact Or.inr ho
  | .error e => exact (fail_atOnce h _ e).mono fun w o ho => Or.inr ho

theorem getFlow_atOnce (h : before.AtOnce s w) (id : String) :
    (Repository.getFlow id).Upholds setting w fun w o =>
      (∃ found, o = .done found ∧ before.AtOnce s w ∧
        ∀ flow ∈ found, s.HasFlowAt before.now id flow) ∨
      FailsAtOnce before s w o := by
  cases hid : ObjectId.ofText? id with
  | none =>
    unfold Repository.getFlow
    rw [hid]
    exact Or.inl ⟨none, rfl, h, nofun⟩
  | some oid =>
    rw [Repository.getFlow_eq hid]
    refine (searchFlow_atOnce h _ _).mono ?_
    rintro w o (⟨found, rfl, h, hfound⟩ | ho)
    · refine Or.inl ⟨found, rfl, h, fun flow hflow => ?_⟩
      obtain ⟨d, hd, hread⟩ := hfound flow hflow
      exact ⟨oid, d, hid, congrArg Prod.fst (Except.ok.inj hd), hread⟩
    · exact Or.inr ho

theorem existing_atOnce (h : before.AtOnce s w) (id : String) :
    (Editor.existing id).Upholds setting w fun w o =>
      (∃ flow, o = .done flow ∧ before.AtOnce s w ∧ s.HasFlowAt before.now id flow) ∨
      FailsAtOnce before s w o := by
  refine (getFlow_atOnce h id).bind_orFailed (fun w found hfound => ?_) fun w f h =>
    Or.inr ⟨⟨f, rfl⟩, h⟩
  cases found with
  | none => exact Or.inr ⟨⟨_, rfl⟩, hfound.1⟩
  | some flow => exact Or.inl ⟨flow, rfl, hfound.1, hfound.2 flow rfl⟩

theorem requireFreeName_atOnce (h : before.AtOnce s w) (name : String) (own : Option String) :
    (Editor.requireFreeName name own).Upholds setting w fun w o =>
      (∃ u, o = .done u ∧ before.AtOnce s w) ∨ FailsAtOnce before s w o := by
  unfold Editor.requireFreeName
  rw [Repository.getFlowByName_eq]
  refine (searchFlow_atOnce h _ _).bind_orFailed (fun w found h => ?_) fun w f h =>
    Or.inr ⟨⟨f, rfl⟩, h⟩
  cases found with
  | none => exact Or.inl ⟨(), rfl, h.1⟩
  | some flow => exact Or.inr ⟨⟨_, rfl⟩, h.1⟩

/-! ## Flows that are changed -/

/-- A document that reads as a flow also does after a change of the flow. -/
theorem flowOf_updated {now : Moment} {d : Document} {flow : Flow}
    (h : Repository.flowOf now d = .ok flow) (name : Option String) (nodes : Option (List Node))
    (edges : Option (List Edge)) (time now' : Moment) :
    ∃ saved, Repository.flowOf now' (d.updated (Value.keptFields
      ((revisedFields name nodes edges).insert "updated_at" (.date time)))) = .ok saved := by
  have hread : ∀ (now : Moment) (fields : Fields), (Flow.readFields now fields).IsOk ↔
      ∃ flow, Repository.readAs "FlowData" (Flow.readFields now fields) = .ok flow := fun _ _ =>
    exists_congr fun _ => Repository.readAs_eq_ok.symm
  have hbefore := (hread _ _).2 ⟨flow, h⟩
  refine (hread _ _).1 ?_
  obtain ⟨hname', hnodes', hedges', hcreated', hupdated'⟩ :=
    Fields.HoldsFlow.get?_merge_revised d.fields name nodes edges time
  -- each field is what it was, or it was written and kept, and then it reads as well
  simp only [Flow.readFields, Checked.isOk_seq, Checked.isOk_map, Reader.isOk_optionalField,
    Reader.isOk_required, Reader.isOk_withDefault, Document.named, Document.updated,
    Fields.get?_insert, Fields.get?_cons] at hbefore ⊢
  simp only [String.reduceEq, if_true, if_false, hname', hnodes', hedges', hcreated',
    hupdated'] at hbefore ⊢
  obtain ⟨⟨⟨⟨⟨hid, hname⟩, hnodes⟩, hedges⟩, hcreated⟩, -⟩ := hbefore
  have hlist : ∀ {β : Type} {read : Reader β} {write : β → Value}
      (_ : ∀ b, (read (write b).kept).IsOk) (bs : List β),
      (Reader.list read (Value.list (bs.map write)).kept).IsOk := by
    intro β read write h bs
    obtain ⟨as, has, -⟩ := Reader.list_kept h bs
    exact ⟨as, has⟩
  refine ⟨⟨⟨⟨⟨hid, ?_⟩, ?_⟩, ?_⟩, hcreated⟩, ?_⟩
  · cases name with
    | none => exact hname
    | some s => exact ⟨_, rfl, s, rfl⟩
  · cases nodes with
    | none => exact hnodes
    | some ns => exact ⟨_, rfl, hlist Node.isOk_read ns⟩
  · cases edges with
    | none => exact hedges
    | some es =>
      rintro v hv
      cases hv
      exact hlist Edge.isOk_read es
  · rintro v hv
    cases hv
    exact ⟨_, rfl⟩

/-- The store has the flow with an id with these changes of a time, and it is then read so. -/
def Store.ChangesTo (s : Store) (now : Moment) (id : String) (changes : Fields) (s' : Store)
    (saved : Flow) : Prop :=
  ∃ oid d, ObjectId.ofText? id = some oid ∧
    s.answer (.change .flows oid (changes.insert "updated_at" (.date now))) = .ok (some d, s') ∧
    Repository.flowOf now d = .ok saved

theorem updateFlow_atOnce (h : before.AtOnce s w) {id : String} {flow : Flow}
    (hflow : s.HasFlowAt before.now id flow) (name : Option String) (nodes : Option (List Node))
    (edges : Option (List Edge)) :
    (Repository.updateFlow id (revisedFields name nodes edges)).Upholds setting w fun w o =>
      (∃ found, o = .done found ∧ (found = none ∧ before.AtOnce s w ∨
        ∃ saved s', found = some saved ∧ before.AtOnce s' w ∧
          s.ChangesTo before.now id (revisedFields name nodes edges) s' saved)) ∨
      FailsAtOnce before s w o := by
  obtain ⟨oid, d, hid, hd, hread⟩ := hflow
  unfold Repository.updateFlow
  rw [hid]
  refine connect_atOnce h (fun w h => ?_) fun w f h => Or.inr ⟨⟨_, rfl⟩, h⟩
  refine now_atOnce h fun w h => query_atOnce h fun x s' w' hgives h' => ?_
  rcases hgives with ⟨y, hy, rfl⟩ | ⟨rfl, ⟨e, rfl⟩ | rfl⟩
  · -- the changed document is found again, and reads as before
    have hfound : y = some (d.updated (Value.keptFields
        ((revisedFields name nodes edges).insert "updated_at" (.date before.now)))) := by
      have hchanged := Store.answer_changed hy
      rw [show (s.shelf .flows).findOne [.idIs oid] = some d from hd] at hchanged
      exact hchanged
    subst hfound
    refine now_atOnce h' fun w h => ?_
    obtain ⟨saved, hsaved⟩ := flowOf_updated hread name nodes edges before.now before.now
    rw [hsaved]
    exact Or.inl ⟨some saved, rfl, Or.inr ⟨saved, s', rfl, h, oid, _, hid, hy, hsaved⟩⟩
  · exact (fail_atOnce h' _ e).mono fun w o ho => Or.inr ho
  · exact Or.inl ⟨none, rfl, Or.inl ⟨rfl, h'⟩⟩

/-- A new name is that of a revision, trimmed, and not empty. -/
theorem nameChange_atOnce (h : before.AtOnce s w) (id : String) (given : Option String) :
    (Editor.nameChange id given).Upholds setting w fun w o =>
      (∃ fields, o = .done fields ∧ before.AtOnce s w ∧ (∀ name ∈ given, Text.trim name ≠ "") ∧
        fields = ((given.map Text.trim).map fun t => ("name", Value.text t)).toList) ∨
      FailsAtOnce before s w o := by
  cases given with
  | none => exact Or.inl ⟨[], rfl, h, nofun, rfl⟩
  | some given =>
    dsimp only [Editor.nameChange]
    split
    · exact Or.inr ⟨⟨_, rfl⟩, h⟩
    · rename_i hempty
      refine (requireFreeName_atOnce h _ _).bind_orFailed (fun w u h => ?_) fun w f h =>
        Or.inr ⟨⟨f, rfl⟩, h⟩
      refine Or.inl ⟨_, rfl, h, fun name hname => ?_, rfl⟩
      cases hname
      exact ne_empty_of_isEmpty (by simpa using hempty)

/-- New nodes are those of a revision, and not an empty list. -/
theorem nodesChange_atOnce (h : before.AtOnce s w) (given : Option (List Node)) :
    (Editor.nodesChange given).Upholds setting w fun w o =>
      (∃ fields, o = .done fields ∧ before.AtOnce s w ∧ given ≠ some [] ∧
        fields = (given.map fun nodes => ("nodes", writeNodes nodes)).toList) ∨
      FailsAtOnce before s w o := by
  cases given with
  | none => exact Or.inl ⟨[], rfl, h, nofun, rfl⟩
  | some nodes =>
    cases nodes with
    | nil => exact Or.inr ⟨⟨_, rfl⟩, h⟩
    | cons n ns => exact Or.inl ⟨_, rfl, h, by simp, rfl⟩

/-- What a revision changes. -/
def Revision.changes (r : Revision) : Fields :=
  revisedFields (r.name.map Text.trim) r.nodes r.edges

/-- What a revision that is accepted leaves behind, and the answer to it: the flow with what was
provided, or the flow as it is if nothing was. -/
inductive Store.Accepts (s : Store) (now : Moment) (id : String) (r : Revision) :
    Store → Flow → Prop
  | idle {saved : Flow} (hchanges : r.changes = []) (hsaved : s.HasFlowAt now id saved) :
    Accepts s now id r s saved
  | changed {s' : Store} {saved : Flow} (hchanges : r.changes ≠ [])
      (hsaved : s.ChangesTo now id r.changes s' saved) : Accepts s now id r s' saved

theorem writeChanges_atOnce (h : before.AtOnce s w) {id : String} {flow : Flow}
    (hflow : s.HasFlowAt before.now id flow) (r : Revision) :
    (Editor.writeChanges id flow r.changes).Upholds setting w fun w o =>
      (∃ saved, o = .done saved ∧ ∃ s', before.AtOnce s' w ∧
        s.Accepts before.now id r s' saved) ∨ FailsAtOnce before s w o := by
  have hupdate := updateFlow_atOnce h hflow (r.name.map Text.trim) r.nodes r.edges
  cases hchanges : r.changes with
  | nil => exact Or.inl ⟨flow, rfl, s, h, .idle hchanges hflow⟩
  | cons change rest =>
    have hsome : r.changes ≠ [] := by simp [hchanges]
    rw [← Revision.changes, hchanges] at hupdate
    refine hupdate.bind_orFailed (fun w found hfound => ?_) fun w f h => Or.inr ⟨⟨_, rfl⟩, h⟩
    rcases hfound with ⟨rfl, h⟩ | ⟨saved, s', rfl, h, hsaved⟩
    · exact Or.inr ⟨⟨_, rfl⟩, h⟩
    · rw [← hchanges] at hsaved
      refine (report_atOnce h _).bind_unit fun w h => ?_
      exact Or.inl ⟨saved, rfl, s', h, .changed hsome hsaved⟩

/-- What a revision provides is written, or nothing is done; one that provides nothing leaves the
flow as it is. Blank names and empty lists of nodes are refused. -/
theorem update_atOnce (h : before.AtOnce s w) (id : String) (r : Revision) :
    (Editor.update id r).Upholds setting w fun w o =>
      (∃ saved, o = .done saved ∧ (∀ name ∈ r.name, Text.trim name ≠ "") ∧ r.nodes ≠ some [] ∧
        ∃ s', before.AtOnce s' w ∧ s.Accepts before.now id r s' saved) ∨
      FailsAtOnce before s w o := by
  rw [Editor.update_eq]
  refine foreseen_orFailed _ _ ?_ (keeps_atOnce before s)
  refine (existing_atOnce h id).bind_orFailed (fun w flow hflow => ?_) fun w f h =>
    Or.inr ⟨⟨f, rfl⟩, h⟩
  obtain ⟨h, hflow⟩ := hflow
  refine (nameChange_atOnce h id r.name).bind_orFailed (fun w fields hfields => ?_) fun w f h =>
    Or.inr ⟨⟨f, rfl⟩, h⟩
  obtain ⟨h, hname, rfl⟩ := hfields
  refine (nodesChange_atOnce h r.nodes).bind_orFailed (fun w fields hfields => ?_) fun w f h =>
    Or.inr ⟨⟨f, rfl⟩, h⟩
  obtain ⟨h, hnodes, rfl⟩ := hfields
  refine (writeChanges_atOnce h hflow r).mono ?_
  rintro w o (⟨saved, ho, haccepts⟩ | ho)
  · exact Or.inl ⟨saved, ho, hname, hnodes, haccepts⟩
  · exact Or.inr ho

end Automation
