import Automation.Proofs.Service.Saving

/-!
# Which revisions are accepted

Where no call of the store fails, a revision of a flow is accepted exactly if the flow is there and
reads as one, its new name is not blank and no other flow has it, its nodes are not an empty list,
and the store can keep what it sets (`Store.Admits`, `update_decides`).
-/

set_option autoImplicit false

namespace Automation

open World (Outcome)
open Program World

-- how names are trimmed and ids are read does not matter here, and is costly to look at
attribute [local irreducible] Text.trim ObjectId.ofText?

variable {α β : Type} {w : World} {s : Store} {now : Moment} {C D : Prop}

/-! ## Programs that decide a condition -/

/-- A program ends with such a value if the condition holds, and fails if it does not. -/
def Program.Decides (p : Program α) (w : World) (P : World → α → Prop) (C : Prop) : Prop :=
  p.Upholds setting w fun w o => (∃ a, o = .done a ∧ C ∧ P w a) ∨ (∃ f, o = .failed f) ∧ ¬ C

theorem decides_done {a : α} {P : World → α → Prop} (hC : C) (ha : P w a) :
    (Program.done a).Decides w P C := Or.inl ⟨a, rfl, hC, ha⟩

theorem decides_failed {f : Failure} {P : World → α → Prop} (hC : ¬ C) :
    (Program.failed f).Decides w P C := Or.inr ⟨⟨f, rfl⟩, hC⟩

theorem decides_fail {operation : String} {e : StoreError} {P : World → α → Prop} (hC : ¬ C) :
    (Repository.fail operation e : Program α).Decides w P C :=
  ⟨trivial, fun _ _ _ => decides_failed hC⟩

theorem Program.Decides.mono {p : Program α} {P Q : World → α → Prop} (h : p.Decides w P C)
    (hP : ∀ w a, P w a → Q w a) (hC : C ↔ D) : p.Decides w Q D := by
  rw [← hC]
  refine Upholds.mono h ?_
  rintro w o (⟨a, ho, hC, ha⟩ | ho)
  · exact Or.inl ⟨a, ho, hC, hP w a ha⟩
  · exact Or.inr ho

/-- Two programs, one after the other, decide both of their conditions. -/
theorem Program.Decides.bind {p : Program α} {k : α → Program β} {P : World → α → Prop}
    {Q : World → β → Prop} (hp : p.Decides w P C)
    (hk : ∀ w a, C → P w a → (k a).Decides w Q D) : (p >>= k).Decides w Q (C ∧ D) := by
  refine Upholds.bind_orFailed (P := fun w a => C ∧ P w a) (I := fun _ => ¬ C) hp ?_ ?_
  · rintro w a ⟨hC, ha⟩
    refine Upholds.mono (hk w a hC ha) ?_
    rintro w o (⟨b, ho, hD, hb⟩ | ⟨hf, hD⟩)
    · exact Or.inl ⟨b, ho, ⟨hC, hD⟩, hb⟩
    · exact Or.inr ⟨hf, fun h => hD h.2⟩
  · exact fun w f hC => Or.inr ⟨⟨f, rfl⟩, fun h => hC h.1⟩

theorem Program.Decides.foreseen {p : Program α} {P : World → α → Prop} (speaker : String)
    (activity : Activity) (h : p.Decides w P C) :
    (Editor.foreseen speaker activity p).Decides w P C :=
  foreseen_orFailed (P := fun w a => C ∧ P w a) (I := fun _ => ¬ C) speaker activity h
    (setting_keeps fun _ _ _ h => h)

/-! ## Flows that are looked for -/

/-- A document that is found has to read as a flow. -/
theorem flowOf?_decides (hw : w.HoldsAt s now) (operation : String) (d : Option Document) :
    (Repository.flowOf? operation d).Decides w
      (fun w found => w.HoldsAt s now ∧
        Option.Rel (fun d flow => Repository.flowOf now d = .ok flow) d found)
      (∀ d' ∈ d, ∃ flow, Repository.flowOf now d' = .ok flow) := by
  cases d with
  | none => exact decides_done nofun ⟨hw, .none⟩
  | some d =>
    refine now_holdsAt hw fun w hw => ?_
    split
    · rename_i flow hflow
      refine decides_done (fun d' hd' => ?_) ⟨hw, .some hflow⟩
      cases hd'
      exact ⟨flow, hflow⟩
    · rename_i e he
      refine decides_fail fun h => ?_
      obtain ⟨flow, hflow⟩ := h d rfl
      rw [he] at hflow
      cases hflow

theorem searchFlow_decides (hw : w.HoldsAt s now) (operation : String) {filter : List Clause}
    {d : Option Document} (hd : s.answer (.findOne .flows filter) = .ok (d, s)) :
    (Repository.searchFlow operation filter).Decides w
      (fun w found => w.HoldsAt s now ∧
        Option.Rel (fun d flow => Repository.flowOf now d = .ok flow) d found)
      (∀ d' ∈ d, ∃ flow, Repository.flowOf now d' = .ok flow) :=
  search_holdsAt hw (show "find_one" ≠ "update_one" by decide) hd fun _ hw =>
    flowOf?_decides hw operation d

/-- A flow is there if a document is found and what is found reads as one. -/
theorem Store.exists_hasFlowAt_iff {id : String} {oid : ObjectId}
    (hid : ObjectId.ofText? id = some oid) :
    (∃ flow, s.HasFlowAt now id flow) ↔
      (∀ d ∈ s.flows.findOne [.idIs oid], ∃ flow, Repository.flowOf now d = .ok flow) ∧
        (s.flows.findOne [.idIs oid]).isSome := by
  constructor
  · rintro ⟨flow, oid', d, hoid, hd, hread⟩
    obtain rfl := Option.some.inj (hid.symm.trans hoid)
    rw [hd]
    exact ⟨fun d' hd' => ⟨flow, Option.some.inj hd' ▸ hread⟩, rfl⟩
  · rintro ⟨hread, hsome⟩
    obtain ⟨d, hd⟩ := Option.isSome_iff_exists.1 hsome
    obtain ⟨flow, hflow⟩ := hread d hd
    exact ⟨flow, oid, d, hid, hd, hflow⟩

theorem existing_decides (hw : w.HoldsAt s now) (id : String) :
    (Editor.existing id).Decides w
      (fun w flow => w.HoldsAt s now ∧ s.HasFlowAt now id flow)
      (∃ flow, s.HasFlowAt now id flow) := by
  unfold Editor.existing
  cases hid : ObjectId.ofText? id with
  | none =>
    have hnone : ¬ ∃ flow, s.HasFlowAt now id flow := by
      rintro ⟨flow, oid, d, hoid, -⟩
      rw [hid] at hoid
      cases hoid
    unfold Repository.getFlow
    rw [hid]
    exact decides_failed hnone
  | some oid =>
    rw [Repository.getFlow_eq hid, Store.exists_hasFlowAt_iff hid]
    refine (searchFlow_decides hw _ rfl).bind ?_
    rintro w found - ⟨hw, hfound⟩
    cases hd : s.flows.findOne [.idIs oid] with
    | none =>
      rw [hd] at hfound
      cases hfound
      exact decides_failed nofun
    | some d =>
      rw [hd] at hfound
      cases hfound with
      | some hread => exact decides_done rfl ⟨hw, oid, d, hid, hd, hread⟩

/-- A name is free exactly if the search for it that passes over the own flow finds nothing. -/
theorem Shelf.isFree_iff_findOne {f : Shelf} {name : String} {own : Option String} :
    f.IsFree name (own.bind ObjectId.ofText?) ↔
      f.findOne (Repository.nameFilter name own) = none := by
  refine ⟨fun hfree => List.find?_eq_none.2 fun d hd hholds => ?_, isFree_of_findOne⟩
  have hclause := List.all_eq_true.1 hholds
  refine hfree d hd (fun hown => ?_)
    (Clause.holds_textIs_iff.1 (hclause _ (List.mem_cons_self ..)))
  have hskipped := hclause (.idIsNot d.id) (List.mem_cons_of_mem _ (by simp [← hown]))
  simp [Clause.holds] at hskipped

theorem requireFreeName_decides (hw : w.HoldsAt s now) (name : String) (own : Option String) :
    (Editor.requireFreeName name own).Decides w (fun w _ => w.HoldsAt s now)
      (s.flows.IsFree name (own.bind ObjectId.ofText?)) := by
  have hanswer : s.answer (.findOne .flows (Repository.nameFilter name own)) =
      .ok (s.flows.findOne (Repository.nameFilter name own), s) := by
    simp only [Store.answer, mapM_nameFilter]
    rfl
  -- a document found makes the search fail or the name taken, whether it reads as a flow or not
  have hfree : s.flows.IsFree name (own.bind ObjectId.ofText?) ↔
      (∀ d ∈ s.flows.findOne (Repository.nameFilter name own),
        ∃ flow, Repository.flowOf now d = .ok flow) ∧
          s.flows.findOne (Repository.nameFilter name own) = none := by
    rw [Shelf.isFree_iff_findOne]
    refine ⟨fun h => ⟨fun d hd => ?_, h⟩, And.right⟩
    rw [h] at hd
    cases hd
  unfold Editor.requireFreeName
  rw [Repository.getFlowByName_eq, hfree]
  generalize s.flows.findOne (Repository.nameFilter name own) = found at hanswer
  refine (searchFlow_decides hw _ hanswer).bind ?_
  rintro w found - ⟨hw, hfound⟩
  cases hfound with
  | none => exact decides_done rfl hw
  | some hread => exact decides_failed (Option.some_ne_none _)

/-! ## Revisions -/

theorem nameChange_decides (hw : w.HoldsAt s now) (id : String) (given : Option String) :
    (Editor.nameChange id given).Decides w
      (fun w fields => w.HoldsAt s now ∧
        fields = ((given.map Text.trim).map fun t => ("name", Value.text t)).toList)
      (∀ name ∈ given, Text.trim name ≠ "" ∧
        s.flows.IsFree (Text.trim name) (ObjectId.ofText? id)) := by
  cases given with
  | none => exact decides_done nofun ⟨hw, rfl⟩
  | some given =>
    have hgiven : (∀ name ∈ some given, Text.trim name ≠ "" ∧
        s.flows.IsFree (Text.trim name) (ObjectId.ofText? id)) ↔
          s.flows.IsFree (Text.trim given) ((some id).bind ObjectId.ofText?) ∧
            Text.trim given ≠ "" := by
      simp [and_comm]
    dsimp only [Editor.nameChange]
    rw [hgiven]
    split
    · rename_i hempty
      exact decides_failed fun h => h.2 (String.isEmpty_iff.1 hempty)
    · rename_i hempty
      refine (requireFreeName_decides hw _ _).bind fun w _ _ hw => decides_done ?_ ⟨hw, rfl⟩
      exact ne_empty_of_isEmpty (by simpa using hempty)

theorem nodesChange_decides (hw : w.HoldsAt s now) (given : Option (List Node)) :
    (Editor.nodesChange given).Decides w
      (fun w fields => w.HoldsAt s now ∧
        fields = (given.map fun nodes => ("nodes", writeNodes nodes)).toList)
      (given ≠ some []) := by
  cases given with
  | none => exact decides_done nofun ⟨hw, rfl⟩
  | some nodes =>
    cases nodes with
    | nil => exact decides_failed fun h => h rfl
    | cons n ns => exact decides_done (by simp) ⟨hw, rfl⟩

/-- The store can keep what the revision sets at a time. -/
def Revision.IsStorable (r : Revision) (now : Moment) : Prop :=
  r.changes ≠ [] → ∃ fields,
    Value.storedFields? (r.changes.insert "updated_at" (.date now)) = .ok fields

/-- A change succeeds exactly if the store can keep it. -/
theorem Store.answer_change_isOk_iff {c : Collection} {oid : ObjectId} {changes : Fields} :
    (∃ y, s.answer (.change c oid changes) = .ok y) ↔
      ∃ fields, Value.storedFields? changes = .ok fields := by
  simp only [answer]
  cases Value.storedFields? changes <;> simp

/-- A flow that is there reads as one after a change too, so only the store can refuse it. -/
theorem updateFlow_decides (hw : w.HoldsAt s now) {id : String} {flow : Flow}
    (hflow : s.HasFlowAt now id flow) (name : Option String) (nodes : Option (List Node))
    (edges : Option (List Edge)) :
    (Repository.updateFlow id (revisedFields name nodes edges)).Decides w
      (fun _ found => found.isSome)
      (∃ fields, Value.storedFields?
        ((revisedFields name nodes edges).insert "updated_at" (.date now)) = .ok fields) := by
  obtain ⟨oid, d, hid, hd, hread⟩ := hflow
  unfold Repository.updateFlow
  rw [hid]
  refine connect_holdsAt hw fun w hw => now_holdsAt hw fun w hw => ⟨trivial, fun x w' hmoves => ?_⟩
  have hanswer := answer_query hw.holds
    (q := .change .flows oid ((revisedFields name nodes edges).insert "updated_at" (.date now)))
    (Or.inr (show "find_one_and_update" ≠ "update_one" by decide))
  rw [show w.answer (.query _) = (x, w') from hmoves] at hanswer
  cases hy : s.answer
      (.change .flows oid ((revisedFields name nodes edges).insert "updated_at" (.date now))) with
  | error e =>
    rw [hy] at hanswer
    cases hanswer
    refine decides_fail ?_
    rw [← Store.answer_change_isOk_iff, hy]
    rintro ⟨y, ⟨⟩⟩
  | ok y =>
    obtain ⟨y, s'⟩ := y
    rw [hy] at hanswer
    cases hanswer
    -- the changed document is found again, and reads as before
    have hchanged := Store.answer_changed hy
    rw [show (s.shelf .flows).findOne [.idIs oid] = some d from hd] at hchanged
    subst hchanged
    obtain ⟨saved, hsaved⟩ := flowOf_updated hread name nodes edges now now
    have hw' : World.HoldsAt { w with database := ⟨s', w.database.faults⟩ } s' now :=
      ⟨⟨rfl, hw.holds.faults⟩, hw.now⟩
    refine (flowOf?_decides hw' "update_flow" (some _)).mono ?_ (iff_of_true ?_ ?_)
    · rintro w found ⟨-, hfound⟩
      cases hfound
      rfl
    · rintro d' ⟨⟩
      exact ⟨saved, hsaved⟩
    · exact Store.answer_change_isOk_iff.1 ⟨_, hy⟩

theorem writeChanges_decides (hw : w.HoldsAt s now) {id : String} {flow : Flow}
    (hflow : s.HasFlowAt now id flow) (r : Revision) :
    (Editor.writeChanges id flow r.changes).Decides w (fun _ _ => True) (r.IsStorable now) := by
  have hupdate := updateFlow_decides hw hflow (r.name.map Text.trim) r.nodes r.edges
  rw [← Revision.changes] at hupdate
  unfold Revision.IsStorable
  cases hchanges : r.changes with
  | nil =>
    -- nothing is written, so there is nothing that the store could refuse
    exact decides_done (fun h => absurd rfl h) trivial
  | cons change rest =>
    rw [hchanges] at hupdate
    refine (hupdate.bind (Q := fun _ _ => True) (D := True) ?_).mono (fun _ _ h => h) (by simp)
    rintro w found - hfound
    obtain ⟨saved, rfl⟩ := Option.isSome_iff_exists.1 hfound
    exact ⟨trivial, fun _ _ _ => decides_done trivial trivial⟩

/-- A revision that the store admits at a time: the flow with the id is there and reads as one, the
new name is not blank and no other flow has it, the nodes are not an empty list, and the store can
keep what is set. -/
structure Store.Admits (s : Store) (now : Moment) (id : String) (r : Revision) : Prop where
  flow : ∃ flow, s.HasFlowAt now id flow
  name : ∀ name ∈ r.name, Text.trim name ≠ "" ∧
    s.flows.IsFree (Text.trim name) (ObjectId.ofText? id)
  nodes : r.nodes ≠ some []
  storable : r.IsStorable now

/-- Where the store is at work, it is decided by the store which revisions are accepted. -/
theorem update_decides (hw : w.HoldsAt s now) (id : String) (r : Revision) :
    (Editor.update id r).Decides w (fun _ _ => True) (s.Admits now id r) := by
  have hadmits : (∃ flow, s.HasFlowAt now id flow) ∧ (∀ name ∈ r.name, Text.trim name ≠ "" ∧
      s.flows.IsFree (Text.trim name) (ObjectId.ofText? id)) ∧ r.nodes ≠ some [] ∧
        r.IsStorable now ↔ s.Admits now id r :=
    ⟨fun ⟨hflow, hname, hnodes, hstorable⟩ => ⟨hflow, hname, hnodes, hstorable⟩,
      fun ⟨hflow, hname, hnodes, hstorable⟩ => ⟨hflow, hname, hnodes, hstorable⟩⟩
  rw [Editor.update_eq, ← hadmits]
  refine Program.Decides.foreseen _ _ ?_
  refine (existing_decides hw id).bind fun w flow _ ⟨hw, hflow⟩ => ?_
  refine (nameChange_decides hw id r.name).bind fun w _ _ ⟨hw, hname⟩ => ?_
  refine (nodesChange_decides hw r.nodes).bind fun w _ _ ⟨hw, hnodes⟩ => ?_
  subst hname hnodes
  exact writeChanges_decides hw hflow r

end Automation
