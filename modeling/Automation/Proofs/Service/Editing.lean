import Automation.Proofs.Service.Requests
import Automation.Proofs.World.Exchanges

/-!
# What requests do to saved flows

A flow is made, changed or deleted by one query each, and every request that does so asks first: a
name is written only after a search for it has found no other flow, and a flow is deleted only after
it was found. So a request leaves the saved flows as they are, or makes one edit of them
(`Shelf.Edited`), whichever of its calls of the store fail.
-/

set_option autoImplicit false

namespace Automation

open World (Outcome chronicle)
open Program
open Automation.Text

/-! ## Edits -/

/-- A request that leaves the saved flows alone. -/
def Request.SparesFlows : Request → Prop
  | .query (.insert .flows _) | .query (.change .flows ..) | .query (.update .flows ..)
  | .query (.delete .flows _) => False
  | _ => True

theorem Request.IsQuiet.sparesFlows {r : Request} (h : r.IsQuiet) : r.SparesFlows := by
  cases r <;> first | exact h.elim | trivial

/-- The flow that was made, if one was. -/
def Exchange.madeFlow : Exchange → List ObjectId
  | ⟨.query (.insert .flows _), .ok (some id)⟩ => [id]
  | _ => []

/-- The flows that were made. -/
def madeFlows (es : List Exchange) : List ObjectId := es.flatMap Exchange.madeFlow

@[simp] theorem madeFlows_concat (es : List Exchange) (e : Exchange) :
    madeFlows (es ++ [e]) = madeFlows es ++ e.madeFlow := by
  simp [madeFlows]

/-- No flow but those with the ids has the name. -/
def Shelf.IsFree (s : Shelf) (name : String) (own : Option ObjectId) : Prop :=
  ∀ d ∈ s.documents, some d.id ≠ own → d.fields.get? "name" ≠ some (.text name)

/-- What an edit that deletes nothing does to the saved flows, and the ids of the flows it makes:
nothing at all, or a flow is made under a free name, or one is changed and keeps its name or has a
free one. -/
inductive Shelf.Edited (s : Shelf) : List ObjectId → Shelf → Prop
  | same : Edited s [] s
  | made {name : String} {fields : Fields} {n : Nat} (hn : s.lastNumber < n)
      (hfields : fields.HoldsFlow name) (hfree : s.IsFree name none) :
      Edited s [Collection.flows.numbered n]
        ⟨s.documents ++ [⟨Collection.flows.numbered n, fields⟩], n⟩
  | changed (id : ObjectId) {name : Option String} {nodes : Option (List Node)}
      (edges : Option (List Edge)) (now : Moment)
      (hname : ∀ t ∈ name, trim t = t ∧ t ≠ "" ∧ s.IsFree t (some id))
      (hnodes : ∀ ns ∈ nodes, ns ≠ []) :
      Edited s [] (s.change id (Value.keptFields
        ((revisedFields name nodes edges).insert "updated_at" (.date now))))

/-- A world whose faults raise errors and whose saved flows are these, after exchanges that made
flows with these ids. -/
structure SavedFlows (f : Shelf) (made : List ObjectId) (s : World × List Exchange) : Prop where
  raises : s.1.Raises
  flows : s.1.database.store.flows = f
  made : madeFlows s.2 = made

/-- After a request that deletes nothing. -/
def EditedFlows (f : Shelf) (made : List ObjectId) (s : World × List Exchange) : Prop :=
  ∃ made' f', f.Edited made' f' ∧ SavedFlows f' (made ++ made') s

/-- Whatever the saved flows are, at the end of the program the condition holds of what they were
and of what became of them. -/
structure Program.TreatsFlows {α : Type} (p : Program α)
    (Q : Shelf → List ObjectId → World × List Exchange → Outcome α → Prop) : Prop where
  upholds : ∀ f made s, SavedFlows f made s → p.Upholds chronicle s (Q f made)

/-- A program that deletes no flow and makes at most one edit of the saved flows. -/
abbrev Program.EditsOnce {α : Type} (p : Program α) : Prop :=
  p.TreatsFlows fun f made s _ => EditedFlows f made s

variable {α : Type} {f : Shelf} {made : List ObjectId} {s : World × List Exchange}

theorem SavedFlows.edited (h : SavedFlows f made s) : EditedFlows f made s :=
  ⟨[], f, .same, by rwa [List.append_nil]⟩

/-- A query that leaves the saved flows alone makes none. -/
theorem madeFlow_of_sparesFlows {r : Request} {x : r.Answer} (h : r.SparesFlows) :
    Exchange.madeFlow ⟨r, x⟩ = [] := by
  cases r with
  | query q =>
    cases q with
    | insert c fields => cases c <;> first | exact h.elim | rfl
    | _ => rfl
  | _ => rfl

theorem keeps_savedFlows : chronicle.Keeps Request.SparesFlows (SavedFlows f made) := by
  rintro ⟨w, es⟩ r hr ⟨hraises, hflows, hmade⟩
  refine ⟨trivial, ?_⟩
  rintro x ⟨w', es'⟩ ⟨hanswer, rfl⟩
  have hmade' : madeFlows (es ++ [⟨r, x⟩]) = made := by
    rw [madeFlows_concat, madeFlow_of_sparesFlows hr, List.append_nil]
    exact hmade
  by_cases hquery : ∃ q, r = .query q
  · obtain ⟨q, rfl⟩ := hquery
    have hq := hraises.query q
    rw [show w.answer (.query q) = (x, w') from hanswer] at hq
    obtain ⟨hraises', ⟨y, hy, -⟩ | ⟨-, hstore⟩⟩ := hq
    · refine ⟨hraises', ?_, hmade'⟩
      have hbecomes := Store.answer_shelf .flows hy
      cases hbecomes with
      | same heq => exact heq.trans hflows
      | inserted fields heq hinsert =>
        subst hinsert
        exact hr.elim
      | changed oid changes heq hset =>
        rcases hset with rfl | rfl <;> exact hr.elim
      | deleted oid heq hdelete =>
        subst hdelete
        exact hr.elim
    · refine ⟨hraises', ?_, hmade'⟩
      show w'.database.store.flows = f
      rw [hstore]
      exact hflows
  · obtain ⟨hraises', hstore⟩ := hraises.answer r fun q hq => hquery ⟨q, hq⟩
    rw [show w.answer r = (x, w') from hanswer] at hraises' hstore
    refine ⟨hraises', ?_, hmade'⟩
    show w'.database.store.flows = f
    rw [hstore]
    exact hflows

theorem keeps_savedFlows_quiet : chronicle.Keeps Request.IsQuiet (SavedFlows f made) :=
  fun s r hr hs => keeps_savedFlows s r hr.sparesFlows hs

theorem keeps_editedFlows : chronicle.Keeps Request.SparesFlows (EditedFlows f made) := by
  rintro s r hr ⟨made', f', hedited, hs⟩
  obtain ⟨hfits, hmoves⟩ := keeps_savedFlows s r hr hs
  exact ⟨hfits, fun x s' hs' => ⟨made', f', hedited, hmoves x s' hs'⟩⟩

theorem keeps_editedFlows_quiet : chronicle.Keeps Request.IsQuiet (EditedFlows f made) :=
  fun s r hr hs => keeps_editedFlows s r hr.sparesFlows hs

theorem Program.Asks.editsOnce {p : Program α} (h : p.Asks Request.SparesFlows) : p.EditsOnce :=
  ⟨fun _ _ _ hs => h.keeps keeps_editedFlows hs.edited⟩

/-- What a program does to the saved flows holds of the world that has performed it, and of their
exchanges. -/
theorem Program.TreatsFlows.perform {p : Program α} {w : World}
    {Q : Shelf → List ObjectId → World × List Exchange → Outcome α → Prop} (h : p.TreatsFlows Q)
    (hw : w.Raises) :
    Q w.database.store.flows [] ((w.perform p).2, w.exchanges p) (w.perform p).1 := by
  have hupholds := h.upholds w.database.store.flows [] (w, []) ⟨hw, rfl, rfl⟩
  exact World.perform_chronicle hupholds

/-! ## Calls of the repository -/

/-- An operation that fails tells the journal so. -/
theorem fail_upholds {σ : Type} {c : Setting σ} {I : σ → Prop} {s : σ}
    (hquiet : c.Keeps Request.IsQuiet I) (operation : String) (e : StoreError) (hs : I s) :
    (Repository.fail operation e : Program α).Upholds c s fun s o =>
      I s ∧ ∃ failure, o = .failed failure :=
  (report_upholds hquiet _ hs).bind_unit fun _ hs => ⟨hs, _, rfl⟩

/-- A client of the store leaves the saved flows alone. -/
theorem connect_savedFlows {k : Unit → Program α} {Q : World × List Exchange → Outcome α → Prop}
    (hs : SavedFlows f made s) (hk : ∀ s, SavedFlows f made s → (k ()).Upholds chronicle s Q)
    (hfailed : ∀ s failure, SavedFlows f made s → Q s (.failed failure)) :
    (Repository.connect >>= k).Upholds chronicle s Q := by
  refine (connect_upholds keeps_savedFlows_quiet hs).bind ?_ ?_ ?_
  · exact fun s _ hs => hk s hs.1
  · exact fun s failure hs => hfailed s failure hs.1
  · rintro s ⟨-, ho | ⟨-, failure, ho⟩⟩ <;> cases ho

/-- The flow of a document that was found is read, or the operation fails. -/
theorem flowOf?_upholds (operation : String) (d : Option Document) (hs : SavedFlows f made s) :
    (Repository.flowOf? operation d).Upholds chronicle s fun s o =>
      SavedFlows f made s ∧ (o = .done none ∧ d = none ∨
        (∃ d' flow, d = some d' ∧ o = .done (some flow)) ∨ ∃ failure, o = .failed failure) := by
  cases d with
  | none => exact ⟨hs, Or.inl ⟨rfl, rfl⟩⟩
  | some d =>
    have hclock := keeps_savedFlows_quiet s .clock trivial hs
    refine upholds_now_bind.2 ⟨trivial, fun now s' hmoves => ?_⟩
    have hs' := hclock.2 now s' hmoves
    cases Repository.flowOf now d with
    | ok flow => exact ⟨hs', Or.inr (Or.inl ⟨d, flow, rfl, rfl⟩)⟩
    | error e =>
      refine (fail_upholds keeps_savedFlows_quiet operation e hs').mono ?_
      rintro s o ⟨hs, ho⟩
      exact ⟨hs, Or.inr (Or.inr ho)⟩

/-- The search for a flow by its name is kept by the store as it is. -/
theorem mapM_nameFilter (name : String) (own : Option String) :
    (Repository.nameFilter name own).mapM Store.storedClause? =
      .ok (Repository.nameFilter name own) := by
  unfold Repository.nameFilter
  cases own.bind ObjectId.ofText? <;> rfl

/-- A name by which no flow is found, but for one that is passed over, is free but for that one. -/
theorem Shelf.isFree_of_findOne_idIsNot {name : String} {own : Option ObjectId}
    (h : f.findOne (.textIs "name" name :: (own.map Clause.idIsNot).toList) = none) :
    f.IsFree name own := by
  intro d hd hown hname
  have hnot := List.find?_eq_none.1 h d hd
  refine hnot (List.all_eq_true.2 fun clause hclause => ?_)
  rcases List.mem_cons.1 hclause with rfl | hclause
  · exact Clause.holds_textIs_iff.2 hname
  · obtain ⟨id, hid, rfl⟩ := Option.map_eq_some_iff.1 (Option.mem_toList.1 hclause)
    rw [hid] at hown
    simpa [Clause.holds] using fun heq : d.id = id => hown (congrArg some heq)

/-- A name by which no flow is found is free. -/
theorem Shelf.isFree_of_findOne {name : String} {own : Option String}
    (h : f.findOne (Repository.nameFilter name own) = none) :
    f.IsFree name (own.bind ObjectId.ofText?) :=
  isFree_of_findOne_idIsNot h

/-- A query that leaves the saved flows alone, with what is then to be upheld. -/
theorem query_savedFlows {q : Query} {k : Except StoreError q.Answer → Program α}
    {Q : World × List Exchange → Outcome α → Prop} (hq : (Request.query q).SparesFlows)
    (hs : SavedFlows f made s)
    (hok : ∀ y store s', SavedFlows f made s' → s.1.database.store.answer q = .ok (y, store) →
      (k (.ok y)).Upholds chronicle s' Q)
    (herror : ∀ e s', SavedFlows f made s' → (k (.error e)).Upholds chronicle s' Q) :
    (Program.query q >>= k).Upholds chronicle s Q := by
  refine ⟨trivial, fun x s' hmoves => ?_⟩
  have hs' := (keeps_savedFlows s _ hq hs).2 x s' hmoves
  have hanswer := hs.raises.query q
  rw [show s.1.answer (.query q) = (x, s'.1) from hmoves.1] at hanswer
  obtain ⟨-, ⟨y, hy, rfl⟩ | ⟨⟨e, rfl⟩, -⟩⟩ := hanswer
  · exact hok y _ s' hs' hy
  · exact herror e s' hs'

/-- A search by name that finds nothing has found the name free. -/
theorem getFlowByName_upholds (name : String) (own : Option String) (hs : SavedFlows f made s) :
    (Repository.getFlowByName name own).Upholds chronicle s fun s o => SavedFlows f made s ∧
      (o = .done none → f.IsFree name (own.bind ObjectId.ofText?)) := by
  refine connect_savedFlows hs (fun s hs => ?_) fun s failure hs => ⟨hs, nofun⟩
  refine query_savedFlows trivial hs (fun y store s' hs' hy => ?_) fun e s' hs' => ?_
  · simp only [Store.answer, mapM_nameFilter] at hy
    cases hy
    refine (flowOf?_upholds _ _ hs').mono ?_
    rintro s'' o ⟨hs'', ⟨-, hnone⟩ | ⟨d, flow, -, ho⟩ | ⟨failure, ho⟩⟩
    · refine ⟨hs'', fun _ => ?_⟩
      rw [← hs.flows]
      exact Shelf.isFree_of_findOne hnone
    · refine ⟨hs'', fun ho' => ?_⟩
      rw [ho] at ho'
      cases ho'
    · refine ⟨hs'', fun ho' => ?_⟩
      rw [ho] at ho'
      cases ho'
  · refine (fail_upholds keeps_savedFlows_quiet _ e hs').mono ?_
    rintro s o ⟨hs, failure, rfl⟩
    exact ⟨hs, nofun⟩

/-- The saved flow with an id is found or not, or the operation fails. -/
theorem getFlow_upholds (id : String) (hs : SavedFlows f made s) :
    (Repository.getFlow id).Upholds chronicle s fun s o => SavedFlows f made s ∧
      ∀ flow, o = .done (some flow) → ∃ oid, ObjectId.ofText? id = some oid := by
  unfold Repository.getFlow
  cases hid : ObjectId.ofText? id with
  | none => exact ⟨hs, fun flow ho => by cases ho⟩
  | some oid =>
    refine Upholds.mono (Q := fun s _ => SavedFlows f made s) ?_ fun s o hs =>
      ⟨hs, fun flow _ => ⟨oid, rfl⟩⟩
    refine connect_savedFlows hs (fun s hs => ?_) fun s failure hs => hs
    refine query_savedFlows trivial hs (fun d store s' hs' _ => ?_) fun e s' hs' => ?_
    · exact (flowOf?_upholds _ d hs').mono fun s o h => h.1
    · exact (fail_upholds keeps_savedFlows_quiet _ e hs').mono fun s o h => h.1

/-- A flow is made under a free name. -/
theorem createFlow_upholds {flow : Flow} {name : String} (hs : SavedFlows f made s)
    (hfields : Fields.HoldsFlow (Value.keptFields flow.document) name)
    (hfree : f.IsFree name none) :
    (Repository.createFlow flow).Upholds chronicle s fun s _ => EditedFlows f made s := by
  refine connect_savedFlows hs (fun s hs => ?_) fun s failure hs => hs.edited
  obtain ⟨w, es⟩ := s
  refine World.query_chronicle hs.raises (fun y w' hraises hy => ?_) fun e w' hraises hstore => ?_
  · obtain ⟨-, rfl, hmade⟩ := hs
    obtain ⟨rfl, hstore⟩ := Store.answer_insert hy
    refine ⟨_, _, .made (Store.lastNumber_lt_freshNumber w.database.store .flows) hfields hfree,
      hraises, ?_, ?_⟩
    · show w'.database.store.flows = _
      rw [hstore]
      rfl
    · rw [madeFlows_concat, hmade]
      rfl
  · have hs' : SavedFlows f made
        (w', es ++ [⟨.query (.insert .flows flow.document), .error e⟩]) := by
      refine ⟨hraises, ?_, ?_⟩
      · show w'.database.store.flows = f
        rw [hstore]
        exact hs.flows
      · rw [madeFlows_concat, hs.made]
        exact List.append_nil _
    exact (fail_upholds keeps_savedFlows_quiet _ e hs').mono fun s o h => h.1.edited

/-- The program of an activity ends as it does, and its failures are followed by a report at
most. -/
theorem foreseen_upholds {σ : Type} {c : Setting σ} {s : σ} {p : Program α}
    {Q R : σ → Outcome α → Prop} {I : σ → Prop} (speaker : String) (activity : Activity)
    (h : p.Upholds c s Q) (hquiet : c.Keeps Request.IsQuiet I)
    (hdone : ∀ s a, Q s (.done a) → R s (.done a))
    (hfailed : ∀ s failure, Q s (.failed failure) → I s)
    (hafter : ∀ s failure, I s → R s (.failed failure))
    (hcancelled : ∀ s, Q s .cancelled → R s .cancelled) :
    (Editor.foreseen speaker activity p).Upholds c s R := by
  have hattempt : p.attempt.Upholds c s fun s o => (∃ a, o = .done (.ok a) ∧ R s (.done a)) ∨
      (∃ failure, o = .done (.error failure) ∧ I s) ∨ o = .cancelled ∧ R s .cancelled :=
    h.attempt (fun s a ha => Or.inl ⟨a, rfl, hdone s a ha⟩)
      (fun s failure hs => Or.inr (Or.inl ⟨failure, rfl, hfailed s failure hs⟩))
      fun s hs => Or.inr (Or.inr ⟨rfl, hcancelled s hs⟩)
  refine hattempt.bind ?_ ?_ ?_
  · rintro s x (⟨a, ho, hs⟩ | ⟨failure, ho, hs⟩ | ⟨ho, -⟩)
    · cases ho
      exact hs
    · cases ho
      show Upholds c (if failure.isOfService = true then _ else _) s R
      split
      · exact hafter s failure hs
      · exact (report_upholds hquiet _ hs).bind_unit fun s hs => hafter s _ hs
    · cases ho
  · rintro s failure (⟨a, ho, -⟩ | ⟨failure, ho, -⟩ | ⟨ho, -⟩) <;> cases ho
  · rintro s (⟨a, ho, -⟩ | ⟨failure, ho, -⟩ | ⟨-, hs⟩)
    · cases ho
    · cases ho
    · exact hs

/-- An activity that ends with a value or fails, in whatever words it then fails. -/
theorem foreseen_orFailed {σ : Type} {c : Setting σ} {s : σ} {p : Program α} {P : σ → α → Prop}
    {I : σ → Prop} (speaker : String) (activity : Activity)
    (h : p.Upholds c s fun s o => (∃ a, o = .done a ∧ P s a) ∨ (∃ f, o = .failed f) ∧ I s)
    (hquiet : c.Keeps Request.IsQuiet I) :
    (Editor.foreseen speaker activity p).Upholds c s fun s o =>
      (∃ a, o = .done a ∧ P s a) ∨ (∃ f, o = .failed f) ∧ I s := by
  refine foreseen_upholds speaker activity h hquiet (fun s a ho => ho) (fun s f ho => ?_)
    (fun s f hs => Or.inr ⟨⟨_, rfl⟩, hs⟩) fun s ho => ho
  rcases ho with ⟨a, ho, -⟩ | ⟨-, hs⟩
  · cases ho
  · exact hs

/-! ## Editing -/

theorem ne_empty_of_isEmpty {s : String} (h : s.isEmpty = false) : s ≠ "" := by
  rintro rfl
  cases h

/-- A name that nobody has is told as free. -/
theorem requireFreeName_upholds (name : String) (own : Option String) (hs : SavedFlows f made s) :
    (Editor.requireFreeName name own).Upholds chronicle s fun s o => SavedFlows f made s ∧
      (o = .done () → f.IsFree name (own.bind ObjectId.ofText?)) := by
  refine (getFlowByName_upholds name own hs).bind ?_ ?_ ?_
  · rintro s (_ | flow) ⟨hs, hfree⟩
    · exact ⟨hs, fun _ => hfree rfl⟩
    · exact ⟨hs, nofun⟩
  · exact fun s failure hs => ⟨hs.1, nofun⟩
  · exact fun s hs => ⟨hs.1, nofun⟩

/-- An activity that ends in any way after at most one edit. -/
theorem foreseen_editedFlows {p : Program α} (speaker : String) (activity : Activity)
    (h : p.Upholds chronicle s fun s _ => EditedFlows f made s) :
    (Editor.foreseen speaker activity p).Upholds chronicle s fun s _ => EditedFlows f made s :=
  foreseen_upholds speaker activity h keeps_editedFlows_quiet (fun _ _ hs => hs) (fun _ _ hs => hs)
    (fun _ _ hs => hs) fun _ hs => hs

/-- A draft becomes a flow under a trimmed and free name, or it comes to nothing. -/
theorem create_edits (draft : Draft) : (Editor.create draft).EditsOnce := by
  constructor
  intro f made s hs
  unfold Editor.create
  have htrimmed := trim_trim (draft.name.getD "")
  generalize trim (draft.name.getD "") = name at htrimmed ⊢
  dsimp only
  split
  · exact foreseen_editedFlows _ _ hs.edited
  rename_i hname
  split
  · exact foreseen_editedFlows _ _ hs.edited
  rename_i hnodes
  refine foreseen_editedFlows _ _ ?_
  refine (requireFreeName_upholds _ none hs).bind ?_ (fun s failure h => h.1.edited)
    fun s h => h.1.edited
  rintro s ⟨⟩ ⟨hs, hfree⟩
  have hclock := keeps_savedFlows_quiet s .clock trivial hs
  refine ⟨trivial, fun now s' hmoves => ?_⟩
  have hfields := Fields.HoldsFlow.of_document name htrimmed
    (ne_empty_of_isEmpty (by simpa using hname)) (by simpa using hnodes) draft.edges now
  refine (createFlow_upholds (hclock.2 now s' hmoves) hfields (hfree rfl)).bind ?_
    (fun s failure h => h) fun s h => h
  exact fun s flow hs => (report_upholds keeps_editedFlows_quiet _ hs).bind_unit fun s hs => hs

/-- Of an id that is asked for and found, the written form is one of an id. -/
theorem existing_upholds (id : String) (hs : SavedFlows f made s) :
    (Editor.existing id).Upholds chronicle s fun s o => SavedFlows f made s ∧
      ∀ flow, o = .done flow → ∃ oid, ObjectId.ofText? id = some oid := by
  refine (getFlow_upholds id hs).bind ?_ ?_ ?_
  · rintro s (_ | flow) ⟨hs, hid⟩
    · exact ⟨hs, nofun⟩
    · exact ⟨hs, fun _ _ => hid flow rfl⟩
  · exact fun s failure hs => ⟨hs.1, nofun⟩
  · exact fun s hs => ⟨hs.1, nofun⟩

/-- A new name is trimmed, not empty, and free but for the flow itself. -/
theorem nameChange_upholds (id : String) (given : Option String) (hs : SavedFlows f made s) :
    (Editor.nameChange id given).Upholds chronicle s fun s o => SavedFlows f made s ∧
      ∀ fields, o = .done fields → ∃ name : Option String,
        fields = (name.map fun t => ("name", Value.text t)).toList ∧
          ∀ t ∈ name, trim t = t ∧ t ≠ "" ∧ f.IsFree t (ObjectId.ofText? id) := by
  cases given with
  | none =>
    refine ⟨hs, fun fields ho => ?_⟩
    cases ho
    exact ⟨none, rfl, nofun⟩
  | some given =>
    dsimp only [Editor.nameChange]
    have htrimmed := trim_trim given
    generalize trim given = name at htrimmed ⊢
    split
    · exact ⟨hs, nofun⟩
    rename_i hname
    refine (requireFreeName_upholds name (some id) hs).bind ?_ ?_ ?_
    · rintro s ⟨⟩ ⟨hs, hfree⟩
      refine ⟨hs, fun fields ho => ?_⟩
      cases ho
      refine ⟨some name, rfl, fun t ht => ?_⟩
      cases ht
      exact ⟨htrimmed, ne_empty_of_isEmpty (by simpa using hname), hfree rfl⟩
    · exact fun s failure hs => ⟨hs.1, nofun⟩
    · exact fun s hs => ⟨hs.1, nofun⟩

/-- New nodes are at least one. -/
theorem nodesChange_upholds (given : Option (List Node)) (hs : SavedFlows f made s) :
    (Editor.nodesChange given).Upholds chronicle s fun s o => SavedFlows f made s ∧
      ∀ fields, o = .done fields → ∃ nodes : Option (List Node),
        fields = (nodes.map fun ns => ("nodes", writeNodes ns)).toList ∧ ∀ ns ∈ nodes, ns ≠ [] := by
  match given with
  | none =>
    refine ⟨hs, fun fields ho => ?_⟩
    cases ho
    exact ⟨none, rfl, nofun⟩
  | some [] => exact ⟨hs, nofun⟩
  | some (n :: ns) =>
    refine ⟨hs, fun fields ho => ?_⟩
    cases ho
    refine ⟨some (n :: ns), rfl, fun ns' hns => ?_⟩
    cases hns
    exact List.cons_ne_nil _ _

/-- The changes of a flow are written, or they come to nothing. -/
theorem updateFlow_upholds {id : String} {oid : ObjectId} (hid : ObjectId.ofText? id = some oid)
    {name : Option String} (hname : ∀ t ∈ name, trim t = t ∧ t ≠ "" ∧ f.IsFree t (some oid))
    {nodes : Option (List Node)} (hnodes : ∀ ns ∈ nodes, ns ≠ []) (edges : Option (List Edge))
    (hs : SavedFlows f made s) :
    (Repository.updateFlow id (revisedFields name nodes edges)).Upholds chronicle s fun s _ =>
      EditedFlows f made s := by
  unfold Repository.updateFlow
  rw [hid]
  refine connect_savedFlows hs (fun s hs => ?_) fun s failure hs => hs.edited
  have hclock := keeps_savedFlows_quiet s .clock trivial hs
  refine ⟨trivial, fun now s' hmoves => ?_⟩
  have hs' := hclock.2 now s' hmoves
  obtain ⟨w, es⟩ := s'
  refine World.query_chronicle hs'.raises (fun d w' hraises hd => ?_) fun e w' hraises hstore => ?_
  · obtain ⟨-, rfl, hmade⟩ := hs'
    refine (flowOf?_upholds _ d ⟨hraises, ?_, ?_⟩).mono fun s o h =>
      ⟨_, _, .changed oid edges now hname hnodes, h.1⟩
    · show w'.database.store.flows = _
      rw [Store.answer_change hd]
      rfl
    · rw [madeFlows_concat, hmade]
      rfl
  · refine (fail_upholds keeps_savedFlows_quiet _ e ⟨hraises, ?_, ?_⟩).mono fun s o h => h.1.edited
    · show w'.database.store.flows = f
      rw [hstore]
      exact hs'.flows
    · rw [madeFlows_concat, hs'.made]
      exact List.append_nil _

/-- A revision changes one flow, or it comes to nothing. -/
theorem update_edits (id : String) (revision : Revision) :
    (Editor.update id revision).EditsOnce := by
  constructor
  intro f made s hs
  rw [Editor.update_eq]
  refine foreseen_editedFlows _ _ ?_
  refine (existing_upholds id hs).bind ?_ (fun s failure h => h.1.edited) fun s h => h.1.edited
  rintro s flow ⟨hs, hexists⟩
  obtain ⟨oid, hid⟩ := hexists flow rfl
  refine (nameChange_upholds id revision.name hs).bind ?_ (fun s failure h => h.1.edited)
    fun s h => h.1.edited
  rintro s fields ⟨hs, hfields⟩
  obtain ⟨name, rfl, hname⟩ := hfields fields rfl
  refine (nodesChange_upholds revision.nodes hs).bind ?_ (fun s failure h => h.1.edited)
    fun s h => h.1.edited
  rintro s fields ⟨hs, hfields⟩
  obtain ⟨nodes, rfl, hnodes⟩ := hfields fields rfl
  rw [hid] at hname
  show (Editor.writeChanges id flow (revisedFields name nodes revision.edges)).Upholds chronicle s _
  have hupdate := updateFlow_upholds hid hname hnodes revision.edges hs
  generalize revisedFields name nodes revision.edges = changes at hupdate ⊢
  cases changes with
  | nil => exact hs.edited
  | cons change rest =>
    refine hupdate.bind ?_ (fun s failure h => h) fun s h => h
    rintro s (_ | flow) hs
    · exact hs
    · exact (report_upholds keeps_editedFlows_quiet _ hs).bind_unit fun s hs => hs

/-- To delete what is not there changes nothing. -/
theorem Shelf.delete_of_not_uses {id : ObjectId} (h : f.uses id = false) : f.delete id = f := by
  obtain ⟨documents, lastNumber⟩ := f
  have hall : documents.filter (fun d => d.id != id) = documents :=
    List.filter_eq_self.2 fun d hd => by
      have hne := List.any_eq_false.1 h d hd
      simpa [bne] using hne
  rw [delete, hall]

/-- A flow is told as deleted exactly if it was. -/
theorem deleteFlow_upholds (id : String) (hs : SavedFlows f made s) :
    (Repository.deleteFlow id).Upholds chronicle s fun s o =>
      (SavedFlows f made s ∧ o ≠ .done true) ∨
        ∃ oid, ObjectId.ofText? id = some oid ∧ o = .done true ∧
          SavedFlows (f.delete oid) made s := by
  unfold Repository.deleteFlow
  cases hid : ObjectId.ofText? id with
  | none => exact Or.inl ⟨hs, nofun⟩
  | some oid =>
    refine connect_savedFlows hs (fun s hs => ?_) fun s failure hs => Or.inl ⟨hs, nofun⟩
    obtain ⟨w, es⟩ := s
    refine World.query_chronicle hs.raises (fun y w' hraises hy => ?_) fun e w' hraises hstore => ?_
    · obtain ⟨-, rfl, hmade⟩ := hs
      have huses : w.database.store.flows.uses oid = y := congrArg Prod.fst (Except.ok.inj hy)
      have hstore : _ = w'.database.store := congrArg Prod.snd (Except.ok.inj hy)
      have hafter : SavedFlows (w.database.store.flows.delete oid) made
          (w', es ++ [⟨.query (.delete .flows oid), .ok y⟩]) := by
        refine ⟨hraises, ?_, ?_⟩
        · show w'.database.store.flows = _
          rw [← hstore]
          rfl
        · rw [madeFlows_concat, hmade]
          exact List.append_nil _
      cases y with
      | true => exact Or.inr ⟨oid, rfl, rfl, hafter⟩
      | false =>
        rw [Shelf.delete_of_not_uses huses] at hafter
        exact Or.inl ⟨hafter, nofun⟩
    · refine (report_upholds (keeps_savedFlows_quiet) _
        ⟨hraises, ?_, ?_⟩).bind_unit fun s hs => Or.inl ⟨hs, nofun⟩
      · show w'.database.store.flows = f
        rw [hstore]
        exact hs.flows
      · rw [madeFlows_concat, hs.made]
        exact List.append_nil _

/-- A flow is deleted and the request succeeds, or it fails and nothing is changed. -/
theorem delete_upholds (id : String) (hs : SavedFlows f made s) :
    (Editor.delete id).Upholds chronicle s fun s o =>
      (SavedFlows f made s ∧ o ≠ .done ()) ∨
        ∃ oid, ObjectId.ofText? id = some oid ∧ o = .done () ∧
          SavedFlows (f.delete oid) made s := by
  unfold Editor.delete
  refine foreseen_upholds (Q := fun s o => (SavedFlows f made s ∧ o ≠ .done ()) ∨
      ∃ oid, ObjectId.ofText? id = some oid ∧ o = .done () ∧ SavedFlows (f.delete oid) made s)
    _ _ ?_ keeps_savedFlows_quiet (fun s a h => h) ?_ (fun s failure hs => Or.inl ⟨hs, nofun⟩)
    fun s h => h
  · refine (existing_upholds id hs).bind ?_ (fun s failure h => Or.inl ⟨h.1, nofun⟩)
      fun s h => Or.inl ⟨h.1, nofun⟩
    rintro s flow ⟨hs, -⟩
    refine (deleteFlow_upholds id hs).bind ?_ ?_ ?_
    · rintro s deleted (⟨hs, ho⟩ | ⟨oid, hid, ho, hs⟩)
      · cases deleted with
        | false => exact Or.inl ⟨hs, nofun⟩
        | true => exact absurd rfl ho
      · cases ho
        exact (report_upholds keeps_savedFlows_quiet _ hs).mono fun s o h =>
          Or.inr ⟨oid, hid, h.1, h.2⟩
    · rintro s failure (⟨hs, -⟩ | ⟨oid, -, ho, -⟩)
      · exact Or.inl ⟨hs, nofun⟩
      · cases ho
    · rintro s (⟨hs, -⟩ | ⟨oid, -, ho, -⟩)
      · exact Or.inl ⟨hs, nofun⟩
      · cases ho
  · rintro s failure (⟨hs, -⟩ | ⟨oid, -, ho, -⟩)
    · exact hs
    · cases ho

end Automation
