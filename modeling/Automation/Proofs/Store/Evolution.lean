import Automation.Proofs.Store.Naming
import Automation.Proofs.Store.Records

/-!
# A store that goes on

Between two queries of a run others may go on with the store. As long as nobody sets again when a
test run began, the record that was made under an id says what it said when it was made, and no
other record gets that id (`Begins`).
-/

set_option autoImplicit false

namespace Automation

/-! ## Fields that are kept -/

theorem Fields.get?_keptFields (fields : Fields) (name : String) :
    Fields.get? (Value.keptFields fields) name = (fields.get? name).map Value.kept := by
  induction fields with
  | nil => rfl
  | cons field rest ih =>
    rw [Value.keptFields, get?_cons, get?_cons, ih]
    split <;> rfl

theorem Fields.get?_keptFields_of_none {fields : Fields} {name : String}
    (h : fields.get? name = none) : Fields.get? (Value.keptFields fields) name = none := by
  rw [get?_keptFields, h]
  rfl

theorem Fields.without_keptFields (names : List String) (fields : Fields) :
    Fields.without names (Value.keptFields fields) =
      Value.keptFields (fields.without names) := by
  unfold without
  induction fields with
  | nil => rfl
  | cons field rest ih =>
    rw [Value.keptFields, List.filter_cons, List.filter_cons, ih]
    split
    · rw [Value.keptFields]
    · rfl

theorem Fields.get?_eq_none_iff {fields : Fields} {name : String} :
    fields.get? name = none ↔ ∀ field ∈ fields, field.1 ≠ name := by
  simp [get?, List.find?_eq_none]

/-- A change leaves alone what it does not name. -/
theorem Fields.get?_merge_of_none {fields changes : Fields} {name : String}
    (h : changes.get? name = none) : (fields.merge changes).get? name = fields.get? name := by
  have hreverse : Fields.get? changes.reverse name = none := by
    rw [get?_eq_none_iff] at h ⊢
    exact fun field hfield => h field (List.mem_reverse.1 hfield)
  rw [get?_merge, hreverse, Option.none_or]

/-- A query that does not set when a test run began. -/
def Query.SparesStart : Query → Prop
  | .change .testRuns _ changes | .update .testRuns _ changes => changes.get? "started_at" = none
  | _ => True

/-- The fields that a query sets. -/
def Query.sets? : Query → Option Fields
  | .insert _ fields => some fields
  | .change _ _ changes | .update _ _ changes => some changes
  | _ => none

/-- A collection after a query, where a new document would have a fresh number: the same, or with a
new document, with a changed one, or without one. -/
inductive Shelf.Becomes (s : Shelf) (c : Collection) (fresh : Nat) (q : Query) (s' : Shelf) : Prop
  | same (hs : s' = s)
  | inserted (fields : Fields)
      (hs : s' = ⟨s.documents ++ [⟨c.numbered fresh, Value.keptFields fields⟩], fresh⟩)
      (hq : q = .insert c fields)
  | changed (oid : ObjectId) (changes : Fields)
      (hs : s' = s.change oid (Value.keptFields changes))
      (hq : q = .update c oid changes ∨ q = .change c oid changes)
  | deleted (oid : ObjectId) (hs : s' = s.delete oid) (hq : q = .delete c oid)

namespace Store

variable {s s' : Store} {id : ObjectId} {startedAt : Moment}

/-- How a store answers, if not always well: a query takes effect, or it comes to nothing. -/
def Gives (s : Store) (q : Query) (x : Except StoreError q.Answer) (s' : Store) : Prop :=
  (∃ y, s.answer q = .ok (y, s') ∧ x = .ok y) ∨
    s' = s ∧ ((∃ e, x = .error e) ∨ x = .ok q.nothing)

/-- Others go on with the store, by queries that they may make. -/
inductive Evolves (may : Store → Query → Prop) : Store → Store → Prop
  | refl (s : Store) : Evolves may s s
  | step {s s' s'' : Store} {q : Query} {y : q.Answer} (hq : may s q)
      (hy : s.answer q = .ok (y, s')) (hrest : Evolves may s' s'') : Evolves may s s''

/-- What each of these queries keeps stays. -/
theorem Evolves.keeps {may : Store → Query → Prop} {I : Store → Prop}
    (h : ∀ {s s' : Store} {q : Query} {y : q.Answer}, may s q → s.answer q = .ok (y, s') →
      I s → I s') (hs : s.Evolves may s') (hI : I s) : I s' := by
  induction hs with
  | refl s => exact hI
  | step hq hy hrest ih => exact ih (h hq hy hI)

theorem Evolves.trans {may : Store → Query → Prop} (hs : s.Evolves may s') {s'' : Store}
    (hs' : s'.Evolves may s'') : s.Evolves may s'' := by
  induction hs with
  | refl s => exact hs'
  | step hq hy hrest ih => exact .step hq hy (ih hs')

/-- What documents of an id say of when their run began, where the id is not given out again. -/
structure Begins (s : Store) (id : ObjectId) (startedAt : Moment) : Prop where
  dated : ∀ d ∈ s.testRuns.documents, d.id = id →
    d.fields.get? "started_at" = some (.date startedAt.kept)
  given : ∃ n ≤ s.testRuns.lastNumber, id = Collection.testRuns.numbered n

/-- A query that sets fields is answered exactly if they can be kept. -/
theorem answer_of_sets {q : Query} {fields : Fields} (hq : q.sets? = some fields) :
    match s.answer q with
    | .ok _ => Value.storedFields? fields = .ok (Value.keptFields fields)
    | .error e => Value.storedFields? fields = .error e := by
  cases q with
  | insert c fields' =>
    cases hq
    simp only [answer]
    cases hstored : Value.storedFields? fields with
    | error e => rfl
    | ok kept => exact congrArg Except.ok (Value.storedFields?_eq_kept fields hstored)
  | change c oid changes =>
    cases hq
    simp only [answer]
    cases hstored : Value.storedFields? fields with
    | error e => rfl
    | ok kept => exact congrArg Except.ok (Value.storedFields?_eq_kept fields hstored)
  | update c oid changes =>
    cases hq
    simp only [answer]
    cases hstored : Value.storedFields? fields with
    | error e => rfl
    | ok kept => exact congrArg Except.ok (Value.storedFields?_eq_kept fields hstored)
  | _ => cases hq

/-- What an answered query sets is kept. -/
theorem stored_of_answer {q : Query} {fields : Fields} {x : q.Answer × Store}
    (hq : q.sets? = some fields) (h : s.answer q = .ok x) :
    Value.storedFields? fields = .ok (Value.keptFields fields) := by
  have hsets := answer_of_sets (s := s) hq
  rwa [h] at hsets

/-- A new document is the last of its collection. -/
theorem answer_insert {c : Collection} {fields : Fields} {y : Option ObjectId}
    (h : s.answer (.insert c fields) = .ok (y, s')) :
    y = some (c.numbered (s.freshNumber c)) ∧ s' = s.withShelf
      ⟨(s.shelf c).documents ++ [⟨c.numbered (s.freshNumber c), Value.keptFields fields⟩],
        s.freshNumber c⟩ c := by
  have hkept := stored_of_answer rfl h
  simp only [answer, hkept] at h
  cases h
  exact ⟨rfl, rfl⟩

theorem answer_change {c : Collection} {oid : ObjectId} {changes : Fields} {y : Option Document}
    (h : s.answer (.change c oid changes) = .ok (y, s')) :
    s' = s.withShelf ((s.shelf c).change oid (Value.keptFields changes)) c := by
  have hkept := stored_of_answer rfl h
  simp only [answer, hkept] at h
  cases h
  rfl

/-- The answer to a change is the document that the search by id found before, changed. -/
theorem answer_changed {c : Collection} {oid : ObjectId} {changes : Fields} {y : Option Document}
    (h : s.answer (.change c oid changes) = .ok (y, s')) :
    y = ((s.shelf c).findOne [.idIs oid]).map fun d => d.updated (Value.keptFields changes) := by
  have hkept := stored_of_answer rfl h
  simp only [answer, hkept] at h
  cases h
  exact Shelf.findOne_change _ _ _

theorem answer_update {c : Collection} {oid : ObjectId} {changes : Fields} {y : Bool}
    (h : s.answer (.update c oid changes) = .ok (y, s')) :
    s' = s.withShelf ((s.shelf c).change oid (Value.keptFields changes)) c := by
  have hkept := stored_of_answer rfl h
  simp only [answer, hkept] at h
  cases h
  rfl

/-- What a query can do to a collection. -/
theorem answer_shelf (c : Collection) {q : Query} {y : q.Answer} (h : s.answer q = .ok (y, s')) :
    (s.shelf c).Becomes c (s.freshNumber c) q (s'.shelf c) := by
  have hother : ∀ {c' : Collection} (shelf : Shelf), c' ≠ c →
      (s.withShelf shelf c').shelf c = s.shelf c := by
    intro c' shelf hne
    cases c' <;> cases c <;> first | rfl | exact absurd rfl hne
  have hown : ∀ shelf : Shelf, (s.withShelf shelf c).shelf c = shelf := by
    intro shelf
    cases c <;> rfl
  cases q with
  | insert c' fields =>
    obtain ⟨-, rfl⟩ := answer_insert h
    by_cases hc : c' = c
    · subst hc
      exact .inserted fields (hown _) rfl
    · exact .same (hother _ hc)
  | findOne c' filter =>
    simp only [answer] at h
    split at h <;> cases h
    exact .same rfl
  | find c' filter order =>
    simp only [answer] at h
    split at h <;> cases h
    exact .same rfl
  | change c' oid changes =>
    obtain rfl := answer_change h
    by_cases hc : c' = c
    · subst hc
      exact .changed oid changes (hown _) (Or.inr rfl)
    · exact .same (hother _ hc)
  | update c' oid changes =>
    obtain rfl := answer_update h
    by_cases hc : c' = c
    · subst hc
      exact .changed oid changes (hown _) (Or.inl rfl)
    · exact .same (hother _ hc)
  | delete c' oid =>
    cases h
    by_cases hc : c' = c
    · subst hc
      exact .deleted oid (hown _) rfl
    · exact .same (hother _ hc)

theorem answer_testRuns {q : Query} {y : q.Answer} (h : s.answer q = .ok (y, s')) :
    s.testRuns.Becomes .testRuns (s.freshNumber .testRuns) q s'.testRuns :=
  answer_shelf .testRuns h

theorem answer_executionLogs {q : Query} {y : q.Answer} (h : s.answer q = .ok (y, s')) :
    s.executionLogs.Becomes .executionLogs (s.freshNumber .executionLogs) q s'.executionLogs :=
  answer_shelf .executionLogs h

/-- A query gives no number back. -/
theorem lastNumber_le (c : Collection) {q : Query} {y : q.Answer}
    (h : s.answer q = .ok (y, s')) : (s.shelf c).lastNumber ≤ (s'.shelf c).lastNumber := by
  cases answer_shelf c h with
  | same heq => rw [heq]
  | inserted fields heq hinsert =>
    rw [heq]
    exact Nat.le_of_lt (s.lastNumber_lt_freshNumber c)
  | changed oid changes heq hset =>
    rw [heq]
    exact Nat.le_refl _
  | deleted oid heq hdelete =>
    rw [heq]
    exact Nat.le_refl _

/-- The record that a query makes says when its run began. -/
theorem begins_of_insert {fields : Fields}
    (h : s.answer (.insert .testRuns fields) = .ok (some id, s'))
    (hstart : fields.get? "started_at" = some (.date startedAt)) : s'.Begins id startedAt := by
  obtain ⟨hid, rfl⟩ := answer_insert h
  cases hid
  refine ⟨?_, s.freshNumber .testRuns, Nat.le_refl _, rfl⟩
  intro d hd hid
  rcases List.mem_append.1 hd with hd | hd
  · exact absurd hid (id_ne_fresh hd)
  · rw [List.mem_singleton.1 hd, Fields.get?_keptFields, hstart]
    simp

/-- A query that spares the beginnings leaves a record as it began. -/
theorem Begins.answer {q : Query} {y : q.Answer} (h : s.Begins id startedAt) (hq : q.SparesStart)
    (hy : s.answer q = .ok (y, s')) : s'.Begins id startedAt := by
  obtain ⟨n, hn, hid⟩ := h.given
  cases answer_testRuns hy with
  | same heq => exact ⟨by rw [heq]; exact h.dated, n, by rw [heq]; exact hn, hid⟩
  | inserted fields heq hinsert =>
    have hlt := s.lastNumber_lt_freshNumber .testRuns
    refine ⟨?_, n, by rw [heq]; exact Nat.le_of_lt (Nat.lt_of_le_of_lt hn hlt), hid⟩
    intro d hd hd'
    rw [heq] at hd
    rcases List.mem_append.1 hd with hd | hd
    · exact h.dated d hd hd'
    · -- the new id comes after the one that was given before
      rw [List.mem_singleton.1 hd, hid] at hd'
      have hsame := Collection.numbered_injective hd'
      have hlast : s.testRuns.lastNumber < s.freshNumber .testRuns := hlt
      omega
  | changed oid changes heq hset =>
    refine ⟨?_, n, by rw [heq]; exact hn, hid⟩
    intro d hd hd'
    rw [heq] at hd
    have hspared : changes.get? "started_at" = none := by
      rcases hset with rfl | rfl <;> exact hq
    obtain ⟨d', hd'', hsame, ⟨-, rfl⟩ | ⟨-, rfl⟩⟩ := Shelf.mem_change hd
    · rw [Document.updated, Fields.get?_merge_of_none (Fields.get?_keptFields_of_none hspared)]
      exact h.dated d' hd'' (hsame.symm.trans hd')
    · exact h.dated d hd'' hd'
  | deleted oid heq hdelete =>
    refine ⟨?_, n, by rw [heq]; exact hn, hid⟩
    intro d hd hd'
    rw [heq] at hd
    exact h.dated d (List.mem_filter.1 hd).1 hd'

theorem Begins.evolves (h : s.Begins id startedAt)
    (hs : s.Evolves (fun _ => Query.SparesStart) s') : s'.Begins id startedAt :=
  hs.keeps (fun hq hy h => Begins.answer h hq hy) h

theorem Begins.gives {q : Query} {x : Except StoreError q.Answer} (h : s.Begins id startedAt)
    (hq : q.SparesStart) (hx : s.Gives q x s') : s'.Begins id startedAt := by
  rcases hx with ⟨y, hy, -⟩ | ⟨rfl, -⟩
  · exact h.answer hq hy
  · exact h

end Store

end Automation
