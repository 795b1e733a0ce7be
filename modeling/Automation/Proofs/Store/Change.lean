import Automation.Store.Basic
import Mathlib.Data.List.Basic

/-!
# Changes of documents

What a field of a document is after a change, and which document a search by id finds after one. A
change whose dates lie in the calendar and whose integers are words is kept as it is, but for the
dates, of which a document keeps the milliseconds.
-/

set_option autoImplicit false

namespace Automation

/-! ## Fields -/

theorem Fields.get?_nil (name : String) : Fields.get? [] name = none := rfl

theorem Fields.get?_cons (field : String × Value) (rest : Fields) (name : String) :
    Fields.get? (field :: rest) name =
      if field.1 = name then some field.2 else Fields.get? rest name := by
  unfold get?
  by_cases hname : field.1 = name
  · simp [hname]
  · simp [hname]

theorem Fields.get?_insert (fields : Fields) (name other : String) (v : Value) :
    (fields.insert name v).get? other = if name = other then some v else fields.get? other := by
  induction fields with
  | nil => rw [insert, get?_cons]
  | cons field rest ih =>
    unfold insert
    by_cases hname : field.1 = name
    · rw [if_pos hname, get?_cons, get?_cons]
      by_cases hother : name = other
      · simp [hother]
      · simp [hname, hother]
    · rw [if_neg hname, get?_cons, get?_cons, ih]
      by_cases hother : field.1 = other
      · have hne : name ≠ other := fun h => hname (hother.trans h.symm)
        simp [hother, hne]
      · simp [hother]

/-- A change sets the last value that it has for a field, and leaves alone what it does not name. -/
theorem Fields.get?_merge (fields changes : Fields) (name : String) :
    (fields.merge changes).get? name =
      ((Fields.get? changes.reverse name).or (fields.get? name)) := by
  unfold merge
  induction changes generalizing fields with
  | nil => rfl
  | cons change rest ih =>
    rw [List.foldl_cons, ih, get?_insert, List.reverse_cons]
    -- the first change stands last in the reversed list, so it yields to every later one
    have happend : ∀ before : Fields, Fields.get? (before ++ [change]) name =
        (before.get? name).or (if change.1 = name then some change.2 else none) := by
      intro before
      induction before with
      | nil => rw [List.nil_append, get?_cons, get?_nil, Option.none_or]
      | cons field before ih =>
        rw [List.cons_append, get?_cons, get?_cons, ih]
        split <;> simp
    rw [happend, Option.or_assoc]
    congr 1
    split <;> simp

/-- To set a field that is not passed over is the same before and after the others are. -/
theorem Fields.without_insert {names : List String} {name : String} (h : name ∉ names) (v : Value)
    (fields : Fields) :
    (fields.insert name v).without names = (fields.without names).insert name v := by
  have hkept : ∀ w, (!names.contains (name, (w : Value)).1) = true := by simpa using h
  unfold without
  induction fields with
  | nil => rw [insert, List.filter_cons, if_pos (hkept v)]; rfl
  | cons field rest ih =>
    rw [insert]
    split
    · rename_i hname
      have hfield : (!names.contains field.1) = true := by
        rw [hname]
        exact hkept v
      rw [List.filter_cons, if_pos (hkept v), List.filter_cons, if_pos hfield, insert, if_pos hname]
    · rename_i hname
      rw [List.filter_cons, List.filter_cons, ih]
      split
      · rw [insert, if_neg hname]
      · rfl

/-- To change fields that are not passed over is the same before and after the others are. -/
theorem Fields.without_merge {names : List String} {changes : Fields}
    (h : ∀ change ∈ changes, change.1 ∉ names) (fields : Fields) :
    (fields.merge changes).without names = (fields.without names).merge changes := by
  unfold merge
  induction changes generalizing fields with
  | nil => rfl
  | cons change rest ih =>
    rw [List.foldl_cons, List.foldl_cons, ih fun change hchange =>
      h change (List.mem_cons_of_mem _ hchange), without_insert (h change List.mem_cons_self)]

/-! ## Documents -/

/-- After a change each document is the changed one or one from before. -/
theorem Shelf.mem_change {s : Shelf} {id : ObjectId} {changes : Fields} {d' : Document}
    (h : d' ∈ (s.change id changes).documents) : ∃ d ∈ s.documents, d'.id = d.id ∧
      ((d.id = id ∧ d' = d.updated changes) ∨ d.id ≠ id ∧ d' = d) := by
  obtain ⟨d, hd, rfl⟩ := List.mem_map.1 h
  by_cases hid : d.id = id
  · rw [if_pos hid]
    exact ⟨d, hd, rfl, Or.inl ⟨hid, rfl⟩⟩
  · rw [if_neg hid]
    exact ⟨d, hd, rfl, Or.inr ⟨hid, rfl⟩⟩

/-- A change does not touch the other documents. -/
theorem Shelf.mem_change_of_ne {s : Shelf} {id : ObjectId} {changes : Fields} {d : Document}
    (hd : d ∈ s.documents) (hid : d.id ≠ id) : d ∈ (s.change id changes).documents :=
  List.mem_map.2 ⟨d, hd, if_neg hid⟩

theorem Shelf.map_id_change (s : Shelf) (id : ObjectId) (changes : Fields) :
    (s.change id changes).documents.map Document.id = s.documents.map Document.id := by
  rw [Shelf.change, List.map_map]
  refine List.map_congr_left fun d _ => ?_
  show (if d.id = id then _ else d).id = d.id
  split <;> rfl

/-- Of the other documents a change keeps those that were there. -/
theorem Shelf.mem_change_iff_of_ne {s : Shelf} {id : ObjectId} {changes : Fields} {d : Document}
    (hid : d.id ≠ id) : d ∈ (s.change id changes).documents ↔ d ∈ s.documents := by
  refine ⟨fun hd => ?_, fun hd => mem_change_of_ne hd hid⟩
  obtain ⟨d', hd', hsame, ⟨hid', -⟩ | ⟨-, rfl⟩⟩ := mem_change hd
  · exact absurd (hsame.trans hid') hid
  · exact hd'

/-- A search by id finds after a change what it found before, changed if the change is one of that
document. -/
theorem Shelf.findOne_change_eq (s : Shelf) (id oid : ObjectId) (changes : Fields) :
    (s.change oid changes).findOne [.idIs id] =
      (s.findOne [.idIs id]).map fun d => if d.id = oid then d.updated changes else d := by
  rw [findOne, findOne, change, List.find?_map]
  congr 2
  -- a change leaves the ids as they are, so the same document answers the search
  funext d
  by_cases hid : d.id = oid <;> simp [Clause.holds, Document.updated, hid]

namespace Shelf

variable {s : Shelf} {id oid : ObjectId} {d : Document}

/-- A search by id does not see a new document with another id. -/
theorem findOne_concat (hd : s.findOne [.idIs id] = some d) (new : Document) (n : Nat) :
    (⟨s.documents ++ [new], n⟩ : Shelf).findOne [.idIs id] = some d := by
  unfold findOne at hd ⊢
  rw [List.find?_append, hd, Option.some_or]

/-- A search by an id that was not in use finds the new document. -/
theorem findOne_concat_self (hunused : s.uses d.id = false) (n : Nat) :
    (⟨s.documents ++ [d], n⟩ : Shelf).findOne [.idIs d.id] = some d := by
  have hnone : s.findOne [.idIs d.id] = none := by
    unfold findOne
    refine List.find?_eq_none.2 fun d' hd' => ?_
    have hne := List.any_eq_false.1 hunused d' hd'
    simpa [Clause.holds] using hne
  unfold findOne at hnone ⊢
  rw [List.find?_append, hnone]
  simp [Clause.holds]

theorem id_of_findOne (hd : s.findOne [.idIs id] = some d) : d.id = id := by
  simpa [Clause.holds] using List.find?_some hd

/-- A search by id finds the changed document where it found the document before. -/
theorem findOne_change (s : Shelf) (id : ObjectId) (changes : Fields) :
    (s.change id changes).findOne [.idIs id] =
      (s.findOne [.idIs id]).map fun d => d.updated changes := by
  rw [findOne_change_eq]
  cases hd : s.findOne [.idIs id] with
  | none => rfl
  | some d => rw [Option.map_some, Option.map_some, if_pos (id_of_findOne hd)]

/-- A search by id does not see a change of another document. -/
theorem findOne_change_of_ne (s : Shelf) (h : oid ≠ id) (changes : Fields) :
    (s.change oid changes).findOne [.idIs id] = s.findOne [.idIs id] := by
  rw [findOne_change_eq]
  cases hd : s.findOne [.idIs id] with
  | none => rfl
  | some d =>
    have hother : d.id ≠ oid := fun heq => h (heq.symm.trans (id_of_findOne hd))
    rw [Option.map_some, if_neg hother]

theorem uses_of_findOne (hd : s.findOne [.idIs id] = some d) : s.uses id = true := by
  refine List.any_eq_true.2 ⟨d, List.mem_of_find?_eq_some hd, ?_⟩
  simpa using id_of_findOne hd

end Shelf

theorem Clause.holds_textIs_iff {d : Document} {field s : String} :
    (textIs field s).holds d = true ↔ d.fields.get? field = some (.text s) := by
  simp only [holds]
  cases d.fields.get? field with
  | none => simp
  | some v => cases v <;> simp

/-! ## Kept values -/

/-- A moment within the calendar is kept. -/
theorem stored?_ofInstant {t : Int} (h : Moment.inRange t = true) :
    (Moment.ofInstant t).stored? = some (.ofInstant (Moment.cutToMillisecond t)) := by
  have hinstant : (Moment.ofInstant t).instant = t := by simp [Moment.instant, Moment.ofInstant]
  rw [Moment.stored?, Moment.toUtc?, hinstant, if_pos h, Option.map_some, hinstant]

namespace Value

theorem stored?_text (s : String) : (text s).stored? = .ok (text s) := by rw [stored?]

theorem stored?_int {n : Int} (h : fitsWord n = true) : (int n).stored? = .ok (int n) := by
  rw [stored?, if_pos h]

theorem stored?_date {t : Int} (h : Moment.inRange t = true) :
    (date (.ofInstant t)).stored? = .ok (date (.ofInstant (Moment.cutToMillisecond t))) := by
  rw [stored?, stored?_ofInstant h]

theorem stored?_ofText? (s : Option String) : (ofText? s).stored? = .ok (ofText? s) := by
  cases s with
  | none =>
    show null.stored? = .ok null
    rw [stored?]
  | some s => exact stored?_text s

theorem storedFields?_nil : storedFields? [] = .ok [] := by rw [storedFields?]

/-- A record is kept field by field. -/
theorem storedFields?_cons {name : String} {v kept : Value} {rest keptRest : Fields}
    (hname : hasNul name = false) (hv : v.stored? = .ok kept)
    (hrest : storedFields? rest = .ok keptRest) :
    storedFields? ((name, v) :: rest) = .ok ((name, kept) :: keptRest) := by
  rw [storedFields?, hv, hrest, hname]
  rfl

theorem stored?_record {fields kept : Fields} (h : storedFields? fields = .ok kept) :
    (record fields).stored? = .ok (record kept) := by
  rw [stored?, h]
  rfl

end Value

end Automation
