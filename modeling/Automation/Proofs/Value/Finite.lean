import Automation.Proofs.Value.Dates

/-!
# Numbers in replies

A reply has no form for a number that is not finite. In the fields that nobody declared such a
number becomes null, so what is left of them is always finite (`isFinite_finite`), and a value whose
numbers are finite is left as it is (`finite_eq_self`).
-/

set_option autoImplicit false

namespace Automation

namespace Value

open Json

mutual

/-- No number is left that is not finite. -/
theorem isFinite_finite (v : Value) : isFinite v.finite = true := by
  cases v with
  | real x =>
    rw [finite]
    split
    · rwa [isFinite]
    · rw [isFinite]; all_goals nofun
  | list items => rw [finite, isFinite, allFinite_finiteItems]
  | record fields => rw [finite, isFinite, fieldsFinite_finiteFields]
  | _ => simp [finite, isFinite]

theorem allFinite_finiteItems (items : List Value) : allFinite (finiteItems items) = true := by
  cases items with
  | nil => rw [finiteItems, allFinite]
  | cons v rest =>
    rw [finiteItems, allFinite, isFinite_finite, allFinite_finiteItems, Bool.and_self]

theorem fieldsFinite_finiteFields (fields : List (String × Value)) :
    fieldsFinite (finiteFields fields) = true := by
  cases fields with
  | nil => rw [finiteFields, fieldsFinite]
  | cons field rest =>
    rw [finiteFields, fieldsFinite, isFinite_finite, fieldsFinite_finiteFields, Bool.and_self]

end

mutual

/-- A value whose numbers are finite is left as it is. -/
theorem finite_eq_self {v : Value} (h : isFinite v = true) : v.finite = v := by
  cases v with
  | real x =>
    rw [isFinite] at h
    rw [finite, if_pos h]
  | list items =>
    rw [isFinite] at h
    rw [finite, finiteItems_eq_self h]
  | record fields =>
    rw [isFinite] at h
    rw [finite, finiteFields_eq_self h]
  | _ => simp [finite]

theorem finiteItems_eq_self {items : List Value} (h : allFinite items = true) :
    finiteItems items = items := by
  cases items with
  | nil => rw [finiteItems]
  | cons v rest =>
    rw [allFinite, Bool.and_eq_true] at h
    rw [finiteItems, finite_eq_self h.1, finiteItems_eq_self h.2]

theorem finiteFields_eq_self {fields : List (String × Value)} (h : fieldsFinite fields = true) :
    finiteFields fields = fields := by
  cases fields with
  | nil => rw [finiteFields]
  | cons field rest =>
    rw [fieldsFinite, Bool.and_eq_true] at h
    rw [finiteFields, finite_eq_self h.1, finiteFields_eq_self h.2]

end

variable {f : Moment → Value}

mutual

/-- Dates are no numbers. -/
theorem isFinite_mapDates (hf : ∀ m, isFinite (f m) = true) (v : Value) :
    isFinite (v.mapDates f) = isFinite v := by
  cases v with
  | list items => rw [mapDates, isFinite, isFinite, allFinite_mapDatesItems hf]
  | record fields => rw [mapDates, isFinite, isFinite, fieldsFinite_mapDatesFields hf]
  | date m =>
    rw [mapDates, hf, isFinite]
    all_goals nofun
  | _ => simp [mapDates]

theorem allFinite_mapDatesItems (hf : ∀ m, isFinite (f m) = true) (items : List Value) :
    allFinite (mapDatesItems f items) = allFinite items := by
  cases items with
  | nil => rw [mapDatesItems]
  | cons v rest =>
    rw [mapDatesItems, allFinite, allFinite, isFinite_mapDates hf, allFinite_mapDatesItems hf]

theorem fieldsFinite_mapDatesFields (hf : ∀ m, isFinite (f m) = true)
    (fields : List (String × Value)) :
    fieldsFinite (mapDatesFields f fields) = fieldsFinite fields := by
  cases fields with
  | nil => rw [mapDatesFields]
  | cons field rest =>
    rw [mapDatesFields, fieldsFinite, fieldsFinite, isFinite_mapDates hf,
      fieldsFinite_mapDatesFields hf]

end

@[simp] theorem isFinite_forReply (v : Value) : isFinite v.forReply = isFinite v := by
  rw [forReply, withDates_eq_mapDates]
  exact isFinite_mapDates (fun m => rfl) v

/-! ## Parts -/

theorem allFinite_iff {items : List Value} :
    allFinite items = true ↔ ∀ v ∈ items, isFinite v = true := by
  induction items with
  | nil => simp [allFinite]
  | cons v rest ih => simp [allFinite, ih]

theorem fieldsFinite_iff {fields : List (String × Value)} :
    fieldsFinite fields = true ↔ ∀ field ∈ fields, isFinite field.2 = true := by
  induction fields with
  | nil => simp [fieldsFinite]
  | cons field rest ih => simp [fieldsFinite, ih]

theorem finiteFields_eq_map (fields : List (String × Value)) :
    finiteFields fields = fields.map fun field => (field.1, field.2.finite) := by
  induction fields with
  | nil => rw [finiteFields, List.map_nil]
  | cons field rest ih => rw [finiteFields, ih, List.map_cons]

end Value

end Automation
