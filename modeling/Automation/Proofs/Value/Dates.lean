import Automation.Proofs.Store.Evolution
import Automation.Value.Json
import Automation.Value.Reply

/-!
# Values and the dates in them

A document keeps a value with its dates cut, and a reply carries it with its dates as texts: both
replace the dates in a value and nothing else (`Value.mapDates`). What comes as JSON has no dates,
so it is left as it is (`Value.IsJson.mapDates`). A change of dates that can be undone by reading
them again is a `Value.ReadsBack`.
-/

set_option autoImplicit false

namespace Automation

namespace Value

/-! ## Replacing dates -/

mutual

/-- The value with every date in it replaced. -/
def mapDates (f : Moment → Value) : Value → Value
  | list items => list (mapDatesItems f items)
  | record fields => record (mapDatesFields f fields)
  | date m => f m
  | v => v

/-- The items with every date in them replaced. -/
def mapDatesItems (f : Moment → Value) : List Value → List Value
  | [] => []
  | v :: rest => v.mapDates f :: mapDatesItems f rest

/-- The fields with every date in them replaced. -/
def mapDatesFields (f : Moment → Value) : List (String × Value) → List (String × Value)
  | [] => []
  | (name, v) :: rest => (name, v.mapDates f) :: mapDatesFields f rest

end

variable {f : Moment → Value} {v : Value}

mutual

theorem kept_eq_mapDates (v : Value) : v.kept = v.mapDates fun m => date m.kept := by
  cases v with
  | list items => rw [kept, mapDates, keptItems_eq_mapDates]
  | record fields => rw [kept, mapDates, keptFields_eq_mapDates]
  | date m => rw [kept, mapDates]
  | _ => simp [kept, mapDates]

theorem keptItems_eq_mapDates (items : List Value) :
    keptItems items = mapDatesItems (fun m => date m.kept) items := by
  cases items with
  | nil => rw [keptItems, mapDatesItems]
  | cons v rest => rw [keptItems, mapDatesItems, kept_eq_mapDates, keptItems_eq_mapDates]

/-- A document keeps fields with their dates cut. -/
theorem keptFields_eq_mapDates (fields : List (String × Value)) :
    keptFields fields = mapDatesFields (fun m => date m.kept) fields := by
  cases fields with
  | nil => rw [keptFields, mapDatesFields]
  | cons field rest => rw [keptFields, mapDatesFields, kept_eq_mapDates, keptFields_eq_mapDates]

end

mutual

theorem withDates_eq_mapDates (write : Moment → String) (v : Value) :
    v.withDates write = v.mapDates fun m => text (write m) := by
  cases v with
  | list items => rw [withDates, mapDates, withDatesItems_eq_mapDates]
  | record fields => rw [withDates, mapDates, withDatesFields_eq_mapDates]
  | date m => rw [withDates, mapDates]
  | _ => simp [withDates, mapDates]

theorem withDatesItems_eq_mapDates (write : Moment → String) (items : List Value) :
    withDatesItems write items = mapDatesItems (fun m => text (write m)) items := by
  cases items with
  | nil => rw [withDatesItems, mapDatesItems]
  | cons v rest =>
    rw [withDatesItems, mapDatesItems, withDates_eq_mapDates, withDatesItems_eq_mapDates]

/-- A reply carries fields with their dates as texts. -/
theorem withDatesFields_eq_mapDates (write : Moment → String) (fields : List (String × Value)) :
    withDatesFields write fields = mapDatesFields (fun m => text (write m)) fields := by
  cases fields with
  | nil => rw [withDatesFields, mapDatesFields]
  | cons field rest =>
    rw [withDatesFields, mapDatesFields, withDates_eq_mapDates, withDatesFields_eq_mapDates]

end

mutual

/-- Dates that are replaced by themselves stay. -/
theorem mapDates_date (v : Value) : v.mapDates date = v := by
  cases v with
  | list items => rw [mapDates, mapDatesItems_date]
  | record fields => rw [mapDates, mapDatesFields_date]
  | date m => rw [mapDates]
  | _ => simp [mapDates]

theorem mapDatesItems_date (items : List Value) : mapDatesItems date items = items := by
  cases items with
  | nil => rw [mapDatesItems]
  | cons v rest => rw [mapDatesItems, mapDates_date, mapDatesItems_date]

theorem mapDatesFields_date (fields : List (String × Value)) :
    mapDatesFields date fields = fields := by
  cases fields with
  | nil => rw [mapDatesFields]
  | cons field rest => rw [mapDatesFields, mapDates_date, mapDatesFields_date]

end

/-! ## Parts -/

theorem mapDatesItems_eq_map (items : List Value) :
    mapDatesItems f items = items.map (mapDates f) := by
  induction items with
  | nil => rw [mapDatesItems, List.map_nil]
  | cons v rest ih => rw [mapDatesItems, ih, List.map_cons]

theorem mapDatesFields_eq_map (fields : List (String × Value)) :
    mapDatesFields f fields = fields.map fun field => (field.1, field.2.mapDates f) := by
  induction fields with
  | nil => rw [mapDatesFields, List.map_nil]
  | cons field rest ih => rw [mapDatesFields, ih, List.map_cons]

@[simp] theorem mapDatesFields_nil : mapDatesFields f [] = [] := by rw [mapDatesFields]

@[simp] theorem mapDatesFields_cons (field : String × Value) (rest : List (String × Value)) :
    mapDatesFields f (field :: rest) = (field.1, field.2.mapDates f) :: mapDatesFields f rest := by
  rw [mapDatesFields]

@[simp] theorem mapDates_list (items : List Value) :
    (list items).mapDates f = list (items.map (mapDates f)) := by
  rw [mapDates, mapDatesItems_eq_map]

@[simp] theorem mapDates_record (fields : List (String × Value)) :
    (record fields).mapDates f = record (mapDatesFields f fields) := by rw [mapDates]

@[simp] theorem mapDates_null : null.mapDates f = null := by rw [mapDates]; all_goals nofun

@[simp] theorem mapDates_int (n : Int) : (int n).mapDates f = int n := by
  rw [mapDates]; all_goals nofun

@[simp] theorem mapDates_real (x : Binary64) : (real x).mapDates f = real x := by
  rw [mapDates]; all_goals nofun

@[simp] theorem mapDates_text (s : String) : (text s).mapDates f = text s := by
  rw [mapDates]; all_goals nofun

@[simp] theorem mapDates_ofText? (s : Option String) : (ofText? s).mapDates f = ofText? s := by
  cases s <;> simp [ofText?]

theorem without_mapDatesFields (names : List String) (fields : Fields) :
    Fields.without names (mapDatesFields f fields) =
      mapDatesFields f (Fields.without names fields) := by
  simp only [Fields.without, mapDatesFields_eq_map, List.filter_map, Function.comp_def]

/-! ## JSON -/

mutual

/-- Data as JSON has it: no dates and no object ids. -/
def IsJson : Value → Prop
  | list items => IsJsonItems items
  | record fields => IsJsonFields fields
  | date _ | oid _ => False
  | _ => True

/-- Items as JSON has them. -/
def IsJsonItems : List Value → Prop
  | [] => True
  | v :: rest => v.IsJson ∧ IsJsonItems rest

/-- Fields as JSON has them. -/
def IsJsonFields : List (String × Value) → Prop
  | [] => True
  | (_, v) :: rest => v.IsJson ∧ IsJsonFields rest

end

theorem isJsonItems_iff {items : List Value} : IsJsonItems items ↔ ∀ v ∈ items, v.IsJson := by
  induction items with
  | nil => simp [IsJsonItems]
  | cons v rest ih => simp [IsJsonItems, ih]

theorem isJsonFields_iff {fields : List (String × Value)} :
    IsJsonFields fields ↔ ∀ field ∈ fields, field.2.IsJson := by
  induction fields with
  | nil => simp [IsJsonFields]
  | cons field rest ih => simp [IsJsonFields, ih]

mutual

/-- There is no date in JSON to be replaced. -/
theorem IsJson.mapDates {v : Value} (h : v.IsJson) : v.mapDates f = v := by
  cases v with
  | list items =>
    rw [IsJson] at h
    rw [Value.mapDates, IsJsonItems.mapDates h]
  | record fields =>
    rw [IsJson] at h
    rw [Value.mapDates, IsJsonFields.mapDates h]
  | date m => simp [IsJson] at h
  | _ => simp [Value.mapDates]

theorem IsJsonItems.mapDates {items : List Value} (h : IsJsonItems items) :
    mapDatesItems f items = items := by
  cases items with
  | nil => rw [mapDatesItems]
  | cons v rest =>
    rw [IsJsonItems] at h
    rw [mapDatesItems, IsJson.mapDates h.1, IsJsonItems.mapDates h.2]

theorem IsJsonFields.mapDates {fields : List (String × Value)} (h : IsJsonFields fields) :
    mapDatesFields f fields = fields := by
  cases fields with
  | nil => rw [mapDatesFields]
  | cons field rest =>
    rw [IsJsonFields] at h
    rw [mapDatesFields, IsJson.mapDates h.1, IsJsonFields.mapDates h.2]

end

end Value

end Automation
