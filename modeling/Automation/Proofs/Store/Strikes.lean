import Automation.Store.Fault

/-!
# What faults strike

A call of the store is struck by one of the faults, or none of them notices it. Faults that do not
apply to an operation do not strike it (`Fault.strike_of_not_applies`), and a call changes nothing
of a fault but how many calls it has left (`Fault.forall_mem_strike`). Of the store itself a call
changes something only if it is a query that is not struck (`Database.store_answer`).
-/

set_option autoImplicit false

namespace Automation

namespace Fault

variable {faults : List Fault} {place method : String}

/-! ## The call of one operation -/

/-- Faults that do not apply to an operation do not strike it, and stay as they are. -/
theorem strike_of_not_applies (h : ∀ f ∈ faults, f.applies place method = false) :
    strike place method faults = (none, faults) := by
  induction faults with
  | nil => rfl
  | cons f rest ih =>
    rw [strike, h f List.mem_cons_self, ih fun g hg => h g (List.mem_cons_of_mem _ hg)]
    rfl

/-- Faults of other places do not strike. -/
theorem strike_of_place (place method : String) (h : ∀ f ∈ faults, f.place ≠ place) :
    strike place method faults = (none, faults) :=
  strike_of_not_applies fun f hf => by simp [applies, h f hf]

/-- A struck call raises the error of one of the faults, or finds nothing as that one says. -/
theorem exists_of_strike {error : Option StoreFault}
    (h : (strike place method faults).1 = some error) : ∃ f ∈ faults, f.error = error := by
  induction faults with
  | nil => cases h
  | cons f rest ih =>
    rw [strike] at h
    split at h
    · split at h
      · cases h
      · exact ⟨f, List.mem_cons_self, Option.some.inj h⟩
    · obtain ⟨g, hg, herror⟩ := ih h
      exact ⟨g, List.mem_cons_of_mem _ hg, herror⟩

/-- What faults are does not depend on how many calls they have left. -/
theorem forall_mem_strike {P : Fault → Prop} (h : ∀ f ∈ faults, P f)
    (hP : ∀ f skip times, P f → P { f with skip, times }) (place method : String) :
    ∀ f ∈ (strike place method faults).2, P f := by
  induction faults with
  | nil => exact h
  | cons f rest ih =>
    have hf := h f List.mem_cons_self
    have hrest := fun g hg => h g (List.mem_cons_of_mem _ hg)
    rw [strike]
    split
    · split
      · exact List.forall_mem_cons.2 ⟨hP f _ _ hf, hrest⟩
      · exact List.forall_mem_cons.2 ⟨hP f _ _ hf, hrest⟩
    · exact List.forall_mem_cons.2 ⟨hf, ih hrest⟩

end Fault

namespace Database

/-! ## The database after a call -/

/-- An operation on the client leaves the faults as its call does. -/
theorem faults_touch (db : Database) (method : String) :
    (db.touch method).2.faults = (Fault.strike Fault.client method db.faults).2 := by
  unfold touch
  split <;> rename_i hstruck <;> rw [hstruck]

/-- An operation on the client leaves the store as it is. -/
theorem store_touch (db : Database) (method : String) : (db.touch method).2.store = db.store := by
  unfold touch
  split <;> rfl

/-- Where no fault is one of the client, its operations work. -/
theorem touch_of_place {db : Database} (h : ∀ f ∈ db.faults, f.place ≠ Fault.client)
    (method : String) : db.touch method = (.ok (), db) := by
  unfold touch
  rw [Fault.strike_of_place _ _ h]

/-- A query leaves the faults as its call does. -/
theorem faults_answer (db : Database) (q : Query) :
    (db.answer q).2.faults = (Fault.strike q.collection.name q.method db.faults).2 := by
  unfold answer
  split <;> rename_i hstruck <;> rw [hstruck]
  cases db.store.answer q <;> rfl

/-- A query changes the store as the store answers it, or not at all. -/
theorem store_answer (db : Database) (q : Query) : (db.answer q).2.store = db.store ∨
    ∃ y, db.store.answer q = .ok (y, (db.answer q).2.store) := by
  unfold answer
  split
  · exact Or.inl rfl
  · exact Or.inl rfl
  · cases db.store.answer q with
    | ok x => exact Or.inr ⟨x.1, rfl⟩
    | error e => exact Or.inl rfl

end Database

end Automation
