import Automation.Proofs.World.Performance

/-!
# The exchanges of a world

A world that performs a program leaves behind more than the world after it: the exchanges that it
had with the program on the way (`World.exchanges`). `World.chronicle` is the setting in which both
are followed. In a world whose faults all raise errors a call of the store is either answered as the
store answers it, or it raises an error and changes nothing (`Raises.query`).
-/

set_option autoImplicit false

namespace Automation

open Program

/-! ## Faults that raise errors -/

/-- A fault whose struck calls raise an error. -/
def Fault.Raises (f : Fault) : Prop := f.error.isSome = true

/-- Faults that raise errors never make a call find nothing. -/
theorem Fault.strike_ne_nothing {faults : List Fault} (h : ∀ f ∈ faults, f.Raises)
    (place method : String) : (Fault.strike place method faults).1 ≠ some none := by
  intro hnone
  obtain ⟨f, hf, herror⟩ := Fault.exists_of_strike hnone
  have hraises := h f hf
  rw [Raises, herror] at hraises
  cases hraises

namespace World

variable {α : Type} {w : World}

/-- A world in which these calls of the store fail from now on. -/
def withFaults (w : World) (faults : List Fault) : World :=
  { w with database := { w.database with faults } }

/-- A world in which a call of the store that fails raises an error. -/
def Raises (w : World) : Prop := ∀ f ∈ w.database.faults, f.Raises

/-- A query is answered as the store answers it, or it raises an error and changes nothing. -/
theorem Raises.query (hw : w.Raises) (q : Query) :
    (w.answer (.query q)).2.Raises ∧
      ((∃ y, w.database.store.answer q = .ok (y, (w.answer (.query q)).2.database.store) ∧
          (w.answer (.query q)).1 = .ok y) ∨
        (∃ e, (w.answer (.query q)).1 = .error e) ∧
          (w.answer (.query q)).2.database.store = w.database.store) := by
  refine ⟨forall_faults_answer hw (fun _ _ _ h => h) _, ?_⟩
  have hstrike := Fault.strike_ne_nothing hw q.collection.name q.method
  simp only [answer, Database.answer]
  generalize Fault.strike q.collection.name q.method w.database.faults = struck at hstrike ⊢
  obtain ⟨_ | _ | f, faults⟩ := struck
  · cases w.database.store.answer q with
    | ok x => exact Or.inl ⟨x.1, rfl, rfl⟩
    | error e => exact Or.inr ⟨⟨_, rfl⟩, rfl⟩
  · exact absurd rfl hstrike
  · exact Or.inr ⟨⟨_, rfl⟩, rfl⟩

/-- Only queries change the store. -/
theorem Raises.answer (hw : w.Raises) (r : Request) (hr : ∀ q, r ≠ .query q) :
    (w.answer r).2.Raises ∧ (w.answer r).2.database.store = w.database.store := by
  refine ⟨forall_faults_answer hw (fun _ _ _ h => h) r, ?_⟩
  rcases w.store_answer r with hstore | ⟨q, -, rfl, -⟩
  · exact hstore
  · exact absurd rfl (hr q)

/-! ## Exchanges -/

/-- The exchanges of a world with a program that it performs. -/
def exchanges (w : World) : Program α → List Exchange
  | .done _ => []
  | .failed _ => []
  | .cancelled => []
  | .ask r next => ⟨r, (w.answer r).1⟩ :: (w.answer r).2.exchanges (next (w.answer r).1)

/-- Worlds with the exchanges they had as a setting. -/
def chronicle : Setting (World × List Exchange) where
  fits _ _ := True
  moves s e s' := s.1.answer e.request = (e.answer, s'.1) ∧ s'.2 = s.2 ++ [e]

/-- What a program upholds holds of the world that has performed it, and of their exchanges. -/
theorem perform_chronicle {p : Program α} {es : List Exchange}
    {Q : World × List Exchange → Outcome α → Prop} (h : p.Upholds chronicle (w, es) Q) :
    Q ((w.perform p).2, es ++ w.exchanges p) (w.perform p).1 := by
  induction p generalizing w es with
  | done a =>
    rw [exchanges, List.append_nil]
    exact h
  | failed f =>
    rw [exchanges, List.append_nil]
    exact h
  | cancelled =>
    rw [exchanges, List.append_nil]
    exact h
  | ask r next ih =>
    rw [exchanges, List.append_cons]
    exact ih _ (h.2 _ ((w.answer r).2, es ++ [⟨r, (w.answer r).1⟩]) ⟨rfl, rfl⟩)

/-- A query, with what is then to be upheld when the store answers it, and when it raises an
error. -/
theorem query_chronicle {q : Query} {k : Except StoreError q.Answer → Program α}
    {es : List Exchange} {Q : World × List Exchange → Outcome α → Prop} (hw : w.Raises)
    (hok : ∀ y w', w'.Raises → w.database.store.answer q = .ok (y, w'.database.store) →
      (k (.ok y)).Upholds chronicle (w', es ++ [⟨.query q, Except.ok y⟩]) Q)
    (herror : ∀ e w', w'.Raises → w'.database.store = w.database.store →
      (k (.error e)).Upholds chronicle (w', es ++ [⟨.query q, Except.error e⟩]) Q) :
    (Program.query q >>= k).Upholds chronicle (w, es) Q := by
  refine ⟨trivial, ?_⟩
  rintro x ⟨w', es'⟩ ⟨hanswer, rfl⟩
  have hquery := hw.query q
  rw [show w.answer (.query q) = (x, w') from hanswer] at hquery
  obtain ⟨hw', ⟨y, hy, rfl⟩ | ⟨⟨e, rfl⟩, hstore⟩⟩ := hquery
  · exact hok y w' hw' hy
  · exact herror e w' hw' hstore

end World

end Automation
