import Automation.Proofs.Program.Conduct

/-!
# Programs that differ in their reports

Two programs that do the same, but that tell the journal other things about it (`Program.Alike`),
end in the same way in the same world, and leave the same world behind but for its journal
(`World.perform_alike`). A world acts on nothing that its journal says.
-/

set_option autoImplicit false

namespace Automation

open World (Outcome)

variable {α β : Type}

namespace Program

/-- Programs that differ at most in what they tell the journal. -/
inductive Alike : Program α → Program α → Prop
  | refl (p : Program α) : Alike p p
  | ask {r : Request} {next next' : r.Answer → Program α} (h : ∀ x, Alike (next x) (next' x)) :
      Alike (.ask r next) (.ask r next')
  | told (e e' : Journal.Entry) {next next' : Unit → Program α}
      (h : ∀ x, Alike (next x) (next' x)) :
      Alike (.ask (.report e) next) (.ask (.report e') next')

variable {p p' : Program α} {k k' : α → Program β}

/-! ## One rule for each way of building programs -/

theorem Alike.of_eq (h : p = p') : Alike p p' := h ▸ .refl p

/-- One program, and others after it that are alike. -/
theorem Alike.bind_left (p : Program α) (hk : ∀ a, Alike (k a) (k' a)) :
    Alike (p >>= k) (p >>= k') := by
  show Alike (p.bind k) (p.bind k')
  induction p with
  | done a => exact hk a
  | failed f => exact .refl _
  | cancelled => exact .refl _
  | ask r next ih => exact .ask fun x => ih x

/-- One program after another: both parts are alike. -/
theorem Alike.bind (h : Alike p p') (hk : ∀ a, Alike (k a) (k' a)) :
    Alike (p >>= k) (p' >>= k') := by
  induction h with
  | refl p => exact .bind_left p hk
  | ask _ ih => exact .ask fun x => ih x
  | told e e' _ ih => exact .told e e' fun x => ih x

/-- Different entries for the journal. -/
theorem Alike.report (e e' : Journal.Entry) : Alike (Program.report e) (Program.report e') :=
  .told e e' fun _ => .refl _

theorem Alike.attempt (h : Alike p p') : Alike p.attempt p'.attempt := by
  induction h with
  | refl p => exact .refl _
  | ask _ ih => exact .ask ih
  | told e e' _ ih => exact .told e e' ih

end Program

namespace World

/-- A world but for its journal. -/
def unheard (w : World) : World := { w with journal := [] }

theorem unheard_report (w : World) (e : Journal.Entry) : (w.report e).unheard = w.unheard := by
  unfold report
  split <;> rfl

/-- A world acts on nothing that its journal says. -/
theorem answer_unheard (w : World) (r : Request) :
    (w.unheard.answer r).1 = (w.answer r).1 ∧
      (w.unheard.answer r).2.unheard = (w.answer r).2.unheard := by
  cases r with
  | report e =>
    refine ⟨rfl, ?_⟩
    show (w.unheard.report e).unheard = (w.report e).unheard
    rw [unheard_report, unheard_report]
    rfl
  | connect =>
    cases hconnected : w.connected with
    | true => simp [answer, unheard, hconnected]
    | false =>
      rcases htouched : w.database.touch "connect" with ⟨_ | _, database⟩ <;>
        simp [answer, unheard, hconnected, htouched]
  | disconnect =>
    cases hconnected : w.connected with
    | true => simp [answer, unheard, hconnected]
    | false => simp [answer, unheard, hconnected]
  | _ => exact ⟨rfl, rfl⟩

variable {w w' : World} {p p' : Program α}

/-- Worlds that are the same but for their journals give the same answers. -/
theorem answer_of_unheard (h : w.unheard = w'.unheard) (r : Request) :
    (w.answer r).1 = (w'.answer r).1 ∧ (w.answer r).2.unheard = (w'.answer r).2.unheard := by
  obtain ⟨hanswer, hafter⟩ := w.answer_unheard r
  obtain ⟨hanswer', hafter'⟩ := w'.answer_unheard r
  rw [← hanswer, ← hafter, h]
  exact ⟨hanswer', hafter'⟩

/-- A program ends in the same way in worlds that are the same but for their journals. -/
theorem perform_of_unheard (p : Program α) (h : w.unheard = w'.unheard) :
    (w.perform p).1 = (w'.perform p).1 ∧ (w.perform p).2.unheard = (w'.perform p).2.unheard := by
  induction p generalizing w w' with
  | ask r next ih =>
    obtain ⟨hanswer, hafter⟩ := answer_of_unheard h r
    rw [perform, perform, ← hanswer]
    exact ih _ hafter
  | _ => exact ⟨rfl, h⟩

/-- Programs that differ in their reports end in the same way, and what they leave behind differs in
the journal alone. -/
theorem perform_alike (hp : p.Alike p') (h : w.unheard = w'.unheard) :
    (w.perform p).1 = (w'.perform p').1 ∧
      (w.perform p).2.unheard = (w'.perform p').2.unheard := by
  induction hp generalizing w w' with
  | refl p => exact perform_of_unheard p h
  | @ask r next next' _ ih =>
    obtain ⟨hanswer, hafter⟩ := answer_of_unheard h r
    rw [perform, perform, ← hanswer]
    exact ih _ hafter
  | told e e' _ ih =>
    -- a report is answered in the same way whatever it says, and changes the journal alone
    refine ih () ?_
    show (w.report e).unheard = (w'.report e').unheard
    rw [unheard_report, unheard_report, h]

end World

end Automation
