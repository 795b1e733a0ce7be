import Mathlib.Logic.Function.Basic
import Mathlib.Logic.Relation
import Automation.Proofs.Program.Conduct

/-!
# Programs that share a world

Several programs are on their way in one world. They go on request by request, in any order, and in
between other things happen to the world (`Crowd.Step`). What a program asks may depend on what it
was answered before, and on nothing else: so what it may ask in view of its own exchanges, whatever
these were (`Setting.ofPast`), it may ask in every crowd (`Crowd.Reaches.isConducted`).
-/

set_option autoImplicit false

namespace Automation

open World (Outcome)
open Program

variable {ι α : Type}

/-- What a program may ask in view of its own exchanges before, whatever it is answered. -/
def Setting.ofPast (fits : List Exchange → Request → Prop) : Setting (List Exchange) where
  fits := fits
  moves es e es' := es' = es ++ [e]

/-- Requests of a kind that always fit keep what no exchange of that kind undoes. -/
theorem Setting.keeps_ofPast {fits : List Exchange → Request → Prop} {kind : Request → Prop}
    {I : List Exchange → Prop} (hfits : ∀ es r, kind r → fits es r)
    (hmoves : ∀ es r (x : r.Answer), kind r → I es → I (es ++ [⟨r, x⟩])) :
    (Setting.ofPast fits).Keeps kind I := by
  rintro es r hr h
  refine ⟨hfits es r hr, fun x es' hes' => ?_⟩
  rw [show es' = es ++ [⟨r, x⟩] from hes']
  exact hmoves es r x hr h

/-- A program whose requests fit its exchanges makes only requests of a kind, if those are. -/
theorem Program.Upholds.asks_ofPast {fits : List Exchange → Request → Prop} {kind : Request → Prop}
    {p : Program α} {es : List Exchange} {Q : List Exchange → Outcome α → Prop}
    (h : p.Upholds (Setting.ofPast fits) es Q) (hkind : ∀ es r, fits es r → kind r) :
    p.Asks kind := by
  induction p generalizing es with
  | done a => trivial
  | failed f => trivial
  | cancelled => trivial
  | ask r next ih => exact ⟨hkind _ _ h.1, fun x => ih x (h.2 x _ rfl)⟩

/-- Programs that share a world: the world, what is left of each program, and everything that was
exchanged so far, each exchange with whose it is. -/
structure Crowd (ι α : Type) where
  world : World
  left : ι → Program α
  past : List (ι × Exchange)

namespace Crowd

/-- Programs that have not begun. -/
def gathered (programs : ι → Program α) (world : World) : Crowd ι α := ⟨world, programs, []⟩

variable [DecidableEq ι]

/-- The exchanges of one of the programs. -/
def own (c : Crowd ι α) (i : ι) : List Exchange :=
  c.past.filterMap fun p => if p.1 = i then some p.2 else none

/-- After a request of one of the programs was answered. -/
def asked (c : Crowd ι α) (i : ι) (r : Request) (next : r.Answer → Program α) : Crowd ι α where
  world := (c.world.answer r).2
  left := Function.update c.left i (next (c.world.answer r).1)
  past := c.past ++ [(i, ⟨r, (c.world.answer r).1⟩)]

/-- One step: one of the programs makes a request, or something else happens to the world. -/
inductive Step (others : World → World → Prop) (c : Crowd ι α) : Crowd ι α → Prop
  | turn (i : ι) {r : Request} {next : r.Answer → Program α} (hleft : c.left i = .ask r next) :
      Step others c (c.asked i r next)
  | aside {world : World} (h : others c.world world) : Step others c { c with world }

/-- What the crowd may come to, in whatever order its programs go on. -/
abbrev Reaches (others : World → World → Prop) : Crowd ι α → Crowd ι α → Prop :=
  Relation.ReflTransGen (Step others)

variable {c c' : Crowd ι α} {i j : ι} {e : Exchange} {r : Request} {next : r.Answer → Program α}
  {others : World → World → Prop}

theorem mem_own : e ∈ c.own i ↔ (i, e) ∈ c.past := by
  unfold own
  rw [List.mem_filterMap]
  constructor
  · rintro ⟨⟨j, e'⟩, hmem, heq⟩
    split at heq
    · rename_i hj
      cases heq
      obtain rfl : j = i := hj
      exact hmem
    · cases heq
  · exact fun hmem => ⟨(i, e), hmem, if_pos rfl⟩

@[simp] theorem own_asked_self :
    (c.asked i r next).own i = c.own i ++ [⟨r, (c.world.answer r).1⟩] := by
  simp [own, asked]

@[simp] theorem own_asked_of_ne (h : j ≠ i) : (c.asked i r next).own j = c.own j := by
  simp [own, asked, Ne.symm h]

/-- A program has its exchanges from before, and the one whose turn it was has one more. -/
theorem mem_own_asked : e ∈ (c.asked i r next).own j ↔
    e ∈ c.own j ∨ j = i ∧ e = ⟨r, (c.world.answer r).1⟩ := by
  by_cases hj : j = i
  · subst hj
    simp
  · simp [hj]

@[simp] theorem left_asked_self :
    (c.asked i r next).left i = next (c.world.answer r).1 := by
  simp [asked]

@[simp] theorem left_asked_of_ne (h : j ≠ i) : (c.asked i r next).left j = c.left j := by
  simp [asked, h]

/-! ## What the programs may ask -/

variable {fits : List Exchange → Request → Prop} {Q : List Exchange → Outcome α → Prop}

/-- Each program makes only requests that fit its own exchanges, and ends as a condition says. -/
def IsConducted (fits : List Exchange → Request → Prop) (Q : List Exchange → Outcome α → Prop)
    (c : Crowd ι α) : Prop :=
  ∀ i, (c.left i).Upholds (Setting.ofPast fits) (c.own i) Q

theorem IsConducted.step (h : c.IsConducted fits Q) (hstep : Step others c c') :
    c'.IsConducted fits Q := by
  cases hstep with
  | @turn i r next hleft =>
    intro j
    by_cases hj : j = i
    · subst hj
      have hupholds := h j
      rw [hleft] at hupholds
      rw [left_asked_self, own_asked_self]
      exact hupholds.2 _ _ rfl
    · -- the others are where they were
      rw [left_asked_of_ne hj, own_asked_of_ne hj]
      exact h j
  | aside => exact h

/-- Programs that make only fitting requests go on to do so, whatever else happens. -/
theorem Reaches.isConducted (hreaches : Reaches others c c') (h : c.IsConducted fits Q) :
    c'.IsConducted fits Q := by
  induction hreaches with
  | refl => exact h
  | tail _ hstep ih => exact ih.step hstep

/-- The next request of a program fits its exchanges. -/
theorem IsConducted.asks (h : c.IsConducted fits Q) (hleft : c.left i = .ask r next) :
    fits (c.own i) r := by
  have hupholds := h i
  rw [hleft] at hupholds
  exact hupholds.1

/-! ## Schedules -/

/-- After the next request of a program. -/
def turned (c : Crowd ι α) (i : ι) : Crowd ι α :=
  match c.left i with
  | .ask r next => c.asked i r next
  | _ => c

/-- After some programs had their turns. -/
def taken (c : Crowd ι α) (turns : List ι) : Crowd ι α := turns.foldl turned c

theorem reaches_turned (c : Crowd ι α) (i : ι) : Reaches others c (c.turned i) := by
  unfold turned
  split
  · rename_i r next hleft
    exact .single (.turn i hleft)
  · exact .refl

theorem reaches_taken (c : Crowd ι α) (turns : List ι) : Reaches others c (c.taken turns) := by
  unfold taken
  induction turns generalizing c with
  | nil => exact .refl
  | cons i rest ih => exact (reaches_turned c i).trans (ih (c.turned i))

end Crowd

end Automation
