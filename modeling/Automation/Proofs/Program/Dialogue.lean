import Automation.World.Basic
import Mathlib.Algebra.Ring.Int.Defs
import Mathlib.Algebra.Ring.Nat

/-!
# Dialogues of programs

A program that is carried out exchanges requests for answers until it ends. A `Responder` answers
in any way, in view of everything that was exchanged before, so whatever holds of the dialogue with
every responder holds however the store, the clock and the delivery service behave.

`Program.Ensures` is the judgement by which such facts are proved: after every dialogue all of whose
exchanges are allowed, a condition holds of the exchanges and of the end. It has one rule for each
way of building programs, and it carries over to dialogues with a responder (`Ensures.dialogue`).
-/

set_option autoImplicit false

namespace Automation

open World (Outcome)

/-- A request with the answer it got. -/
structure Exchange where
  request : Request
  answer : request.Answer

/-- Whoever answers the requests of a program, in view of the exchanges before. -/
structure Responder where
  answer : (before : List Exchange) → (r : Request) → r.Answer

/-- A responder with whom nothing happens: no time passes, the store finds nothing, every message is
accepted and every pause is over at once. -/
def Responder.uneventful : Responder where
  answer
    | _, .clock => default
    | _, .report _ => ()
    | _, .connect => .ok false
    | _, .disconnect => .ok ()
    | _, .query q => .ok q.nothing
    | _, .post _ => .ok (MailScript.accepting 1)
    | _, .sleep _ => .elapsed
    | _, .launch .. => ()
    | _, .isActive _ => false
    | _, .say _ => ()

namespace Program

variable {α β : Type}

/-- The exchanges of a program with a responder, after others before, and its end. -/
def dialogue (env : Responder) : (before : List Exchange) → Program α → List Exchange × Outcome α
  | _, .done a => ([], .done a)
  | _, .failed f => ([], .failed f)
  | _, .cancelled => ([], .cancelled)
  | before, .ask r next =>
    let e : Exchange := ⟨r, env.answer before r⟩
    let rest := dialogue env (before ++ [e]) (next e.answer)
    (e :: rest.1, rest.2)

/-- After every dialogue of allowed exchanges the condition holds of the exchanges and the end. -/
def Ensures (allowed : Exchange → Prop) :
    Program α → (List Exchange → Outcome α → Prop) → Prop
  | .done a, Q => Q [] (.done a)
  | .failed f, Q => Q [] (.failed f)
  | .cancelled, Q => Q [] .cancelled
  | .ask r next, Q => ∀ x : r.Answer, allowed ⟨r, x⟩ →
    (next x).Ensures allowed fun es o => Q (⟨r, x⟩ :: es) o

variable {allowed : Exchange → Prop} {p : Program α} {k : α → Program β}
  {Q : List Exchange → Outcome α → Prop} {R : List Exchange → Outcome β → Prop}

@[simp] theorem ensures_pure {a : α} :
    (pure a : Program α).Ensures allowed Q ↔ Q [] (.done a) := Iff.rfl

@[simp] theorem ensures_failed {f : Failure} :
    (Program.failed f).Ensures allowed Q ↔ Q [] (.failed f) := Iff.rfl

theorem Ensures.mono {Q' : List Exchange → Outcome α → Prop} (h : p.Ensures allowed Q)
    (hQ : ∀ es o, Q es o → Q' es o) : p.Ensures allowed Q' := by
  induction p generalizing Q Q' with
  | done a => exact hQ _ _ h
  | failed f => exact hQ _ _ h
  | cancelled => exact hQ _ _ h
  | ask r next ih => exact fun x hx => ih x (h x hx) fun es o => hQ _ _

/-- The exchanges of a dialogue are all allowed. -/
theorem ensures_allowed (p : Program α) :
    p.Ensures allowed fun es _ => ∀ e ∈ es, allowed e := by
  induction p with
  | done a => exact fun e he => absurd he List.not_mem_nil
  | failed f => simp
  | cancelled => exact fun e he => absurd he List.not_mem_nil
  | ask r next ih =>
    refine fun x hx => (ih x).mono fun es o h e he => ?_
    rcases List.mem_cons.1 he with rfl | he
    · exact hx
    · exact h e he

/-! ## One rule for each way of building programs -/

/-- One program after another: the first ensures what the second starts from. -/
theorem Ensures.bind (h : p.Ensures allowed Q)
    (hdone : ∀ es a, Q es (.done a) → (k a).Ensures allowed fun es' o => R (es ++ es') o)
    (hfailed : ∀ es f, Q es (.failed f) → R es (.failed f))
    (hcancelled : ∀ es, Q es .cancelled → R es .cancelled) :
    (p >>= k).Ensures allowed R := by
  -- the induction is on the first program; the condition grows with the exchanges before
  show (p.bind k).Ensures allowed R
  induction p generalizing Q R with
  | done a => exact hdone [] a h
  | failed f => exact hfailed [] f h
  | cancelled => exact hcancelled [] h
  | ask r next ih =>
    exact fun x hx => ih x (h x hx) (fun es a ha => hdone _ a ha) (fun es f hf => hfailed _ f hf)
      fun es hc => hcancelled _ hc

/-- One program after another that always ends with a value. -/
theorem Ensures.bind_done {P : List Exchange → α → Prop}
    (h : p.Ensures allowed fun es o => ∃ a, o = .done a ∧ P es a)
    (hdone : ∀ es a, P es a → (k a).Ensures allowed fun es' o => R (es ++ es') o) :
    (p >>= k).Ensures allowed R := by
  refine h.bind ?_ ?_ ?_
  · rintro es a ⟨a', ha, hP⟩
    cases ha
    exact hdone es a hP
  · rintro es f ⟨a, ha, -⟩
    cases ha
  · rintro es ⟨a, ha, -⟩
    cases ha

/-- An attempt ends with the failure as its value. -/
theorem Ensures.attempt {R : List Exchange → Outcome (Except Failure α) → Prop}
    (h : p.Ensures allowed Q) (hdone : ∀ es a, Q es (.done a) → R es (.done (.ok a)))
    (hfailed : ∀ es f, Q es (.failed f) → R es (.done (.error f)))
    (hcancelled : ∀ es, Q es .cancelled → R es .cancelled) : p.attempt.Ensures allowed R := by
  induction p generalizing Q R with
  | done a => exact hdone [] a h
  | failed f => exact hfailed [] f h
  | cancelled => exact hcancelled [] h
  | ask r next ih =>
    exact fun x hx => ih x (h x hx) (fun es a ha => hdone _ a ha) (fun es f hf => hfailed _ f hf)
      fun es hc => hcancelled _ hc

/-- The outcome that a value or a failure stands for. -/
def outcomeOf : Except Failure α → Outcome α
  | .ok a => .done a
  | .error f => .failed f

theorem outcomeOf_ne_cancelled (x : Except Failure α) : outcomeOf x ≠ .cancelled := by
  cases x <;> rintro ⟨⟩

/-- An attempt at a program that is never cancelled always ends with a value. -/
theorem Ensures.attempt_done (h : p.Ensures allowed Q) (hcancelled : ∀ es, ¬ Q es .cancelled) :
    p.attempt.Ensures allowed fun es o => ∃ x, o = .done x ∧ Q es (outcomeOf x) :=
  h.attempt (fun _ a ha => ⟨.ok a, rfl, ha⟩) (fun _ f hf => ⟨.error f, rfl, hf⟩)
    fun es hc => absurd hc (hcancelled es)

/-- A program that is never cancelled needs nothing of what is done when it is. -/
theorem Ensures.onCancel {last : Program Unit} (h : p.Ensures allowed Q)
    (hcancelled : ∀ es, ¬ Q es .cancelled) : (p.onCancel last).Ensures allowed Q := by
  induction p generalizing Q with
  | done a => exact h
  | failed f => exact h
  | cancelled => exact absurd h (hcancelled [])
  | ask r next ih => exact fun x hx => ih x (h x hx) fun es hc => hcancelled _ hc

/-! ## Programs of one request -/

@[simp] theorem ensures_now_bind {k : Moment → Program β} :
    (Program.now >>= k).Ensures allowed R ↔ ∀ t : Moment, allowed ⟨.clock, t⟩ →
      (k t).Ensures allowed fun es o => R (⟨.clock, t⟩ :: es) o := Iff.rfl

/-! ## Values, whatever the answers -/

/-- Every value with which a program can end has a property. -/
abbrev Yields (p : Program α) (P : α → Prop) : Prop :=
  p.Ensures (fun _ => True) fun _ o => ∀ a, o = .done a → P a

theorem yields_done {P : α → Prop} {a : α} (h : P a) : (done a).Yields P := by
  intro a' ha
  cases ha
  exact h

theorem yields_failed {P : α → Prop} {f : Failure} : (failed f).Yields P := by
  intro a ha
  cases ha

theorem Yields.bind {P : α → Prop} {P' : β → Prop} (h : p.Yields P)
    (hk : ∀ a, P a → (k a).Yields P') : (p >>= k).Yields P' :=
  Ensures.bind h (fun _ a ha => hk a (ha a rfl)) (fun _ _ _ => nofun) fun _ _ => nofun

/-- Of a program after another its values count. -/
theorem yields_bind {P : β → Prop} (hk : ∀ a, (k a).Yields P) : (p >>= k).Yields P :=
  Ensures.bind (ensures_allowed p) (fun _ a _ => hk a) (fun _ _ _ => nofun) fun _ _ => nofun

theorem Yields.attempt {P : α → Prop} (h : p.Yields P) :
    p.attempt.Yields fun x => ∀ a, x = .ok a → P a := by
  refine Ensures.attempt h ?_ (fun _ _ _ _ ho => by cases ho; exact nofun) fun _ _ => nofun
  intro es a ha x ho b hb
  cases ho
  cases hb
  exact ha a rfl

theorem Yields.onCancel {P : α → Prop} (last : Program Unit) (h : p.Yields P) :
    (p.onCancel last).Yields P := by
  induction p with
  | done a => exact h
  | failed f => exact h
  | cancelled =>
    refine yields_bind fun _ => ?_
    intro a ha
    cases ha
  | ask r next ih => exact fun x hx => ih x (h x hx)

/-- Programs that go on alike from every value of the first are the same. -/
theorem bind_congr_of_yields {k' : α → Program β} (h : p.Yields fun a => k a = k' a) :
    p >>= k = p >>= k' := by
  show p.bind k = p.bind k'
  induction p with
  | done a => exact h a rfl
  | failed f => rfl
  | cancelled => rfl
  | ask r next ih =>
    simp only [Program.bind]
    congr 1
    funext x
    exact ih x (h x trivial)

/-! ## Dialogues with a responder -/

/-- What a program ensures holds of its dialogue with a responder that answers as allowed. -/
theorem Ensures.dialogue {env : Responder} (h : p.Ensures allowed Q)
    (henv : ∀ before r, allowed ⟨r, env.answer before r⟩) (before : List Exchange) :
    Q (p.dialogue env before).1 (p.dialogue env before).2 := by
  induction p generalizing Q before with
  | done a => exact h
  | failed f => exact h
  | cancelled => exact h
  | ask r next ih => exact ih _ (h _ (henv before r)) _

/-- The dialogue of one program after another. -/
theorem dialogue_bind (env : Responder) (before : List Exchange) (p : Program α)
    (k : α → Program β) :
    (p >>= k).dialogue env before =
      match p.dialogue env before with
      | (es, .done a) =>
        let rest := (k a).dialogue env (before ++ es)
        (es ++ rest.1, rest.2)
      | (es, .failed f) => (es, .failed f)
      | (es, .cancelled) => (es, .cancelled) := by
  show (p.bind k).dialogue env before = _
  induction p generalizing before with
  | done a => simp [Program.bind, dialogue]
  | failed f => rfl
  | cancelled => rfl
  | ask r next ih =>
    simp only [Program.bind, dialogue]
    rw [ih]
    split <;> rename_i heq <;> simp [heq]

end Program

end Automation
