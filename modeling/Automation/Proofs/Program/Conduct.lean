import Automation.Proofs.Program.Dialogue

/-!
# The conduct of programs

`Program.Leads` follows a program from one request to the next, through a state that others may
share and that every exchange moves. A `Setting` adds which requests fit a state, and
`Program.Upholds` is the judgement that a program makes only requests that fit, whatever is
answered, and ends as a condition says. What a program upholds it upholds at every point of its way
(`Upholds.leads`), so the judgement speaks of a program that is not yet at its end, as
`Program.Ensures` speaks of one that is.
-/

set_option autoImplicit false

namespace Automation

open World (Outcome)

/-- What a program meets: the requests that fit a state, and where an exchange may lead. -/
structure Setting (σ : Type) where
  fits : σ → Request → Prop
  moves : σ → Exchange → σ → Prop

variable {σ α β : Type} {c : Setting σ}

/-- A program on its way, one answered request after the other. -/
inductive Program.Leads (moves : σ → Exchange → σ → Prop) : σ → Program α → σ → Program α → Prop
  | refl (s : σ) (p : Program α) : Leads moves s p s p
  | step {s s' s'' : σ} {r : Request} {next : r.Answer → Program α} {x : r.Answer}
      {p : Program α} (hmoves : moves s ⟨r, x⟩ s') (hrest : Leads moves s' (next x) s'' p) :
      Leads moves s (.ask r next) s'' p

/-- Requests of a kind fit wherever a condition holds, and exchanges of that kind keep it. -/
def Setting.Keeps (c : Setting σ) (kind : Request → Prop) (I : σ → Prop) : Prop :=
  ∀ s r, kind r → I s → c.fits s r ∧ ∀ (x : r.Answer) s', c.moves s ⟨r, x⟩ s' → I s'

namespace Request

/-- The time, an entry for the journal, or a client of the store. -/
def IsQuiet : Request → Prop
  | .clock | .report _ | .connect => True
  | _ => False

theorem IsQuiet.eq {r : Request} (h : r.IsQuiet) :
    r = .clock ∨ (∃ e, r = .report e) ∨ r = .connect := by
  cases r with
  | clock => exact Or.inl rfl
  | report e => exact Or.inr (Or.inl ⟨e, rfl⟩)
  | connect => exact Or.inr (Or.inr rfl)
  | _ => exact h.elim

/-- A request that begins no run. -/
def LaunchesNone : Request → Prop
  | .launch .. => False
  | _ => True

theorem IsQuiet.launchesNone {r : Request} (h : r.IsQuiet) : r.LaunchesNone := by
  cases r <;> trivial

/-- A new or a changed audit entry. -/
def IsAudit : Request → Prop
  | .query (.insert .executionLogs _) | .query (.change .executionLogs ..) => True
  | _ => False

theorem IsAudit.eq {r : Request} (h : r.IsAudit) :
    (∃ fields, r = .query (.insert .executionLogs fields)) ∨
      ∃ id changes, r = .query (.change .executionLogs id changes) := by
  unfold IsAudit at h
  split at h
  · exact Or.inl ⟨_, rfl⟩
  · exact Or.inr ⟨_, _, rfl⟩
  · exact h.elim

end Request

namespace Program

/-- Whatever is answered, the program makes only requests that fit, and at its end the condition
holds. -/
def Upholds (c : Setting σ) : Program α → σ → (σ → Outcome α → Prop) → Prop
  | .done a, s, Q => Q s (.done a)
  | .failed f, s, Q => Q s (.failed f)
  | .cancelled, s, Q => Q s .cancelled
  | .ask r next, s, Q => c.fits s r ∧ ∀ (x : r.Answer) s', c.moves s ⟨r, x⟩ s' →
    (next x).Upholds c s' Q

/-- Whatever is answered, all requests are of a kind. -/
def Asks (kind : Request → Prop) : Program α → Prop
  | .done _ => True
  | .failed _ => True
  | .cancelled => True
  | .ask r next => kind r ∧ ∀ x, (next x).Asks kind

variable {p : Program α} {k : α → Program β} {s s' : σ} {Q : σ → Outcome α → Prop}
  {R : σ → Outcome β → Prop} {I : σ → Prop} {kind : Request → Prop}

theorem Upholds.mono {Q' : σ → Outcome α → Prop} (h : p.Upholds c s Q)
    (hQ : ∀ s o, Q s o → Q' s o) : p.Upholds c s Q' := by
  induction p generalizing s with
  | done a => exact hQ _ _ h
  | failed f => exact hQ _ _ h
  | cancelled => exact hQ _ _ h
  | ask r next ih => exact ⟨h.1, fun x s' hs' => ih x (h.2 x s' hs')⟩

theorem Upholds.and {Q' : σ → Outcome α → Prop} (h : p.Upholds c s Q) (h' : p.Upholds c s Q') :
    p.Upholds c s fun s o => Q s o ∧ Q' s o := by
  induction p generalizing s with
  | done a => exact ⟨h, h'⟩
  | failed f => exact ⟨h, h'⟩
  | cancelled => exact ⟨h, h'⟩
  | ask r next ih => exact ⟨h.1, fun x s' hs' => ih x (h.2 x s' hs') (h'.2 x s' hs')⟩

/-! ## One rule for each way of building programs -/

/-- One program after another: the second goes on from where the first ends. -/
theorem Upholds.bind (h : p.Upholds c s Q) (hdone : ∀ s a, Q s (.done a) → (k a).Upholds c s R)
    (hfailed : ∀ s f, Q s (.failed f) → R s (.failed f))
    (hcancelled : ∀ s, Q s .cancelled → R s .cancelled) : (p >>= k).Upholds c s R := by
  show (p.bind k).Upholds c s R
  induction p generalizing s with
  | done a => exact hdone s a h
  | failed f => exact hfailed s f h
  | cancelled => exact hcancelled s h
  | ask r next ih => exact ⟨h.1, fun x s' hs' => ih x (h.2 x s' hs')⟩

/-- One program after another that always ends with a value. -/
theorem Upholds.bind_done {P : σ → α → Prop}
    (h : p.Upholds c s fun s o => ∃ a, o = .done a ∧ P s a)
    (hdone : ∀ s a, P s a → (k a).Upholds c s R) : (p >>= k).Upholds c s R := by
  refine h.bind ?_ ?_ ?_
  · rintro s a ⟨a', ha, hP⟩
    cases ha
    exact hdone s a hP
  · rintro s f ⟨a, ha, -⟩
    cases ha
  · rintro s ⟨a, ha, -⟩
    cases ha

/-- One program after another that always ends with one value. -/
theorem Upholds.bind_eq {a : α} {P : σ → Prop}
    (h : p.Upholds c s fun s o => o = .done a ∧ P s)
    (hdone : ∀ s, P s → (k a).Upholds c s R) : (p >>= k).Upholds c s R := by
  refine Upholds.bind_done (P := fun s a' => a' = a ∧ P s) (h.mono fun s o ho => ?_) ?_
  · exact ⟨a, ho.1, rfl, ho.2⟩
  · rintro s a' ⟨rfl, hs⟩
    exact hdone s hs

/-- One program after another that ends well. -/
theorem Upholds.bind_unit {p : Program Unit} {k : Unit → Program β} {P : σ → Prop}
    (h : p.Upholds c s fun s o => o = .done () ∧ P s)
    (hdone : ∀ s, P s → (k ()).Upholds c s R) : (p >>= k).Upholds c s R :=
  h.bind_eq hdone

/-- One program after another, the first of which ends with a value or fails. -/
theorem Upholds.bind_orFailed {P : σ → α → Prop} {I : σ → Prop}
    (h : p.Upholds c s fun s o => (∃ a, o = .done a ∧ P s a) ∨ (∃ f, o = .failed f) ∧ I s)
    (hdone : ∀ s a, P s a → (k a).Upholds c s R) (hfailed : ∀ s f, I s → R s (.failed f)) :
    (p >>= k).Upholds c s R := by
  refine h.bind ?_ ?_ ?_
  · rintro s a (⟨a', ha, hP⟩ | ⟨⟨f, hf⟩, -⟩)
    · cases ha
      exact hdone s a hP
    · cases hf
  · rintro s f (⟨a, ha, -⟩ | ⟨-, hs⟩)
    · cases ha
    · exact hfailed s f hs
  · rintro s (⟨a, ha, -⟩ | ⟨⟨f, hf⟩, -⟩) <;> cases ‹_›

/-- A program that asks for the time first. -/
theorem upholds_now_bind {k : Moment → Program β} :
    (Program.now >>= k).Upholds c s R ↔
      c.fits s .clock ∧ ∀ now s', c.moves s ⟨.clock, now⟩ s' → (k now).Upholds c s' R := Iff.rfl

/-- An attempt ends with the failure as its value. -/
theorem Upholds.attempt {R : σ → Outcome (Except Failure α) → Prop} (h : p.Upholds c s Q)
    (hdone : ∀ s a, Q s (.done a) → R s (.done (.ok a)))
    (hfailed : ∀ s f, Q s (.failed f) → R s (.done (.error f)))
    (hcancelled : ∀ s, Q s .cancelled → R s .cancelled) : p.attempt.Upholds c s R := by
  induction p generalizing s with
  | done a => exact hdone s a h
  | failed f => exact hfailed s f h
  | cancelled => exact hcancelled s h
  | ask r next ih => exact ⟨h.1, fun x s' hs' => ih x (h.2 x s' hs')⟩

/-- An attempt at a program that is not cancelled has its end as a value. -/
theorem Upholds.attempt_outcomeOf {P : σ → Except Failure α → Prop}
    (h : p.Upholds c s fun s o => ∃ x, o = outcomeOf x ∧ P s x) :
    p.attempt.Upholds c s fun s o => ∃ x, o = .done x ∧ P s x := by
  refine h.attempt ?_ ?_ ?_
  · rintro s a ⟨x, ho, hx⟩
    cases x <;> cases ho
    exact ⟨_, rfl, hx⟩
  · rintro s f ⟨x, ho, hx⟩
    cases x <;> cases ho
    exact ⟨_, rfl, hx⟩
  · rintro s ⟨x, ho, -⟩
    cases x <;> cases ho

/-- An attempt at a program that always ends with one value has it as its value. -/
theorem Upholds.attempt_eq {a : α} {P : σ → Prop}
    (h : p.Upholds c s fun s o => o = .done a ∧ P s) :
    p.attempt.Upholds c s fun s o => o = .done (.ok a) ∧ P s := by
  refine h.attempt ?_ ?_ ?_
  · rintro s a' ⟨ha, hs⟩
    cases ha
    exact ⟨rfl, hs⟩
  · rintro s f ⟨ho, -⟩
    cases ho
  · rintro s ⟨ho, -⟩
    cases ho

/-- A program that is cancelled ends with what is then to be done. -/
theorem Upholds.onCancel {last : Program Unit} {R : σ → Outcome α → Prop} (h : p.Upholds c s Q)
    (hdone : ∀ s a, Q s (.done a) → R s (.done a))
    (hfailed : ∀ s f, Q s (.failed f) → R s (.failed f))
    (hcancelled : ∀ s, Q s .cancelled → last.Upholds c s fun s o => o = .done () ∧ R s .cancelled) :
    (p.onCancel last).Upholds c s R := by
  induction p generalizing s with
  | done a => exact hdone s a h
  | failed f => exact hfailed s f h
  | cancelled =>
    refine (hcancelled s h).bind ?_ ?_ ?_
    · exact fun s _ hs => hs.2
    · rintro s f ⟨ho, -⟩
      cases ho
    · rintro s ⟨ho, -⟩
      cases ho
  | ask r next ih => exact ⟨h.1, fun x s' hs' => ih x (h.2 x s' hs')⟩

@[simp] theorem upholds_pure {a : α} :
    (pure a : Program α).Upholds c s Q ↔ Q s (.done a) := Iff.rfl

@[simp] theorem upholds_failed {f : Failure} :
    (Program.failed f : Program α).Upholds c s Q ↔ Q s (.failed f) := Iff.rfl

/-! ## At every point of the way -/

/-- What a program upholds it upholds at every point of its way. -/
theorem Upholds.leads {p' : Program α} (h : p.Upholds c s Q)
    (hleads : Leads c.moves s p s' p') : p'.Upholds c s' Q := by
  induction hleads with
  | refl s p => exact h
  | step hmoves hrest ih => exact ih (h.2 _ _ hmoves)

/-- What holds wherever a request fits and wherever the program may end holds all the way. -/
theorem Upholds.holds {G : σ → Prop} {p' : Program α} (h : p.Upholds c s Q)
    (hfits : ∀ s r, c.fits s r → G s) (hends : ∀ s o, Q s o → G s)
    (hleads : Leads c.moves s p s' p') : G s' := by
  have h' := h.leads hleads
  cases p' with
  | done a => exact hends _ _ h'
  | failed f => exact hends _ _ h'
  | cancelled => exact hends _ _ h'
  | ask r next => exact hfits _ _ h'.1

/-- The values of a program have what every value of it has. -/
theorem Upholds.and_yields {P : α → Prop} (h : p.Upholds c s Q) (hyields : p.Yields P) :
    p.Upholds c s fun s o => Q s o ∧ ∀ a, o = .done a → P a := by
  induction p generalizing s with
  | done a => exact ⟨h, hyields⟩
  | failed f => exact ⟨h, hyields⟩
  | cancelled => exact ⟨h, hyields⟩
  | ask r next ih => exact ⟨h.1, fun x s' hs' => ih x (h.2 x s' hs') (hyields x trivial)⟩

/-! ## Kinds of requests -/

theorem Asks.mono {kind' : Request → Prop} (h : p.Asks kind) (hkind : ∀ r, kind r → kind' r) :
    p.Asks kind' := by
  induction p with
  | done a => trivial
  | failed f => trivial
  | cancelled => trivial
  | ask r next ih => exact ⟨hkind r h.1, fun x => ih x (h.2 x)⟩

theorem Asks.bind (h : p.Asks kind) (hk : ∀ a, (k a).Asks kind) : (p >>= k).Asks kind := by
  show (p.bind k).Asks kind
  induction p with
  | done a => exact hk a
  | failed f => trivial
  | cancelled => trivial
  | ask r next ih => exact ⟨h.1, fun x => ih x (h.2 x)⟩

theorem Asks.attempt (h : p.Asks kind) : p.attempt.Asks kind := by
  induction p with
  | done a => trivial
  | failed f => trivial
  | cancelled => trivial
  | ask r next ih => exact ⟨h.1, fun x => ih x (h.2 x)⟩

/-- A program whose requests are of a kind that keeps a condition keeps it, and ends as its
dialogues do. -/
theorem Asks.upholds {allowed : Exchange → Prop} {E : List Exchange → Outcome α → Prop}
    (h : p.Asks kind) (hkeeps : c.Keeps kind I) (hends : p.Ensures allowed E)
    (hallowed : ∀ r (x : r.Answer), kind r → allowed ⟨r, x⟩) (hs : I s) :
    p.Upholds c s fun s o => I s ∧ ∃ es, E es o := by
  induction p generalizing s E with
  | done a => exact ⟨hs, [], hends⟩
  | failed f => exact ⟨hs, [], hends⟩
  | cancelled => exact ⟨hs, [], hends⟩
  | ask r next ih =>
    obtain ⟨hfits, hmoves⟩ := hkeeps s r h.1 hs
    refine ⟨hfits, fun x s' hs' => ?_⟩
    refine (ih x (h.2 x) (hends x (hallowed r x h.1)) (hmoves x s' hs')).mono ?_
    rintro s o ⟨hs, es, hes⟩
    exact ⟨hs, _, hes⟩

/-- A program whose requests are of a kind that keeps a condition keeps it. -/
theorem Asks.keeps (h : p.Asks kind) (hkeeps : c.Keeps kind I) (hs : I s) :
    p.Upholds c s fun s _ => I s :=
  have hends : p.Ensures (fun _ => True) _ := ensures_allowed p
  (h.upholds hkeeps hends (fun _ _ _ => trivial) hs).mono fun _ _ => And.left

end Program

end Automation
