import Automation.Proofs.Flow.Path
import Automation.Proofs.Runner.Visit

/-!
# What a run is to do

A run said without its loop, its guard and its records: the nodes on the path of the recipient are
attended one after the other, and a `Tally` is kept of the nodes attended, of the waits and of the
messages. What stops a run is the first node that breaks a limit, has a delay without a length or
sends a message that is not accepted. The limits are stated here as numbers.
-/

set_option autoImplicit false

namespace Automation

namespace Runner

/-- What is kept of a run on its way: how many nodes it attended, its waits in milliseconds, the id
of the node at which it stands, the time in microseconds, the replies to come and the messages it
posted. -/
structure Tally where
  steps : Nat
  waits : List Int
  stands : Option String
  clock : Int
  mail : MailScript
  posts : List Mail.Post

namespace Tally

/-- The tally of a run that has not begun, in a world. -/
def begin (w : World) : Tally := ⟨0, [], none, w.clock, w.mail, []⟩

/-- The tally with one more node attended. -/
def step (t : Tally) : Tally := { t with steps := t.steps + 1 }

/-- The tally after a wait. -/
def wait (t : Tally) (ms : Int) : Tally :=
  { t with waits := t.waits ++ [ms], clock := t.clock + 1000 * ms }

/-- The tally after a message is posted. -/
def post (t : Tally) (p : Mail.Post) : Tally :=
  { t with mail := t.mail.next.2, posts := t.posts ++ [p] }

/-- Whether a message is accepted, and the tally after it. -/
def send (t : Tally) (address subject body : String) : Notifier → Bool × Tally
  | .nobody => (false, t)
  | .mailer m =>
    match m.target with
    | .error _ => (false, t)
    | .ok target =>
      (Mailer.isDelivered target t.mail.next.1, t.post (m.letter target address subject body))

/-- What a run does at a node, or how it is stopped there: a message is to be accepted, and a wait
is to last at most six hours, and no more than a day together with the waits before. -/
def attend (r : Runner) (recipient : String) (t : Tally) (n : Node) : Except Tally Tally :=
  match n.payload with
  | .action message _ =>
    match t.send recipient r.subject (bodyOf message) r.notifier with
    | (true, t) => .ok t.step
    | (false, t) => .error t
  | .delay d =>
    match d.milliseconds (.ofInstant t.clock) with
    | .ok ms =>
      if 0 ≤ ms ∧ ms ≤ 21600000 ∧ t.waits.sum + ms ≤ 86400000 then .ok (t.wait ms).step
      else .error t
    | .error _ => .error t
  | _ => .ok t.step

/-- A run goes on to a node unless it attended a hundred. -/
def visit (r : Runner) (recipient : String) (t : Tally) (n : Node) : Except Tally Tally :=
  if t.steps < 100 then { t with stands := some n.id }.attend r recipient n else .error t

/-- The tally with which a run ends, whether it is stopped or not. -/
def last : Except Tally Tally → Tally
  | .ok t | .error t => t

end Tally

/-- The tally of a run of a flow that begins in a world, after the whole path or where it is
stopped. -/
def reference (r : Runner) (flow : Flow) (recipient : String) (w : World) : Except Tally Tally :=
  (flow.path recipient).foldlM (Tally.visit r recipient) (Tally.begin w)

/-! ## The first node that stops a run -/

namespace Tally

variable {r : Runner} {recipient : String} {t t' : Tally} {n : Node}

theorem send_frame (t : Tally) (address subject body : String) (notifier : Notifier) :
    (t.send address subject body notifier).2.steps = t.steps ∧
      (t.send address subject body notifier).2.waits = t.waits ∧
      (t.send address subject body notifier).2.stands = t.stands := by
  unfold send
  split
  · exact ⟨rfl, rfl, rfl⟩
  · split <;> exact ⟨rfl, rfl, rfl⟩

/-- To attend a node counts as one step. -/
theorem attend_eq_ok (h : t.attend r recipient n = .ok t') :
    t'.steps = t.steps + 1 ∧ t'.stands = t.stands := by
  unfold attend at h
  split at h
  · rename_i message extras hpayload
    obtain ⟨hsteps, -, hstands⟩ := t.send_frame recipient r.subject (bodyOf message) r.notifier
    split at h
    · rename_i t'' hsend
      rw [hsend] at hsteps hstands
      cases h
      exact ⟨congrArg (· + 1) hsteps, hstands⟩
    · cases h
  · split at h
    · split at h
      · cases h
        exact ⟨rfl, rfl⟩
      · cases h
    · cases h
  · cases h
    exact ⟨rfl, rfl⟩

/-- A node that stops a run does not count. -/
theorem attend_eq_error (h : t.attend r recipient n = .error t') :
    t'.steps = t.steps ∧ t'.waits = t.waits ∧ t'.stands = t.stands := by
  unfold attend at h
  split at h
  · rename_i message extras hpayload
    have hframe := t.send_frame recipient r.subject (bodyOf message) r.notifier
    split at h
    · cases h
    · rename_i t'' hsend
      rw [hsend] at hframe
      cases h
      exact hframe
  · split at h
    · split at h
      · cases h
      · cases h
        exact ⟨rfl, rfl, rfl⟩
    · cases h
      exact ⟨rfl, rfl, rfl⟩
  · cases h

theorem visit_eq_ok (h : t.visit r recipient n = .ok t') :
    t'.steps = t.steps + 1 ∧ t'.stands = some n.id := by
  unfold visit at h
  split at h
  · exact attend_eq_ok h
  · cases h

theorem visit_eq_error (h : t.visit r recipient n = .error t') :
    t'.steps = t.steps ∧ t'.waits = t.waits ∧
      t'.stands = if t.steps < 100 then some n.id else t.stands := by
  unfold visit at h
  by_cases hfew : t.steps < 100
  · rw [if_pos hfew] at h ⊢
    exact attend_eq_error h
  · rw [if_neg hfew] at h ⊢
    cases h
    exact ⟨rfl, rfl, rfl⟩

/-- A path stops no run when its first node does not and the nodes after that one do not. -/
theorem foldlM_cons_eq_ok {rest : List Node} :
    (n :: rest).foldlM (visit r recipient) t = .ok t' ↔ ∃ reached,
      t.visit r recipient n = .ok reached ∧ rest.foldlM (visit r recipient) reached = .ok t' := by
  rw [List.foldlM_cons]
  cases t.visit r recipient n with
  | error t'' =>
    constructor
    · intro h
      cases h
    · rintro ⟨reached, h, -⟩
      cases h
  | ok t'' =>
    constructor
    · exact fun h => ⟨t'', rfl, h⟩
    · rintro ⟨reached, h, hrest⟩
      cases h
      exact hrest

/-- Every node of a path that stops no run counts as one step. -/
theorem steps_of_foldlM {path : List Node} (h : path.foldlM (visit r recipient) t = .ok t') :
    t'.steps = t.steps + path.length := by
  induction path generalizing t with
  | nil =>
    cases h
    rfl
  | cons n rest ih =>
    obtain ⟨reached, hvisit, hrest⟩ := foldlM_cons_eq_ok.1 h
    rw [ih hrest, (visit_eq_ok hvisit).1, List.length_cons]
    omega

/-- A run that is not stopped stands at the last node of its path. -/
theorem stands_of_foldlM {path : List Node} (h : path.foldlM (visit r recipient) t = .ok t') :
    t'.stands = (path.getLast?.map Node.id).or t.stands := by
  induction path generalizing t with
  | nil =>
    cases h
    rfl
  | cons n rest ih =>
    obtain ⟨reached, hvisit, hrest⟩ := foldlM_cons_eq_ok.1 h
    rw [ih hrest, (visit_eq_ok hvisit).2, List.getLast?_cons]
    cases rest.getLast? <;> rfl

/-- When a run is stopped, it is by one node, and it attended all nodes before that one. -/
theorem exists_stop_of_foldlM {path : List Node}
    (h : path.foldlM (visit r recipient) t = .error t') :
    ∃ before n after reached, path = before ++ n :: after ∧
      before.foldlM (visit r recipient) t = .ok reached ∧
      reached.visit r recipient n = .error t' := by
  induction path generalizing t with
  | nil => cases h
  | cons n rest ih =>
    rw [List.foldlM_cons] at h
    cases hvisit : t.visit r recipient n with
    | error t'' =>
      rw [hvisit] at h
      cases h
      exact ⟨[], n, rest, t, rfl, rfl, hvisit⟩
    | ok t'' =>
      rw [hvisit] at h
      obtain ⟨before, m, after, reached, rfl, hbefore, hstop⟩ := ih h
      exact ⟨n :: before, m, after, reached, rfl, foldlM_cons_eq_ok.2 ⟨t'', hvisit, hbefore⟩, hstop⟩

/-- A run that is stopped stands at the node that stopped it, but for the limit of nodes. -/
theorem stands_of_stop {before : List Node} {reached : Tally} (hbegin : t.steps = 0)
    (hbefore : before.foldlM (visit r recipient) t = .ok reached)
    (hstop : reached.visit r recipient n = .error t') :
    ∃ node, t'.stands = some node ∧ (before.length < 100 → node = n.id) := by
  have hcount : reached.steps = before.length := by
    rw [steps_of_foldlM hbefore, hbegin, Nat.zero_add]
  obtain ⟨-, -, hstands⟩ := visit_eq_error hstop
  rw [hcount] at hstands
  by_cases hfew : before.length < 100
  · exact ⟨n.id, by rw [hstands, if_pos hfew], fun _ => rfl⟩
  · cases hlast : before.getLast? with
    | none =>
      rw [List.getLast?_eq_none_iff] at hlast
      -- a hundred nodes came before, so there is a last one
      simp [hlast] at hfew
    | some m =>
      refine ⟨m.id, ?_, fun h => absurd h hfew⟩
      rw [hstands, if_neg hfew, stands_of_foldlM hbefore, hlast]
      rfl

end Tally

end Runner

end Automation
