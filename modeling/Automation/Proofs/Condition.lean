import Automation.Condition
import Automation.Proofs.Recipient

/-!
# Chains of rules

A chain is folded from the left, but its result is best read from the right. A rule that joins by
AND and does not hold, or by OR and does, decides: whatever came before it, the result after it is
its own (`Rule.joinTo_of_decides`). Every other rule after the first leaves the result alone
(`Rule.joinTo_of_not_decides`). So the last rule that decides gives the result of the chain, and the
first rule does if none decides (`decided_by_last`).
-/

set_option autoImplicit false

namespace Automation

open Automation.Text

variable {subject : Option String}

namespace Rule

variable {r : Rule} {soFar : Bool}

/-- The rule settles the result of the chain up to it, whatever came before. -/
def Decides (r : Rule) (subject : Option String) : Prop :=
  r.join = some "AND" ∧ r.holds subject = false ∨ r.join = some "OR" ∧ r.holds subject = true

instance (r : Rule) (subject : Option String) : Decidable (r.Decides subject) :=
  inferInstanceAs (Decidable (_ ∨ _))

/-- Whether the join of a rule is one that chains know. -/
def isJoined (r : Rule) : Bool := r.join == some "AND" || r.join == some "OR"

theorem joinTo_of_decides (h : r.Decides subject) : r.joinTo soFar subject = r.holds subject := by
  rcases h with ⟨hjoin, hholds⟩ | ⟨hjoin, hholds⟩
  · simp [joinTo, hjoin, hholds]
  · simp [joinTo, hjoin, hholds]

theorem joinTo_of_not_isJoined (h : r.isJoined = false) : r.joinTo soFar subject = soFar := by
  unfold joinTo
  split
  · rename_i hjoin
    simp [isJoined, hjoin] at h
  · rename_i hjoin
    simp [isJoined, hjoin] at h
  · rfl

theorem joinTo_of_not_decides (h : ¬ r.Decides subject) : r.joinTo soFar subject = soFar := by
  unfold joinTo
  split
  · rename_i hjoin
    have hholds : r.holds subject = true := by simpa [Decides, hjoin] using h
    rw [hholds, Bool.and_true]
  · rename_i hjoin
    have hholds : r.holds subject = false := by simpa [Decides, hjoin] using h
    rw [hholds, Bool.or_false]
  · rfl

/-- A rule finds in a subject what it finds in the form that is kept of one. -/
theorem holds_normal (r : Rule) (subject : Option String) :
    r.holds (subject.map Recipient.normal) = r.holds subject := by
  have hcomparable : comparable (subject.map Recipient.normal) = comparable subject := by
    cases subject with
    | none => rfl
    | some s => exact congrArg String.toList (Recipient.normal_normal s)
  rw [holds, hcomparable, holds]

theorem joinTo_normal :
    r.joinTo soFar (subject.map Recipient.normal) = r.joinTo soFar subject := by
  simp only [joinTo, holds_normal]

end Rule

namespace Condition

/-! ## The rules after the first -/

variable {rest : List Rule} {soFar : Bool}

/-- The result after further rules. -/
def after (subject : Option String) (soFar : Bool) (rest : List Rule) : Bool :=
  rest.foldl (fun soFar r => r.joinTo soFar subject) soFar

theorem holds_cons (first : Rule) (rest : List Rule) :
    holds (first :: rest) subject = after subject (first.holds subject) rest := rfl

theorem after_cons (r : Rule) (rest : List Rule) :
    after subject soFar (r :: rest) = after subject (r.joinTo soFar subject) rest := rfl

theorem after_of_none_decides (h : ∀ r ∈ rest, ¬ r.Decides subject) :
    after subject soFar rest = soFar := by
  induction rest generalizing soFar with
  | nil => rfl
  | cons r rest ih =>
    obtain ⟨hr, hrest⟩ := List.forall_mem_cons.1 h
    rw [after_cons, Rule.joinTo_of_not_decides hr, ih hrest]

theorem after_of_last_decides {r : Rule} (hr : r.Decides subject)
    (hrest : ∀ t ∈ rest, ¬ t.Decides subject) (before : List Rule) :
    after subject soFar (before ++ r :: rest) = r.holds subject := by
  -- the rules before give the deciding one a result to join, and it does not depend on that
  induction before generalizing soFar with
  | nil => rw [List.nil_append, after_cons, Rule.joinTo_of_decides hr, after_of_none_decides hrest]
  | cons t before ih => rw [List.cons_append, after_cons, ih]

/-- Only the rules with a known join count. -/
theorem after_filter_isJoined :
    after subject soFar (rest.filter Rule.isJoined) = after subject soFar rest := by
  induction rest generalizing soFar with
  | nil => rfl
  | cons r rest ih =>
    cases hr : r.isJoined with
    | true => rw [List.filter_cons_of_pos hr, after_cons, after_cons, ih]
    | false =>
      rw [List.filter_cons_of_neg (by simp [hr]), after_cons, Rule.joinTo_of_not_isJoined hr, ih]

theorem after_normal :
    after (subject.map Recipient.normal) soFar rest = after subject soFar rest := by
  simp only [after, Rule.joinTo_normal]

/-! ## Traces -/

theorem traceRest_getLast? (number : Nat) :
    (traceRest subject number soFar rest).getLast? =
      some ("Final evaluation result: " ++ Value.boolWord (after subject soFar rest)) := by
  induction rest generalizing number soFar with
  | nil => rfl
  | cons r rest ih =>
    rw [traceRest, List.getLast?_append_of_ne_nil _ (by simp), List.getLast?_cons, ih, after_cons]
    rfl

/-- The trace of a chain ends with its result. -/
theorem trace_getLast? (rules : List Rule) :
    (trace rules subject).getLast? =
      some (if rules.isEmpty then "No rules found, returning False"
        else "Final evaluation result: " ++ Value.boolWord (holds rules subject)) := by
  cases rules with
  | nil => rfl
  | cons first rest =>
    rw [trace, List.getLast?_cons, List.getLast?_append_of_ne_nil _ (by simp), List.getLast?_cons,
      traceRest_getLast?]
    rfl

/-! ## Whole chains -/

/-- The last rule that decides gives the result of a chain, or the first rule if none decides. The
result is the same when the chain is traced, which ends by telling it. Rules without a known join,
the join of the first rule, and the space and capital letters of the subject do not matter. -/
theorem decided_by_last (subject : Option String) :
    holds [] subject = false ∧
    (∀ first before r rest, r.Decides subject → (∀ t ∈ rest, ¬ t.Decides subject) →
      holds (first :: (before ++ r :: rest)) subject = r.holds subject) ∧
    (∀ first rest, (∀ t ∈ rest, ¬ t.Decides subject) →
      holds (first :: rest) subject = first.holds subject) ∧
    (∀ traced rules, (evaluate traced rules subject).1 = holds rules subject) ∧
    (∀ rules, (evaluate true rules subject).2.getLast? = some (remark
      (if rules.isEmpty then "No rules found, returning False"
        else "Final evaluation result: " ++ Value.boolWord (holds rules subject)))) ∧
    (∀ first rest rest', rest'.filter Rule.isJoined = rest.filter Rule.isJoined →
      holds (first :: rest') subject = holds (first :: rest) subject) ∧
    (∀ (first : Rule) join rest,
      holds ({ first with join } :: rest) subject = holds (first :: rest) subject) ∧
    ∀ rules, holds rules (subject.map Recipient.normal) = holds rules subject := by
  refine ⟨rfl, fun first before r rest hr hrest => after_of_last_decides hr hrest before,
    fun first rest hrest => after_of_none_decides hrest, fun traced rules => rfl, fun rules => ?_,
    fun first rest rest' hsame => ?_, fun first join rest => rfl, fun rules => ?_⟩
  · simp only [evaluate, if_true, List.getLast?_map, trace_getLast?, Option.map_some]
  · rw [holds_cons, holds_cons, ← after_filter_isJoined, hsame, after_filter_isJoined]
  · cases rules with
    | nil => rfl
    | cons first rest => rw [holds_cons, holds_cons, Rule.holds_normal, after_normal]

/-- The third rule of a chain decides: the second joins by OR without holding, and the fourth holds
with a join that no chain knows. -/
theorem decided_by_last_sample :
    holds [⟨"email", some "ends_with", some "example.org", none, []⟩,
        ⟨"email", some "includes", some "bob", some "OR", []⟩,
        ⟨"email", some "starts_with", some " Lee", some "AND", []⟩,
        ⟨"email", some "includes", some "ANN", some "XOR", []⟩]
      (some "Ann@Example.org") = false := by
  have hthird : (⟨"email", some "starts_with", some " Lee", some "AND", []⟩ : Rule).holds
      (some "Ann@Example.org") = false := by decide +kernel
  rw [← hthird]
  refine (decided_by_last (some "Ann@Example.org")).2.1 _
    [⟨"email", some "includes", some "bob", some "OR", []⟩] _ _ ?_ ?_
  · exact .inl ⟨rfl, hthird⟩
  · decide +kernel

end Condition

end Automation
