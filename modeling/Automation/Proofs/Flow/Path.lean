import Automation.Proofs.Flow.Walk
import Mathlib.Data.List.Find

/-!
# The path of a recipient

Which nodes a run for a recipient is to visit, said without the runner: from every node there is one
edge that decides, the first one, or at a condition the one labelled with how the condition
evaluates. In a well-formed flow the runner goes on along the edge that decides.
-/

set_option autoImplicit false

namespace Automation.Flow

open Automation.Text

/-- The edge that decides which node comes next for a recipient. -/
def decisive? (flow : Flow) (recipient : String) (n : Node) : Option Edge :=
  match n.payload with
  | .condition rules _ =>
    (flow.outgoing n.id).find? fun e =>
      e.label == some (if Condition.holds rules (some recipient) then "TRUE" else "FALSE")
  | _ => (flow.outgoing n.id).head?

/-- The node to which the edge that decides leads. -/
def successor? (flow : Flow) (recipient : String) (n : Node) : Option Node :=
  (flow.decisive? recipient n).bind fun e => flow.node? e.target

/-- The nodes in a row, beginning with one, to which the edges that decide lead; at most a number of
them. -/
def pathFrom (flow : Flow) (recipient : String) : (most : Nat) → Node → List Node
  | 0, _ => []
  | most + 1, n =>
    n :: match flow.successor? recipient n with
      | none => []
      | some next => flow.pathFrom recipient most next

/-- The nodes that a run for a recipient is to visit. No node comes twice in a flow without loops,
so there are at most as many as the flow has. -/
def path (flow : Flow) (recipient : String) : List Node :=
  match flow.start? with
  | none => []
  | some s => flow.pathFrom recipient flow.nodes.length s

variable {flow : Flow} {n : Node}

/-- Every edge of a condition is labelled with an outcome. -/
theorem WellFormed.label_eq (h : flow.WellFormed) (hn : n ∈ flow.nodes)
    (hcond : n.type = "condition") {e : Edge} (he : e ∈ flow.outgoing n.id) :
    ∃ outcome, e.label = some (Runner.branchLabel outcome) := by
  have hmem := (h.branching n hn hcond).subset (List.mem_map_of_mem he)
  simp only [List.mem_cons, List.not_mem_nil, or_false] at hmem
  rcases hmem with hlabel | hlabel
  · exact ⟨true, hlabel⟩
  · exact ⟨false, hlabel⟩

/-- In a well-formed flow the labels of a condition are told apart with or without regard to their
case. -/
theorem WellFormed.branch?_eq (h : flow.WellFormed) (hn : n ∈ flow.nodes)
    (hcond : n.type = "condition") (outcome : Bool) :
    Runner.branch? flow n.id outcome =
      (flow.outgoing n.id).find? fun e => e.label == some (Runner.branchLabel outcome) := by
  unfold Runner.branch?
  refine List.find?_congr fun e he => ?_
  obtain ⟨other, hlabel⟩ := h.label_eq hn hcond he
  rw [hlabel, upper_branchLabel, Option.some_beq_some]

/-- The runner goes on along the edge that decides. -/
theorem WellFormed.successor?_eq (h : flow.WellFormed) (hn : n ∈ flow.nodes) (recipient : String) :
    flow.successor? recipient n = flow.follow? n (n.outcome recipient) := by
  unfold successor? decisive? follow? Node.outcome
  cases hpayload : n.payload with
  | condition rules extras =>
    have hcond : n.type = "condition" := by rw [Node.type, hpayload]; rfl
    simp only [h.branch?_eq hn hcond, Runner.branchLabel]
  | finish extras =>
    have hend : n.type = "end" := by rw [Node.type, hpayload]; rfl
    simp only [h.end_edges n hn hend, List.head?_nil, Option.bind_none]
  | foreign type hforeign settings =>
    have hknown := h.known_types n hn
    rw [Node.type, hpayload] at hknown
    exact absurd hknown hforeign
  | start extras => rfl
  | action message extras => rfl
  | delay d => rfl

/-- Nothing comes after the end. -/
theorem WellFormed.successor?_of_end (h : flow.WellFormed) (hn : n ∈ flow.nodes)
    (hend : n.type = "end") (recipient : String) : flow.successor? recipient n = none := by
  unfold successor? decisive?
  rw [h.end_edges n hn hend]
  cases n.payload <;> rfl

variable {choose : List Node → Bool} {recipient : String} {before : List Node}

/-- The nodes from a node of a walk that follows the conditions of a recipient stop at the end, if
there may be as many of them as the walk has left. -/
theorem WellFormed.getLast?_pathFrom (h : flow.WellFormed)
    (hchoose : ∀ n before, choose (n :: before) = n.outcome recipient)
    (hwalk : flow.Walk choose (n :: before)) {most : Nat}
    (hmost : flow.nodes.length = before.length + most) :
    ∃ last, (flow.pathFrom recipient most n).getLast? = some last ∧
      flow.nodesOfType "end" = [last] := by
  have hn := hwalk.mem n List.mem_cons_self
  induction most generalizing n before with
  | zero =>
    -- the walk already has as many nodes as the flow, and one more
    have hlength := hwalk.length_le h.acyclic
    simp only [List.length_cons] at hlength
    omega
  | succ most ih =>
    unfold pathFrom
    by_cases hend : n.type = "end"
    · rw [h.successor?_of_end hn hend]
      exact ⟨n, rfl, h.nodesOfType_end hn hend⟩
    · obtain ⟨m, hm⟩ := h.exists_follow? hn hend (n.outcome recipient)
      rw [h.successor?_eq hn, hm]
      have hnext : flow.Walk choose (m :: n :: before) := hwalk.step (by rw [hchoose, hm])
      obtain ⟨last, hlast, honly⟩ :=
        ih hnext (by simp only [List.length_cons]; omega) (follow?_eq_some hm).1
      refine ⟨last, ?_, honly⟩
      rw [List.getLast?_cons, hlast, Option.getD_some]

/-- The path of a recipient stops at the end. -/
theorem WellFormed.getLast?_path (h : flow.WellFormed) (recipient : String) :
    ∃ last, (flow.path recipient).getLast? = some last ∧ flow.nodesOfType "end" = [last] := by
  obtain ⟨s, hs⟩ := h.exists_start?
  have hwalk : flow.Walk (fun visited => visited.head?.any fun n => n.outcome recipient) [s] :=
    Walk.start hs
  unfold path
  rw [hs]
  exact h.getLast?_pathFrom (fun _ _ => rfl) hwalk (Nat.zero_add _).symm

end Automation.Flow
