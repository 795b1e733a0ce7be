import Automation.Proofs.Flow.WellFormed
import Automation.Runner
import Mathlib.Data.List.Perm.Subperm

/-!
# Walks through a flow

The node after a node, as a run chooses it (`follow?`), and the walks that come about when the
conditions on the way evaluate in any way at all. In a well-formed flow a walk goes on from every
node but the end, meets no node twice, and so arrives at the end after at most as many visits as the
flow has nodes.
-/

set_option autoImplicit false

namespace Automation

open Automation.Text

/-- How the condition at a node evaluates for a recipient. -/
def Node.outcome (n : Node) (recipient : String) : Bool :=
  match n.payload with
  | .condition rules _ => Condition.holds rules (some recipient)
  | _ => false

/-- A condition evaluates as its rules do. -/
theorem Node.outcome_of_condition {n : Node} {rules : List Rule} {extras : Fields}
    (h : n.payload = .condition rules extras) (recipient : String) :
    n.outcome recipient = Condition.holds rules (some recipient) := by
  rw [Node.outcome, h]

namespace Flow

/-- The node after a node: along the edge for the outcome from a condition, along the first edge
from any other node that can be left. -/
def follow? (flow : Flow) (n : Node) (outcome : Bool) : Option Node :=
  match n.payload with
  | .condition .. => (Runner.branch? flow n.id outcome).bind fun e => flow.node? e.target
  | .finish _ | .foreign .. => none
  | .start _ | .action .. | .delay _ => flow.next? n.id

/-- The walks from the start, the last node first, when a condition evaluates as chosen in view of
the nodes visited so far. -/
inductive Walk (flow : Flow) (choose : List Node → Bool) : List Node → Prop
  | start {s : Node} (h : flow.start? = some s) : Walk flow choose [s]
  | step {n m : Node} {before : List Node} (h : Walk flow choose (n :: before))
      (hm : flow.follow? n (choose (n :: before)) = some m) : Walk flow choose (m :: n :: before)

variable {flow : Flow} {choose : List Node → Bool} {n m : Node} {before : List Node}

/-! ## The next node -/

/-- A condition is left along the edge for its outcome. -/
theorem follow?_of_condition {rules : List Rule} {extras : Fields}
    (h : n.payload = .condition rules extras) (outcome : Bool) : flow.follow? n outcome =
      (Runner.branch? flow n.id outcome).bind fun e => flow.node? e.target := by
  rw [follow?, h]

theorem next?_eq_some {id : String} (h : flow.next? id = some m) :
    m ∈ flow.nodes ∧ flow.Leads id m.id := by
  obtain ⟨e, he, hm⟩ := Option.bind_eq_some_iff.1 h
  obtain ⟨hmem, hid⟩ := node?_eq_some hm
  exact ⟨hmem, hid ▸ leads_of_outgoing (List.mem_of_head? he)⟩

/-- The next node is a node of the flow, and an edge leads to it. -/
theorem follow?_eq_some {outcome : Bool} (h : flow.follow? n outcome = some m) :
    m ∈ flow.nodes ∧ flow.Leads n.id m.id := by
  unfold follow? at h
  split at h
  · obtain ⟨e, he, hm⟩ := Option.bind_eq_some_iff.1 h
    obtain ⟨hmem, hid⟩ := node?_eq_some hm
    exact ⟨hmem, hid ▸ leads_of_outgoing (List.mem_of_find?_eq_some he)⟩
  · cases h
  · cases h
  · exact next?_eq_some h
  · exact next?_eq_some h
  · exact next?_eq_some h

/-- An edge of a flow whose edges are anchored has a node at its target. -/
theorem WellFormed.exists_node? (h : flow.WellFormed) {e : Edge} (he : e ∈ flow.edges) :
    ∃ m, flow.node? e.target = some m := by
  obtain ⟨m, hm, hid⟩ := (h.anchored e he).2
  exact ⟨m, hid ▸ node?_of_mem h.distinct_ids hm⟩

/-- A label in capitals is the one for the outcome that it names. -/
theorem upper_branchLabel (outcome : Bool) :
    upper (Value.optionWord (some (Runner.branchLabel outcome))) = Runner.branchLabel outcome := by
  cases outcome <;> decide

/-- Some edge of a condition is for the outcome. -/
theorem WellFormed.exists_branch? (h : flow.WellFormed) (hn : n ∈ flow.nodes)
    (hcond : n.type = "condition") (outcome : Bool) :
    ∃ e ∈ flow.edges, Runner.branch? flow n.id outcome = some e := by
  have hlabel : some (Runner.branchLabel outcome) ∈ (flow.outgoing n.id).map Edge.label := by
    rw [(h.branching n hn hcond).mem_iff]
    cases outcome <;> simp [Runner.branchLabel]
  obtain ⟨e, he, hlabel⟩ := List.mem_map.1 hlabel
  cases hbranch : Runner.branch? flow n.id outcome with
  | none =>
    refine absurd ?_ (List.find?_eq_none.1 hbranch e he)
    rw [hlabel, upper_branchLabel, beq_self_eq_true]
  | some e' => exact ⟨e', (mem_outgoing.1 (List.mem_of_find?_eq_some hbranch)).1, rfl⟩

theorem WellFormed.exists_next? (h : flow.WellFormed) (hn : n ∈ flow.nodes)
    (hend : n.type ≠ "end") : ∃ m, flow.next? n.id = some m := by
  obtain ⟨e, rest, hout⟩ := List.exists_cons_of_ne_nil (h.continuing n hn hend)
  have he : e ∈ flow.outgoing n.id := by
    rw [hout]
    exact List.mem_cons_self
  obtain ⟨m, hm⟩ := h.exists_node? (mem_outgoing.1 he).1
  refine ⟨m, ?_⟩
  unfold next?
  rw [hout]
  exact hm

/-- In a well-formed flow every node but the end has a next node, whatever the outcome. -/
theorem WellFormed.exists_follow? (h : flow.WellFormed) (hn : n ∈ flow.nodes)
    (hend : n.type ≠ "end") (outcome : Bool) : ∃ m, flow.follow? n outcome = some m := by
  have hknown := h.known_types n hn
  unfold follow?
  cases hpayload : n.payload with
  | start extras => exact h.exists_next? hn hend
  | action message extras => exact h.exists_next? hn hend
  | delay d => exact h.exists_next? hn hend
  | condition rules extras =>
    have hcond : n.type = "condition" := by rw [Node.type, hpayload]; rfl
    obtain ⟨e, he, hbranch⟩ := h.exists_branch? hn hcond outcome
    obtain ⟨m, hm⟩ := h.exists_node? he
    exact ⟨m, by simp [hbranch, hm]⟩
  | finish extras =>
    refine absurd ?_ hend
    rw [Node.type, hpayload]
    rfl
  | foreign type hforeign settings =>
    rw [Node.type, hpayload] at hknown
    exact absurd hknown hforeign

theorem WellFormed.exists_start? (h : flow.WellFormed) : ∃ s, flow.start? = some s := by
  obtain ⟨s, hs⟩ := List.length_eq_one_iff.1 h.one_start
  refine ⟨s, ?_⟩
  rw [start?, hs]
  rfl

/-- A node of the type of the end is the end. -/
theorem WellFormed.nodesOfType_end (h : flow.WellFormed) (hn : n ∈ flow.nodes)
    (hend : n.type = "end") : flow.nodesOfType "end" = [n] := by
  obtain ⟨last, hlast⟩ := List.length_eq_one_iff.1 h.one_end
  have hmem := mem_nodesOfType.2 ⟨hn, hend⟩
  rw [hlast] at hmem ⊢
  rw [List.mem_singleton.1 hmem]

/-! ## Walks -/

theorem Walk.mem (h : flow.Walk choose before) : ∀ n ∈ before, n ∈ flow.nodes := by
  induction h with
  | start hs =>
    intro n hn
    rw [List.mem_singleton.1 hn]
    exact (start?_eq_some hs).1
  | step _ hm ih =>
    intro n hn
    rcases List.mem_cons.1 hn with rfl | hn
    · exact (follow?_eq_some hm).1
    · exact ih n hn

/-- Every node of a walk leads on, edge by edge, to the last one. -/
theorem Walk.leads_on (h : flow.Walk choose (n :: before)) :
    ∀ m ∈ before, Relation.TransGen flow.Leads m.id n.id := by
  generalize hns : n :: before = ns at h
  induction h generalizing n before with
  | start _ =>
    obtain ⟨-, rfl⟩ := List.cons.inj hns
    exact fun m hm => absurd hm List.not_mem_nil
  | step _ hm ih =>
    obtain ⟨rfl, rfl⟩ := List.cons.inj hns
    have hlead := (follow?_eq_some hm).2
    intro m hm'
    rcases List.mem_cons.1 hm' with rfl | hm'
    · exact Relation.TransGen.single hlead
    · exact (ih rfl m hm').tail hlead

/-- Without loops a walk meets no id twice. -/
theorem Walk.nodup (h : flow.Walk choose before) (hacyclic : flow.IsAcyclic) :
    (before.map Node.id).Nodup := by
  induction h with
  | start _ => exact List.nodup_singleton _
  | step hwalk hm ih =>
    rw [List.map_cons, List.nodup_cons]
    refine ⟨fun hin => ?_, ih⟩
    obtain ⟨m', hm', hid⟩ := List.mem_map.1 hin
    -- an id met twice would lead to itself
    have hback := (hwalk.step hm).leads_on m' hm'
    rw [hid] at hback
    exact hacyclic _ hback

/-- Without loops a walk has at most as many nodes as the flow. -/
theorem Walk.length_le (h : flow.Walk choose before) (hacyclic : flow.IsAcyclic) :
    before.length ≤ flow.nodes.length := by
  have hsub : before.map Node.id ⊆ flow.nodes.map Node.id :=
    List.map_subset _ h.mem
  simpa using (List.subperm_of_subset (h.nodup hacyclic) hsub).length_le

/-- Every walk through a well-formed flow can be carried on to the end. -/
theorem WellFormed.exists_walk_to_end (h : flow.WellFormed)
    (hwalk : flow.Walk choose (n :: before)) :
    ∃ last visited, flow.Walk choose (last :: visited) ∧ last.type = "end" := by
  -- a longer walk leaves less room among the nodes of the flow
  generalize hroom : flow.nodes.length - (n :: before).length = room
  induction room using Nat.strongRecOn generalizing n before with
  | ind room ih =>
    by_cases hend : n.type = "end"
    · exact ⟨n, before, hwalk, hend⟩
    · obtain ⟨m, hm⟩ := h.exists_follow? (hwalk.mem n List.mem_cons_self) hend
        (choose (n :: before))
      have hlonger := (hwalk.step hm).length_le h.acyclic
      refine ih _ ?_ (hwalk.step hm) rfl
      simp only [List.length_cons] at hroom hlonger ⊢
      omega

end Flow

end Automation
