import Automation.Flow.Basic
import Mathlib.Algebra.Ring.Int.Defs
import Mathlib.Algebra.Ring.Nat
import Mathlib.Data.List.Nodup
import Mathlib.Logic.Relation

/-!
# The graph of a flow

A flow as a directed graph on the ids of nodes: `Leads` is one edge, `Reaches` any number of edges
in a row, and `IsAcyclic` says that no id reaches itself along at least one edge. An id from which
the graph can only be followed for finitely many edges (`IsFinite`) reaches no loop.
-/

set_option autoImplicit false

namespace Automation.Flow

variable {flow : Flow} {a b c : String}

/-- Some edge leads from one id to another. -/
def Leads (flow : Flow) (a b : String) : Prop := ∃ e ∈ flow.edges, e.source = a ∧ e.target = b

/-- Edges in a row, perhaps none, lead from one id to another. -/
abbrev Reaches (flow : Flow) : String → String → Prop := Relation.ReflTransGen flow.Leads

/-- An id that lies on a loop: at least one edge leads away from it and back. -/
def IsOnLoop (flow : Flow) (a : String) : Prop := Relation.TransGen flow.Leads a a

/-- No id lies on a loop. -/
def IsAcyclic (flow : Flow) : Prop := ∀ a, ¬ flow.IsOnLoop a

/-- Every way along the edges from an id comes to an end. -/
abbrev IsFinite (flow : Flow) (a : String) : Prop := Acc (fun y x => flow.Leads x y) a

theorem mem_outgoing {e : Edge} : e ∈ flow.outgoing a ↔ e ∈ flow.edges ∧ e.source = a := by
  simp [outgoing]

theorem leads_iff_outgoing : flow.Leads a b ↔ ∃ e ∈ flow.outgoing a, e.target = b := by
  constructor
  · rintro ⟨e, he, hs, ht⟩
    exact ⟨e, mem_outgoing.2 ⟨he, hs⟩, ht⟩
  · rintro ⟨e, he, ht⟩
    obtain ⟨he, hs⟩ := mem_outgoing.1 he
    exact ⟨e, he, hs, ht⟩

theorem leads_of_outgoing {e : Edge} (he : e ∈ flow.outgoing a) : flow.Leads a e.target :=
  leads_iff_outgoing.2 ⟨e, he, rfl⟩

/-- A way that comes to an end meets no loop at its beginning. -/
theorem IsFinite.not_isOnLoop (h : flow.IsFinite a) : ¬ flow.IsOnLoop a := by
  -- a way without end would go round the loop, so the induction is on ways of many edges
  have hswap := h.transGen
  induction hswap with
  | intro x _ ih =>
    intro hx
    have hback : Relation.TransGen (fun y x => flow.Leads x y) x x :=
      Relation.transGen_swap.2 hx
    exact ih x hback h hx

/-- Whatever is reached from an id whose ways all end has ways that all end. -/
theorem IsFinite.of_reaches (h : flow.IsFinite a) (hab : flow.Reaches a b) : flow.IsFinite b := by
  induction hab with
  | refl => exact h
  | tail _ hstep ih => exact ih.inv hstep

/-- An id from which a loop is reached has a way without end. -/
theorem not_isFinite_of_loop (hab : flow.Reaches a b) (hb : flow.IsOnLoop b) :
    ¬ flow.IsFinite a :=
  fun h => (h.of_reaches hab).not_isOnLoop hb

/-- A loop that an edge closes. -/
theorem isOnLoop_of_reaches_of_leads (hab : flow.Reaches a b) (hba : flow.Leads b a) :
    flow.IsOnLoop a :=
  Relation.TransGen.tail' hab hba

/-! ## Look-ups by id -/

/-- The look-up of an id gives a node of the flow with that id. -/
theorem node?_eq_some {n : Node} (h : flow.node? a = some n) : n ∈ flow.nodes ∧ n.id = a := by
  constructor
  · exact List.mem_of_find?_eq_some h
  · simpa using List.find?_some h

/-- When ids are distinct, the look-up of the id of a node gives that node. -/
theorem node?_of_mem (hids : (flow.nodes.map Node.id).Nodup) {n : Node} (hn : n ∈ flow.nodes) :
    flow.node? n.id = some n := by
  cases h : flow.node? n.id with
  | none =>
    have hne := List.find?_eq_none.1 h n hn
    simp at hne
  | some m =>
    obtain ⟨hm, hid⟩ := node?_eq_some h
    rw [List.inj_on_of_nodup_map hids hm hn hid]

/-- A node of a type is one of the nodes, and of that type. -/
theorem mem_nodesOfType {n : Node} {type : String} :
    n ∈ flow.nodesOfType type ↔ n ∈ flow.nodes ∧ n.type = type := by
  simp [nodesOfType]

theorem start?_eq_some {s : Node} (h : flow.start? = some s) :
    s ∈ flow.nodes ∧ s.type = "start" :=
  mem_nodesOfType.1 (List.mem_of_head? h)

end Automation.Flow
