import Automation.Proofs.Flow.Path
import Mathlib.Data.Set.Finite.Basic
import Mathlib.Order.WellFounded

/-!
# Which nodes a walk can meet

A walk leaves a condition along the edge for the outcome and any other node along its first edge.
So an edge can be closed to all walks, and a node to which only such edges lead is met by none,
although the graph reaches it. In a flow without a defect that is all that can go wrong: the walks
meet every node exactly when some edge that is not closed leads to each node but the start.
-/

set_option autoImplicit false

namespace Automation.Flow

open Automation.Text

/-- An edge along which a walk can go on: any edge of a condition, and of any other node the
first. -/
def IsOpen (flow : Flow) (e : Edge) : Prop :=
  ∃ n ∈ flow.nodes,
    if n.type = "condition" then e ∈ flow.outgoing n.id else (flow.outgoing n.id).head? = some e

/-- The choice by which every condition has the outcome that is chosen for its id. -/
def byId (outcome : String → Bool) : List Node → Bool
  | [] => false
  | n :: _ => outcome n.id

/-- For some choice of outcomes of the conditions, the walk from the start meets a node. -/
def CanMeet (flow : Flow) (n : Node) : Prop :=
  ∃ outcome before, flow.Walk (byId outcome) (n :: before)

variable {flow : Flow} {choose choose' : List Node → Bool} {n m : Node} {before : List Node}

/-! ## Open edges -/

/-- A node of the type of a condition has rules. -/
theorem exists_rules (h : n.type = "condition") :
    ∃ rules extras, n.payload = .condition rules extras := by
  cases hpayload : n.payload with
  | condition rules extras => exact ⟨rules, extras, rfl⟩
  | foreign type hforeign settings =>
    rw [Node.type, hpayload] at h
    obtain rfl : type = "condition" := h
    exact absurd (by decide) hforeign
  | _ => simp [Node.type, hpayload, Payload.type] at h

/-- A node that is no condition is left along its first edge. -/
theorem exists_head_of_next? {id : String} (h : flow.next? id = some m) :
    ∃ e, (flow.outgoing id).head? = some e ∧ e.target = m.id := by
  obtain ⟨e, he, hm⟩ := Option.bind_eq_some_iff.1 h
  exact ⟨e, he, (node?_eq_some hm).2.symm⟩

/-- A walk goes on along an open edge. -/
theorem exists_isOpen_of_follow? {outcome : Bool} (hn : n ∈ flow.nodes)
    (h : flow.follow? n outcome = some m) : ∃ e, flow.IsOpen e ∧ e.target = m.id := by
  have hfirst : n.type ≠ "condition" → flow.next? n.id = some m →
      ∃ e, flow.IsOpen e ∧ e.target = m.id := by
    intro htype hnext
    obtain ⟨e, he, htarget⟩ := exists_head_of_next? hnext
    exact ⟨e, ⟨n, hn, by rw [if_neg htype]; exact he⟩, htarget⟩
  unfold follow? at h
  split at h
  · rename_i rules extras hpayload
    have htype : n.type = "condition" := by rw [Node.type, hpayload]; rfl
    obtain ⟨e, he, hm⟩ := Option.bind_eq_some_iff.1 h
    refine ⟨e, ⟨n, hn, ?_⟩, (node?_eq_some hm).2.symm⟩
    rw [if_pos htype]
    exact List.mem_of_find?_eq_some he
  · cases h
  · cases h
  · rename_i hpayload
    exact hfirst (by simp [Node.type, hpayload, Payload.type]) h
  · rename_i hpayload
    exact hfirst (by simp [Node.type, hpayload, Payload.type]) h
  · rename_i hpayload
    exact hfirst (by simp [Node.type, hpayload, Payload.type]) h

/-- A walk ends at the start, or at a node to which an open edge leads. -/
theorem Walk.start_or_isOpen (h : flow.Walk choose (n :: before)) :
    flow.start? = some n ∨ ∃ e, flow.IsOpen e ∧ e.target = n.id := by
  cases h with
  | start hs => exact Or.inl hs
  | step hwalk hm =>
    exact Or.inr (exists_isOpen_of_follow? (hwalk.mem _ List.mem_cons_self) hm)

/-- In a well-formed flow a walk at the source of an open edge can go on along it. -/
theorem WellFormed.exists_follow?_of_isOpen (h : flow.WellFormed) {e : Edge} (hopen : flow.IsOpen e)
    (hm : m ∈ flow.nodes) (htarget : e.target = m.id) :
    ∃ n ∈ flow.nodes, e ∈ flow.outgoing n.id ∧ ∃ outcome, flow.follow? n outcome = some m := by
  obtain ⟨n, hn, hopen⟩ := hopen
  have hnode : flow.node? e.target = some m := by
    rw [htarget]
    exact node?_of_mem h.distinct_ids hm
  by_cases hcond : n.type = "condition"
  · rw [if_pos hcond] at hopen
    obtain ⟨outcome, hlabel⟩ := h.label_eq hn hcond hopen
    obtain ⟨e', -, hbranch⟩ := h.exists_branch? hn hcond outcome
    -- a condition has one edge for each outcome, so the edge found is the edge given
    have hsame : e' = e := by
      have hlabels : ((flow.outgoing n.id).map Edge.label).Nodup := by
        rw [(h.branching n hn hcond).nodup_iff]
        decide
      rw [h.branch?_eq hn hcond] at hbranch
      have hlabel' : e'.label = some (Runner.branchLabel outcome) := by
        simpa using List.find?_some hbranch
      apply List.inj_on_of_nodup_map hlabels (List.mem_of_find?_eq_some hbranch) hopen
      rw [hlabel, hlabel']
    obtain ⟨rules, extras, hpayload⟩ := exists_rules hcond
    refine ⟨n, hn, hopen, outcome, ?_⟩
    unfold follow?
    simp only [hpayload, hbranch, Option.bind_some, hsame, hnode]
  · rw [if_neg hcond] at hopen
    have hout : e ∈ flow.outgoing n.id := List.mem_of_head? hopen
    have hnext : flow.next? n.id = some m := by
      unfold next?
      rw [hopen]
      exact hnode
    refine ⟨n, hn, hout, true, ?_⟩
    unfold follow?
    cases hpayload : n.payload with
    | start extras => exact hnext
    | action message extras => exact hnext
    | delay d => exact hnext
    | condition rules extras => simp [Node.type, hpayload, Payload.type] at hcond
    | finish extras =>
      -- no edge leaves the end
      have hnone := h.end_edges n hn (by rw [Node.type, hpayload]; rfl)
      rw [hnone] at hout
      exact absurd hout List.not_mem_nil
    | foreign type hforeign settings =>
      have hknown := h.known_types n hn
      rw [Node.type, hpayload] at hknown
      exact absurd hknown hforeign

/-! ## Walks by chosen outcomes -/

/-- A walk depends on the choices made on its way and on no others. -/
theorem Walk.congr (h : flow.Walk choose (n :: before))
    (hsame : ∀ m rest, m :: rest <:+ before → choose (m :: rest) = choose' (m :: rest)) :
    flow.Walk choose' (n :: before) := by
  generalize hvisited : n :: before = visited at h
  induction h generalizing n before with
  | start hs =>
    exact Walk.start hs
  | step hwalk hm ih =>
    obtain ⟨rfl, rfl⟩ := List.cons.inj hvisited
    have hshorter := ih (fun m rest hrest => hsame m rest (hrest.trans (List.suffix_cons _ _))) rfl
    rw [hsame _ _ List.suffix_rfl] at hm
    exact Walk.step hshorter hm

/-- A walk of a flow without loops that meets a node can go on from there with either outcome. -/
theorem CanMeet.step (h : flow.CanMeet n) (hacyclic : flow.IsAcyclic) {outcome : Bool}
    (hm : flow.follow? n outcome = some m) : flow.CanMeet m := by
  obtain ⟨chosen, before, hwalk⟩ := h
  have hfresh : n.id ∉ before.map Node.id := by
    have hnodup := hwalk.nodup hacyclic
    rw [List.map_cons, List.nodup_cons] at hnodup
    exact hnodup.1
  -- the node was not met before, so its outcome can be chosen anew
  have hanew : flow.Walk (byId (Function.update chosen n.id outcome)) (n :: before) := by
    apply hwalk.congr
    intro m rest hrest
    have hne : m.id ≠ n.id := by
      intro hid
      apply hfresh
      rw [← hid]
      exact List.mem_map_of_mem (hrest.subset List.mem_cons_self)
    simp only [byId, Function.update_of_ne hne]
  refine ⟨_, n :: before, Walk.step hanew ?_⟩
  simpa only [byId, Function.update_self] using hm

/-- In a flow without loops a property holds of every node that holds of a node whenever it holds of
all nodes that lead there. -/
theorem IsAcyclic.induction (hacyclic : flow.IsAcyclic) {P : Node → Prop}
    (hstep : ∀ n ∈ flow.nodes, (∀ m ∈ flow.nodes, flow.Leads m.id n.id → P m) → P n) :
    ∀ n ∈ flow.nodes, P n := by
  let Before (a b : { n // n ∈ flow.nodes }) : Prop :=
    Relation.TransGen flow.Leads a.val.id b.val.id
  have hfinite : Finite { n // n ∈ flow.nodes } := List.finite_toSet flow.nodes
  have htrans : IsTrans _ Before := ⟨fun _ _ _ => Relation.TransGen.trans⟩
  have hirrefl : Std.Irrefl Before := ⟨fun n => hacyclic n.val.id⟩
  have hwf : WellFounded Before := Finite.wellFounded_of_trans_of_irrefl Before
  intro n hn
  induction hnode : (⟨n, hn⟩ : { n // n ∈ flow.nodes }) using hwf.induction generalizing n with
  | _ node ih =>
    apply hstep n hn
    intro m hm hlead
    apply ih ⟨m, hm⟩ _ m hm rfl
    rw [← hnode]
    exact Relation.TransGen.single hlead

/-- When an open edge leads to every node but the start, some walk meets every node. -/
theorem WellFormed.canMeet_of_isOpen (h : flow.WellFormed)
    (hopen : ∀ n ∈ flow.nodes, n.type ≠ "start" → ∃ e, flow.IsOpen e ∧ e.target = n.id) :
    ∀ n ∈ flow.nodes, flow.CanMeet n := by
  refine h.acyclic.induction fun n hn ih => ?_
  by_cases hstart : n.type = "start"
  · obtain ⟨s, hs⟩ := List.length_eq_one_iff.1 h.one_start
    have hmem : n ∈ flow.nodesOfType "start" := mem_nodesOfType.2 ⟨hn, hstart⟩
    rw [hs] at hmem
    refine ⟨fun _ => false, [], Walk.start ?_⟩
    rw [start?, hs, List.mem_singleton.1 hmem]
    rfl
  · obtain ⟨e, he, htarget⟩ := hopen n hn hstart
    obtain ⟨m, hm, hout, outcome, hfollow⟩ := h.exists_follow?_of_isOpen he hn htarget
    have hlead : flow.Leads m.id n.id := by
      rw [← htarget]
      exact leads_of_outgoing hout
    exact (ih m hm hlead).step h.acyclic hfollow

/-- Where only conditions have more than one edge, no edge is closed. -/
theorem WellFormed.isOpen_of_single (h : flow.WellFormed)
    (hsingle : ∀ n ∈ flow.nodes, n.type ≠ "condition" → (flow.outgoing n.id).length ≤ 1) :
    ∀ e ∈ flow.edges, flow.IsOpen e := by
  intro e he
  obtain ⟨n, hn, hid⟩ := (h.anchored e he).1
  have hout : e ∈ flow.outgoing n.id := mem_outgoing.2 ⟨he, hid.symm⟩
  refine ⟨n, hn, ?_⟩
  split
  · exact hout
  · rename_i htype
    have hlength := hsingle n hn htype
    cases hedges : flow.outgoing n.id with
    | nil =>
      rw [hedges] at hout
      exact absurd hout List.not_mem_nil
    | cons first rest =>
      rw [hedges] at hout hlength
      obtain rfl : rest = [] := by simpa using hlength
      rw [List.mem_singleton.1 hout]
      rfl

/-- What the walks through a flow without a defect meet. Some walk meets each node exactly when an
edge that walks can take leads to each node but the start; so it is when no node but a condition has
more than one edge. -/
theorem walks_meet_all_iff (flow : Flow) (hvalid : flow.defect? = none) :
    ((∀ n ∈ flow.nodes, flow.CanMeet n) ↔
        ∀ n ∈ flow.nodes, n.type ≠ "start" → ∃ e, flow.IsOpen e ∧ e.target = n.id) ∧
      ((∀ n ∈ flow.nodes, n.type ≠ "condition" → (flow.outgoing n.id).length ≤ 1) →
        ∀ n ∈ flow.nodes, flow.CanMeet n) := by
  have hwell : flow.WellFormed := (defect?_eq_none_iff flow).1 hvalid
  refine ⟨⟨?_, hwell.canMeet_of_isOpen⟩, ?_⟩
  · intro hmeet n hn hstart
    obtain ⟨outcome, before, hwalk⟩ := hmeet n hn
    rcases hwalk.start_or_isOpen with hs | hopen
    · exact absurd (start?_eq_some hs).2 hstart
    · exact hopen
  · intro hsingle
    apply hwell.canMeet_of_isOpen
    intro n hn hstart
    obtain ⟨s, hs⟩ := hwell.exists_start?
    obtain ⟨hsmem, hstype⟩ := start?_eq_some hs
    -- the start reaches the node, and the last edge on the way is open
    rcases Relation.ReflTransGen.cases_tail (hwell.reachable s hsmem hstype n hn) with hid | hlast
    · have hsame : n = s := List.inj_on_of_nodup_map hwell.distinct_ids hn hsmem hid
      rw [hsame] at hstart
      exact absurd hstype hstart
    · obtain ⟨a, -, e, he, -, htarget⟩ := hlast
      exact ⟨e, hwell.isOpen_of_single hsingle e he, htarget⟩

/-- A flow whose first action has two edges. -/
def forkedFlow : Flow where
  id := none
  name := "Fork"
  nodes := [⟨"start", none, .start [], []⟩, ⟨"first", none, .action (some "Hello") [], []⟩,
    ⟨"second", none, .action (some "Bye") [], []⟩, ⟨"end", none, .finish [], []⟩]
  edges := [⟨"1", "start", "first", none, none, none, []⟩,
    ⟨"2", "first", "end", none, none, none, []⟩, ⟨"3", "first", "second", none, none, none, []⟩,
    ⟨"4", "second", "end", none, none, none, []⟩]
  createdAt := none
  updatedAt := none

/-- Walks meet every node of the sample flow. -/
theorem walks_meet_all_sample :
    (Script.sampleFlow default).defect? = none ∧
      ∀ n ∈ (Script.sampleFlow default).nodes, (Script.sampleFlow default).CanMeet n := by
  have hvalid : (Script.sampleFlow default).defect? = none := by decide
  refine ⟨hvalid, (walks_meet_all_iff _ hvalid).2 ?_⟩
  intro n hn
  simp only [Script.sampleFlow, List.mem_cons, List.not_mem_nil, or_false] at hn
  rcases hn with rfl | rfl | rfl | rfl <;> decide

/-- The flow with the fork has no defect, and yet no walk meets its second action, however
conditions evaluate. -/
theorem forkedFlow_not_met :
    forkedFlow.defect? = none ∧ ∃ n ∈ forkedFlow.nodes, ∀ choose before,
      ¬ forkedFlow.Walk choose (n :: before) := by
  refine ⟨by decide, ⟨"second", none, .action (some "Bye") [], []⟩, by simp [forkedFlow], ?_⟩
  intro choose before hwalk
  rcases hwalk.start_or_isOpen with hs | ⟨e, ⟨n, hn, hopen⟩, htarget⟩
  · exact absurd (start?_eq_some hs).2 (by decide)
  · have hfirst : ∀ n ∈ forkedFlow.nodes, n.type ≠ "condition" ∧
        ∀ e ∈ (forkedFlow.outgoing n.id).head?, e.target ≠ "second" := by decide
    obtain ⟨hcond, hclosed⟩ := hfirst n hn
    rw [if_neg hcond] at hopen
    exact hclosed e hopen htarget

end Automation.Flow
