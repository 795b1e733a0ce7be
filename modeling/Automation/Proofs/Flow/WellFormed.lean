import Automation.Flow.Defect
import Automation.Proofs.Flow.Search
import Automation.Script.Import
import Mathlib.Data.List.Perm.Basic

/-!
# Well-formed flows

What a flow has to be like to be run, said without any order of checks: counts of nodes and edges,
the settings of each node, and a graph without loops all of which the start reaches. A flow has no
defect exactly when it is well-formed, and so the verdict on a flow does not depend on the order in
which its nodes and edges are listed.

Each check has a lemma that says when it finds nothing; `defect?_eq_none_iff` puts them together.
-/

set_option autoImplicit false

namespace Automation

open Automation.Text

/-- A delay by a positive amount of a unit there is, or until a date. -/
def Delay.IsComplete (d : Delay) : Prop :=
  (d.kind = some "relative" ∧
      ∃ amount unit, d.amount = some amount ∧ 0 < amount ∧
        d.unit = some unit ∧ unit ∈ Delay.units.map Prod.fst) ∨
    (d.kind = some "absolute" ∧ ∃ target, d.target = some target)

/-- The settings that the type of a node asks for are there: a message that is not blank, a delay
that is complete, a rule. -/
def Node.IsComplete (n : Node) : Prop :=
  match n.payload with
  | .action message _ => ∃ text, message = some text ∧ ∃ c ∈ text.toList, isBlank c = false
  | .delay d => d.IsComplete
  | .condition rules _ => rules ≠ []
  | .start _ | .finish _ | .foreign .. => True

namespace Flow

/-- A flow that may be run. -/
structure WellFormed (flow : Flow) : Prop where
  one_start : (flow.nodesOfType "start").length = 1
  one_end : (flow.nodesOfType "end").length = 1
  start_edges : ∀ n ∈ flow.nodes, n.type = "start" → (flow.outgoing n.id).length = 1
  end_edges : ∀ n ∈ flow.nodes, n.type = "end" → flow.outgoing n.id = []
  distinct_ids : (flow.nodes.map Node.id).Nodup
  anchored : ∀ e ∈ flow.edges,
    (∃ n ∈ flow.nodes, n.id = e.source) ∧ ∃ n ∈ flow.nodes, n.id = e.target
  branching : ∀ n ∈ flow.nodes, n.type = "condition" →
    ((flow.outgoing n.id).map Edge.label).Perm [some "TRUE", some "FALSE"]
  continuing : ∀ n ∈ flow.nodes, n.type ≠ "end" → flow.outgoing n.id ≠ []
  known_types : ∀ n ∈ flow.nodes, n.type ∈ knownTypes
  complete : ∀ n ∈ flow.nodes, n.IsComplete
  acyclic : flow.IsAcyclic
  reachable : ∀ s ∈ flow.nodes, s.type = "start" → ∀ n ∈ flow.nodes, flow.Reaches s.id n.id

variable {flow : Flow}

/-! ## Settings -/

theorem unitLength?_isSome_iff (unit : String) :
    (Delay.unitLength? unit).isSome ↔ unit ∈ Delay.units.map Prod.fst := by
  simp [Delay.unitLength?]

theorem amountAndUnit?_eq_some {d : Delay} {amount : Int} {unit : String} :
    d.amountAndUnit? = some (amount, unit) ↔
      d.amount = some amount ∧ d.unit = some unit ∧ amount ≠ 0 ∧ unit ≠ "" := by
  unfold Delay.amountAndUnit?
  cases d.amount with
  | none => simp
  | some k =>
    cases d.unit with
    | none => simp
    | some u =>
      by_cases hzero : k = 0 ∨ u.isEmpty
      -- an amount of zero and an empty unit count as missing
      · simp only [hzero, if_true, reduceCtorEq, false_iff]
        rintro ⟨hk, hu, hk0, hu0⟩
        obtain rfl := Option.some.inj hk
        obtain rfl := Option.some.inj hu
        rcases hzero with hzero | hzero
        · exact hk0 hzero
        · exact hu0 (String.isEmpty_iff.1 hzero)
      · simp only [hzero, if_false, Option.some.injEq, Prod.mk.injEq]
        rw [not_or] at hzero
        constructor
        · rintro ⟨rfl, rfl⟩
          exact ⟨rfl, rfl, hzero.1, fun hu => hzero.2 (String.isEmpty_iff.2 hu)⟩
        · rintro ⟨rfl, rfl, -, -⟩
          exact ⟨rfl, rfl⟩

/-- No unit has the empty name. -/
theorem ne_empty_of_mem_units {unit : String} (h : unit ∈ Delay.units.map Prod.fst) :
    unit ≠ "" := by
  rintro rfl
  simp [Delay.units] at h

theorem delayDefect?_eq_none_iff (id : String) (d : Delay) :
    delayDefect? id d = none ↔ d.IsComplete := by
  unfold delayDefect? Delay.IsComplete
  split
  · rename_i hkind
    simp [hkind]
  · rename_i hkind
    simp [hkind]
  -- a relative delay: its amount and its unit are checked one after the other
  · rename_i hkind
    simp only [hkind, true_and, Option.some.injEq, String.reduceEq, false_and, or_false]
    cases hau : d.amountAndUnit? with
    | none =>
      simp only [reduceCtorEq, false_iff]
      rintro ⟨amount, unit, ha, hpos, hu, hunit⟩
      have hsome := amountAndUnit?_eq_some.2 ⟨ha, hu, by omega, ne_empty_of_mem_units hunit⟩
      rw [hau] at hsome
      cases hsome
    | some au =>
      obtain ⟨amount, unit⟩ := au
      obtain ⟨ha, hu, -, -⟩ := amountAndUnit?_eq_some.1 hau
      have hchecks : (if amount ≤ 0 then some (FlowDefect.nonPositiveDelay id)
          else if (Delay.unitLength? unit).isNone then some (.unknownUnit id unit) else none) =
            none ↔ 0 < amount ∧ (Delay.unitLength? unit).isSome := by
        by_cases hpos : amount ≤ 0
        · simp [hpos, Int.not_lt.2 hpos]
        · cases Delay.unitLength? unit <;> simp [hpos, Int.not_le.1 hpos]
      refine hchecks.trans ?_
      rw [unitLength?_isSome_iff]
      constructor
      · rintro ⟨hpos, hunit⟩
        exact ⟨amount, unit, ha, hpos, hu, hunit⟩
      · rintro ⟨amount', unit', ha', hpos, hu', hunit⟩
        obtain rfl := Option.some.inj (ha.symm.trans ha')
        obtain rfl := Option.some.inj (hu.symm.trans hu')
        exact ⟨hpos, hunit⟩
  · rename_i hkind
    cases htarget : d.target <;> simp [hkind]
  -- a kind that is neither relative nor absolute
  · rename_i kind hempty hrelative habsolute hkind
    simp only [hkind, Option.some.injEq, reduceCtorEq, false_iff]
    rintro (⟨rfl, -⟩ | ⟨rfl, -⟩)
    · exact hrelative rfl
    · exact habsolute rfl

/-- A text is not blank when it has a character that is not. -/
theorem isBlankText_eq_false_iff (s : String) :
    isBlankText s = false ↔ ∃ c ∈ s.toList, isBlank c = false := by
  simp [isBlankText, List.all_eq_false]

theorem settingsDefect?_eq_none_iff (n : Node) :
    settingsDefect? n = none ↔ n.type ∈ knownTypes ∧ n.IsComplete := by
  unfold settingsDefect? Node.IsComplete Node.type
  cases n.payload with
  | start extras => simp [Payload.type, knownTypes]
  | finish extras => simp [Payload.type, knownTypes]
  | condition rules extras => cases rules <;> simp [Payload.type, knownTypes]
  | delay d => simp [Payload.type, knownTypes, delayDefect?_eq_none_iff]
  | foreign type hforeign settings => simpa [Payload.type] using hforeign
  | action message extras =>
    have htype : (Payload.action message extras).type ∈ knownTypes := by
      simp [Payload.type, knownTypes]
    simp only [htype, true_and]
    cases message with
    | none => simp [isBlankText]
    | some text =>
      simp only [Option.getD_some, Option.some.injEq, exists_eq_left', ← isBlankText_eq_false_iff]
      by_cases hblank : isBlankText text = true <;> simp [hblank]

/-! ## Edges -/

theorem firstRepeated?_eq_none_iff (before ids : List String) :
    firstRepeated? before ids = none ↔ ids.Nodup ∧ ∀ a ∈ ids, a ∉ before := by
  induction ids generalizing before with
  | nil => simp [firstRepeated?]
  | cons a rest ih =>
    unfold firstRepeated?
    by_cases ha : a ∈ before
    · simp [ha]
    · simp only [List.contains_iff_mem, ha, if_false, ih, List.nodup_cons, List.mem_cons,
        forall_eq_or_imp, not_or]
      constructor
      · rintro ⟨hnodup, hrest⟩
        exact ⟨⟨fun hin => (hrest a hin).1 rfl, hnodup⟩, not_false, fun b hb => (hrest b hb).2⟩
      · rintro ⟨⟨hin, hnodup⟩, -, hrest⟩
        exact ⟨hnodup, fun b hb => ⟨fun hba => hin (hba ▸ hb), hrest b hb⟩⟩

theorem isAnchored_iff (flow : Flow) (e : Edge) :
    flow.isAnchored e = true ↔
      (∃ n ∈ flow.nodes, n.id = e.source) ∧ ∃ n ∈ flow.nodes, n.id = e.target := by
  simp [isAnchored]

/-- The edges of a condition branch when their labels are the two outcomes in some order. -/
theorem branches_iff_perm (flow : Flow) (id : String) :
    flow.branches id = true ↔
      ((flow.outgoing id).map Edge.label).Perm [some "TRUE", some "FALSE"] := by
  unfold branches
  split
  -- two labels: the permutation leaves them or swaps them
  · rename_i a b hlabels
    rw [hlabels]
    constructor
    · intro h
      simp only [Bool.or_eq_true, Bool.and_eq_true, beq_iff_eq] at h
      rcases h with ⟨rfl, rfl⟩ | ⟨rfl, rfl⟩
      · exact List.Perm.refl _
      · exact List.Perm.swap _ _ []
    · intro h
      have ha : a = some "TRUE" ∨ a = some "FALSE" := by
        simpa using h.subset List.mem_cons_self
      rcases ha with rfl | rfl
      · have hb : b = some "FALSE" := by
          simpa using List.Perm.cons_inv h
        simp [hb]
      · have hb : b = some "TRUE" := by
          simpa using List.Perm.cons_inv (h.trans (List.Perm.swap _ _ []))
        simp [hb]
  · rename_i hlabels
    simp only [Bool.false_eq_true, false_iff]
    intro h
    -- a permutation of two labels has two labels
    obtain ⟨a, b, hab⟩ := List.length_eq_two.1 h.length_eq
    exact hlabels a b hab

theorem isDeadEnd_iff (flow : Flow) (n : Node) :
    flow.isDeadEnd n = true ↔ n.type ≠ "end" ∧ flow.outgoing n.id = [] := by
  simp [isDeadEnd, Node.isEnd]

theorem edgeDefect?_eq_none_iff (flow : Flow) (start finish : Node) :
    flow.edgeDefect? start finish = none ↔
      (flow.outgoing start.id).length = 1 ∧ flow.outgoing finish.id = [] ∧
      (flow.nodes.map Node.id).Nodup ∧
      (∀ e ∈ flow.edges,
        (∃ n ∈ flow.nodes, n.id = e.source) ∧ ∃ n ∈ flow.nodes, n.id = e.target) ∧
      (∀ n ∈ flow.nodes, n.type = "condition" →
        ((flow.outgoing n.id).map Edge.label).Perm [some "TRUE", some "FALSE"]) ∧
      ∀ n ∈ flow.nodes, n.type ≠ "end" → flow.outgoing n.id ≠ [] := by
  have hrepeated := firstRepeated?_eq_none_iff [] (flow.nodes.map Node.id)
  unfold edgeDefect?
  by_cases hstart : (flow.outgoing start.id).length = 1
  · by_cases hfinish : flow.outgoing finish.id = []
    · simp [hstart, hfinish, hrepeated, isAnchored_iff, branches_iff_perm, isDeadEnd_iff,
        Node.isCondition]
    · simp [hstart, hfinish]
  · simp [hstart]

/-! ## The graph -/

theorem graphDefect?_eq_none_iff (flow : Flow) (start : Node) :
    flow.graphDefect? start = none ↔
      (∀ a, flow.Reaches start.id a → ¬ flow.IsOnLoop a) ∧
        ∀ n ∈ flow.nodes, flow.Reaches start.id n.id := by
  unfold graphDefect?
  cases hs : flow.search start.id with
  | loop =>
    obtain ⟨a, hreach, hloop⟩ := search_eq_loop_iff.1 hs
    simp only [reduceCtorEq, false_iff]
    rintro ⟨hno, -⟩
    exact hno a hreach hloop
  | reached met =>
    have hno : ∀ a, flow.Reaches start.id a → ¬ flow.IsOnLoop a := by
      intro a hreach hloop
      rw [search_eq_loop_iff.2 ⟨a, hreach, hloop⟩] at hs
      cases hs
    simp only [Option.map_eq_none_iff, List.find?_eq_none, Bool.not_eq_true', Bool.not_eq_false,
      List.contains_iff_mem, search_eq_reached hs]
    exact ⟨fun hreach => ⟨hno, hreach⟩, fun h => h.2⟩

/-- When the start reaches every node, a flow has no loop as soon as the start reaches none. -/
theorem isAcyclic_of_reachable {start : Node}
    (hanchored : ∀ e ∈ flow.edges,
      (∃ n ∈ flow.nodes, n.id = e.source) ∧ ∃ n ∈ flow.nodes, n.id = e.target)
    (hreach : ∀ n ∈ flow.nodes, flow.Reaches start.id n.id)
    (hno : ∀ a, flow.Reaches start.id a → ¬ flow.IsOnLoop a) : flow.IsAcyclic := by
  intro a hloop
  -- a loop begins with an edge, and the source of an edge is a node within reach
  obtain ⟨b, ⟨e, he, rfl, -⟩, -⟩ := Relation.TransGen.head'_iff.1 hloop
  obtain ⟨⟨n, hn, hid⟩, -⟩ := hanchored e he
  exact hno e.source (hid ▸ hreach n hn) hloop

/-! ## The verdict -/

/-- The only node of a type, and what holds of every node of that type. -/
theorem forall_of_nodesOfType {n : Node} {type : String} (h : flow.nodesOfType type = [n])
    (P : Node → Prop) : (∀ m ∈ flow.nodes, m.type = type → P m) ↔ P n := by
  have hmem : ∀ m, (m ∈ flow.nodes ∧ m.type = type) ↔ m = n := by
    intro m
    rw [← mem_nodesOfType, h, List.mem_singleton]
  constructor
  · intro hall
    obtain ⟨hn, htype⟩ := (hmem n).2 rfl
    exact hall n hn htype
  · intro hP m hm htype
    exact (hmem m).1 ⟨hm, htype⟩ ▸ hP

/-- A flow has no defect exactly when it is well-formed. -/
theorem defect?_eq_none_iff (flow : Flow) : flow.defect? = none ↔ flow.WellFormed := by
  unfold defect?
  split
  -- one start and one end: the checks of edges, settings and graph remain
  · rename_i start finish hstart hfinish
    have hstarts := forall_of_nodesOfType hstart
    have hfinishes := forall_of_nodesOfType hfinish
    simp only [Option.or_eq_none_iff, edgeDefect?_eq_none_iff, graphDefect?_eq_none_iff,
      List.findSome?_eq_none_iff, settingsDefect?_eq_none_iff]
    constructor
    · rintro ⟨⟨hse, hee, hids, hanchored, hbranching, hcontinuing⟩, hsettings, hno, hreach⟩
      exact
        { one_start := by rw [hstart]; rfl
          one_end := by rw [hfinish]; rfl
          start_edges := (hstarts _).2 hse
          end_edges := (hfinishes _).2 hee
          distinct_ids := hids
          anchored := hanchored
          branching := hbranching
          continuing := hcontinuing
          known_types := fun n hn => (hsettings n hn).1
          complete := fun n hn => (hsettings n hn).2
          acyclic := isAcyclic_of_reachable hanchored hreach hno
          reachable := (hstarts _).2 hreach }
    · intro h
      exact ⟨⟨(hstarts _).1 h.start_edges, (hfinishes _).1 h.end_edges, h.distinct_ids,
          h.anchored, h.branching, h.continuing⟩,
        fun n hn => ⟨h.known_types n hn, h.complete n hn⟩,
        fun a _ => h.acyclic a, (hstarts _).1 h.reachable⟩
  -- one start, but not one end
  · rename_i hends
    simp only [reduceCtorEq, false_iff]
    intro h
    obtain ⟨finish, hfinish⟩ := List.length_eq_one_iff.1 h.one_end
    exact hends finish hfinish
  -- not one start
  · rename_i hstarts _
    simp only [reduceCtorEq, false_iff]
    intro h
    obtain ⟨start, hstart⟩ := List.length_eq_one_iff.1 h.one_start
    exact hstarts start hstart

/-! ## The order of nodes and edges -/

section Order

variable {other : Flow}

theorem leads_of_perm (hedges : other.edges.Perm flow.edges) : other.Leads = flow.Leads := by
  funext a b
  exact propext ⟨fun ⟨e, he, h⟩ => ⟨e, hedges.mem_iff.1 he, h⟩,
    fun ⟨e, he, h⟩ => ⟨e, hedges.mem_iff.2 he, h⟩⟩

theorem outgoing_perm (hedges : other.edges.Perm flow.edges) (id : String) :
    (other.outgoing id).Perm (flow.outgoing id) :=
  hedges.filter _

/-- Well-formedness does not depend on the order of nodes and edges. -/
theorem WellFormed.of_perm (h : flow.WellFormed) (hnodes : other.nodes.Perm flow.nodes)
    (hedges : other.edges.Perm flow.edges) : other.WellFormed := by
  have hleads := leads_of_perm hedges
  have hout := outgoing_perm hedges
  have htypes : ∀ type, (other.nodesOfType type).length = (flow.nodesOfType type).length :=
    fun type => (hnodes.filter _).length_eq
  have hmem : ∀ n, n ∈ other.nodes ↔ n ∈ flow.nodes := fun n => hnodes.mem_iff
  exact
    { one_start := by rw [htypes, h.one_start]
      one_end := by rw [htypes, h.one_end]
      start_edges := fun n hn htype => by
        rw [(hout n.id).length_eq, h.start_edges n ((hmem n).1 hn) htype]
      end_edges := fun n hn htype =>
        List.Perm.eq_nil (h.end_edges n ((hmem n).1 hn) htype ▸ hout n.id)
      distinct_ids := (hnodes.map Node.id).nodup_iff.2 h.distinct_ids
      anchored := fun e he => by
        simpa only [hmem] using h.anchored e (hedges.mem_iff.1 he)
      branching := fun n hn htype =>
        ((hout n.id).map Edge.label).trans (h.branching n ((hmem n).1 hn) htype)
      continuing := fun n hn htype hnil =>
        h.continuing n ((hmem n).1 hn) htype (List.Perm.eq_nil (hnil ▸ (hout n.id).symm))
      known_types := fun n hn => h.known_types n ((hmem n).1 hn)
      complete := fun n hn => h.complete n ((hmem n).1 hn)
      acyclic := fun a => by
        rw [IsOnLoop, hleads]
        exact h.acyclic a
      reachable := fun s hs htype n hn => by
        rw [Reaches, hleads]
        exact h.reachable s ((hmem s).1 hs) htype n ((hmem n).1 hn) }

/-- The verdict on a flow: it has no defect exactly when it is well-formed, in whatever order its
nodes and edges are listed. -/
theorem verdict_exact (flow : Flow) :
    (flow.defect? = none ↔ flow.WellFormed) ∧
      ∀ other : Flow, other.nodes.Perm flow.nodes → other.edges.Perm flow.edges →
        (other.defect? = none ↔ flow.defect? = none) := by
  refine ⟨defect?_eq_none_iff flow, fun other hnodes hedges => ?_⟩
  rw [defect?_eq_none_iff, defect?_eq_none_iff]
  exact ⟨fun h => h.of_perm hnodes.symm hedges.symm, fun h => h.of_perm hnodes hedges⟩

/-- The sample flow with its nodes and edges listed from the last to the first. -/
def reversedSample : Flow :=
  { Script.sampleFlow default with
    nodes := (Script.sampleFlow default).nodes.reverse
    edges := (Script.sampleFlow default).edges.reverse }

/-- The sample flow has no defect, and neither has it when listed from the last to the first. -/
theorem verdict_exact_sample :
    (Script.sampleFlow default).WellFormed ∧ reversedSample.defect? = none := by
  have hsample : (Script.sampleFlow default).defect? = none := by decide
  have hexact := verdict_exact (Script.sampleFlow default)
  exact ⟨hexact.1.1 hsample,
    (hexact.2 reversedSample (List.reverse_perm _) (List.reverse_perm _)).2 hsample⟩

end Order

end Flow

end Automation
