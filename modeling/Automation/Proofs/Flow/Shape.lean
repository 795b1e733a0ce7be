import Automation.Proofs.Flow.WellFormed

/-!
# The shape of a graph

What the check of a graph reports, for every graph and every start: a loop exactly if the start
reaches one, otherwise the first node that the start does not reach, otherwise nothing
(`graphDefect?_exact`). A loop that the start does not reach is no loop to the check; its nodes are
only out of reach.

The search behind the check is given a number of steps in advance. It never runs out of them: left
to itself it ends after no more steps than that, with the same result (`search_ends`).
-/

set_option autoImplicit false

namespace Automation.Flow

namespace Search

variable {flow : Flow} {s : Search} {found : Found}

/-- The search, left to itself, ends with its `n`th step and has found this. -/
inductive Ends (flow : Flow) : Search → (n : Nat) → Found → Prop
  | last {s : Search} {found : Found} (h : s.step flow = .inr found) : Ends flow s 1 found
  | onward {s t : Search} {n : Nat} {found : Found} (h : s.step flow = .inl t)
      (hrest : Ends flow t n found) : Ends flow s (n + 1) found

/-- A sound search ends, with one step more than there is work at most. -/
theorem Sound.ends {root : String} (h : Sound flow root s) :
    ∃ n ≤ work flow s + 1, ∃ found, Ends flow s n found := by
  -- every step but the last leaves less work
  induction hwork : work flow s using Nat.strong_induction_on generalizing s with
  | _ k ih =>
    have hstep := h.step
    cases hs : s.step flow with
    | inl t =>
      rw [hs] at hstep
      obtain ⟨hsound, hless⟩ := hstep
      obtain ⟨n, hn, found, hends⟩ := ih (work flow t) (hwork ▸ hless) hsound rfl
      exact ⟨n + 1, by omega, found, .onward hs hends⟩
    | inr found => exact ⟨1, by omega, found, .last hs⟩

/-- With as many steps as the search needs, or more, what is found is the same. -/
theorem Ends.run_eq {n fuel : Nat} (h : Ends flow s n found) (hn : n ≤ fuel) :
    s.run flow fuel = found := by
  induction h generalizing fuel with
  | last h =>
    obtain ⟨fuel, rfl⟩ := Nat.exists_eq_add_of_le' hn
    rw [run, h]
  | onward h _ ih =>
    obtain ⟨fuel, rfl⟩ := Nat.exists_eq_add_of_le' (Nat.le_trans (Nat.le_add_left 1 _) hn)
    rw [run, h]
    exact ih (Nat.le_of_succ_le_succ hn)

end Search

/-- A search ends by itself, with at most the steps that it is given. -/
theorem search_ends (flow : Flow) (root : String) :
    ∃ n ≤ 2 * flow.edges.length + 2,
      (Search.begin flow root).Ends flow n (flow.search root) := by
  have hwork := Search.work_begin flow root
  obtain ⟨n, hn, found, hends⟩ := (Search.sound_begin flow root).ends
  have hfuel : n ≤ 2 * flow.edges.length + 2 := by omega
  refine ⟨n, hfuel, ?_⟩
  rw [search, hends.run_eq hfuel]
  exact hends

theorem graphDefect?_eq_loop_iff (flow : Flow) (start : Node) :
    flow.graphDefect? start = some .loop ↔
      ∃ a, flow.Reaches start.id a ∧ flow.IsOnLoop a := by
  rw [← search_eq_loop_iff, graphDefect?]
  cases flow.search start.id with
  | loop => simp
  | reached met => simp

theorem graphDefect?_eq_unreachable_iff (flow : Flow) (start : Node) (id type : String) :
    flow.graphDefect? start = some (.unreachable id type) ↔
      (∀ a, flow.Reaches start.id a → ¬ flow.IsOnLoop a) ∧
        ∃ before n after, flow.nodes = before ++ n :: after ∧
          (∀ m ∈ before, flow.Reaches start.id m.id) ∧ ¬ flow.Reaches start.id n.id ∧
          n.id = id ∧ n.type = type := by
  have hloop : flow.search start.id = .loop ↔
      ∃ a, flow.Reaches start.id a ∧ flow.IsOnLoop a := search_eq_loop_iff
  unfold graphDefect?
  cases hs : flow.search start.id with
  | loop =>
    obtain ⟨a, hreach, ha⟩ := hloop.1 hs
    simp only [Option.some.injEq, reduceCtorEq, false_iff]
    rintro ⟨hno, -⟩
    exact hno a hreach ha
  | reached met =>
    have hno : ∀ a, flow.Reaches start.id a → ¬ flow.IsOnLoop a := by
      intro a hreach ha
      rw [hloop.2 ⟨a, hreach, ha⟩] at hs
      cases hs
    simp only [Option.map_eq_some_iff, List.find?_eq_some_iff_append, FlowDefect.unreachable.injEq,
      Bool.not_eq_true', List.contains_eq_mem, decide_eq_false_iff_not, Bool.not_not,
      decide_eq_true_eq, search_eq_reached hs]
    constructor
    · rintro ⟨n, ⟨hn, before, after, hnodes, hbefore⟩, hid, htype⟩
      exact ⟨hno, before, n, after, hnodes, hbefore, hn, hid, htype⟩
    · rintro ⟨-, before, n, after, hnodes, hbefore, hn, hid, htype⟩
      exact ⟨n, ⟨hn, before, after, hnodes, hbefore⟩, hid, htype⟩

/-- **The check of the graph is exact**, whatever the edges are and wherever it starts: it ends, it
reports a loop exactly if the start reaches one, without such a loop the first node that the start
does not reach, and nothing if there is neither. -/
theorem graphDefect?_exact (flow : Flow) (start : Node) :
    (∃ n ≤ 2 * flow.edges.length + 2,
        (Search.begin flow start.id).Ends flow n (flow.search start.id)) ∧
      (flow.graphDefect? start = some .loop ↔
        ∃ a, flow.Reaches start.id a ∧ flow.IsOnLoop a) ∧
      (∀ id type, flow.graphDefect? start = some (.unreachable id type) ↔
        (∀ a, flow.Reaches start.id a → ¬ flow.IsOnLoop a) ∧
          ∃ before n after, flow.nodes = before ++ n :: after ∧
            (∀ m ∈ before, flow.Reaches start.id m.id) ∧ ¬ flow.Reaches start.id n.id ∧
            n.id = id ∧ n.type = type) ∧
      (flow.graphDefect? start = none ↔
        (∀ a, flow.Reaches start.id a → ¬ flow.IsOnLoop a) ∧
          ∀ n ∈ flow.nodes, flow.Reaches start.id n.id) :=
  ⟨search_ends flow start.id, graphDefect?_eq_loop_iff flow start,
    graphDefect?_eq_unreachable_iff flow start, graphDefect?_eq_none_iff flow start⟩

/-- A loop that the start does not reach is not reported as one. -/
example :
    let start : Node := ⟨"s", none, .start [], []⟩
    let edge (source target : String) : Edge := ⟨source, source, target, none, none, none, []⟩
    let flow : Flow := ⟨none, "", [start, ⟨"a", none, .action none [], []⟩,
      ⟨"e", none, .finish [], []⟩], [edge "s" "e", edge "a" "b", edge "b" "a"], none, none⟩
    flow.graphDefect? start = some (.unreachable "a" "action") := by
  decide

end Automation.Flow
