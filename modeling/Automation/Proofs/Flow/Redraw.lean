import Automation.Flow.Defect

/-!
# Flows that differ in what no verdict looks at

A flow may be redrawn: its nodes keep their ids, their types and what is wrong with their settings,
its edges keep their ids, their ends and their labels, and everything else may change. The search of
a redrawn flow goes step by step along the search of the flow (`step_redraw`, `run_redraw`), and so
both have the same first defect (`defect?_redraw`).
-/

set_option autoImplicit false

namespace Automation.Flow

/-- A flow is another one redrawn, with its nodes and its edges changed in what no verdict looks
at. -/
structure Redraws (flow' flow : Flow) (node : Node → Node) (edge : Edge → Edge) : Prop where
  nodes : flow'.nodes = flow.nodes.map node
  edges : flow'.edges = flow.edges.map edge
  id : ∀ n, (node n).id = n.id
  type : ∀ n, (node n).type = n.type
  settings : ∀ n, settingsDefect? (node n) = settingsDefect? n
  edgeId : ∀ e, (edge e).id = e.id
  source : ∀ e, (edge e).source = e.source
  target : ∀ e, (edge e).target = e.target
  label : ∀ e, (edge e).label = e.label

/-- The first to be found among those that were changed is the first found among them as they were,
changed. -/
theorem find?_map_of_agrees {α : Type} {change : α → α} {p p' : α → Bool}
    (hp : ∀ a, p' (change a) = p a) (as : List α) :
    (as.map change).find? p' = (as.find? p).map change := by
  rw [List.find?_map]
  congr 2
  exact funext hp

/-- The search with the edges that are still to be followed changed. -/
def Search.redraw (edge : Edge → Edge) (s : Search) : Search :=
  ⟨s.met, s.path.map fun f => ⟨f.node, f.left.map edge⟩⟩

theorem Search.onPath_redraw (edge : Edge → Edge) (s : Search) (id : String) :
    (s.redraw edge).onPath id = s.onPath id := by
  simp [onPath, redraw, List.any_map, Function.comp_def]

namespace Redraws

variable {flow flow' : Flow} {node : Node → Node} {edge : Edge → Edge}
  (h : flow'.Redraws flow node edge)
include h

theorem nodesOfType_redraw (type : String) :
    flow'.nodesOfType type = (flow.nodesOfType type).map node := by
  simp [nodesOfType, h.nodes, List.filter_map, Function.comp_def, h.type]

theorem outgoing_redraw (id : String) :
    flow'.outgoing id = (flow.outgoing id).map edge := by
  simp [outgoing, h.edges, List.filter_map, Function.comp_def, h.source]

/-! ## The search -/

/-- A step of the search takes the same edge, or drops the same frame. -/
theorem step_redraw (s : Search) : (s.redraw edge).step flow' =
    (s.step flow).map (Search.redraw edge) fun found => found := by
  -- a step looks at the first edge of the last frame, and there only at its target
  obtain ⟨met, path⟩ := s
  match path with
  | [] => rfl
  | ⟨_, []⟩ :: rest => rfl
  | ⟨id, e :: left⟩ :: rest =>
    have honPath := Search.onPath_redraw edge ⟨met, ⟨id, e :: left⟩ :: rest⟩ e.target
    simp only [Search.redraw, List.map_cons] at honPath ⊢
    simp only [Search.step, h.target, honPath, h.outgoing_redraw]
    split
    · rfl
    · split <;> rfl

theorem run_redraw (fuel : Nat) (s : Search) :
    (s.redraw edge).run flow' fuel = s.run flow fuel := by
  -- the searches go step by step, and end at the same one
  induction fuel generalizing s with
  | zero => rfl
  | succ fuel ih =>
    rw [Search.run, Search.run, h.step_redraw]
    cases s.step flow with
    | inl s => exact ih s
    | inr found => rfl

/-- A search of a redrawn flow finds what a search of the flow finds. -/
theorem search_redraw (id : String) :
    flow'.search id = flow.search id := by
  -- both begin at the same place, and have as many steps to make
  have hbegin : Search.begin flow' id = (Search.begin flow id).redraw edge := by
    simp [Search.begin, Search.redraw, h.outgoing_redraw]
  have hlength : flow'.edges.length = flow.edges.length := by rw [h.edges, List.length_map]
  rw [search, search, hbegin, h.run_redraw, hlength]

/-! ## Defects -/

theorem isAnchored_redraw (e : Edge) :
    flow'.isAnchored (edge e) = flow.isAnchored e := by
  simp [isAnchored, h.nodes, List.any_map, Function.comp_def, h.id, h.source, h.target]

theorem branches_redraw (id : String) :
    flow'.branches id = flow.branches id := by
  have hlabels : (flow'.outgoing id).map Edge.label =
      (flow.outgoing id).map Edge.label := by
    rw [h.outgoing_redraw, List.map_map]
    exact List.map_congr_left fun e _ => h.label e
  rw [branches, branches, hlabels]

theorem isDeadEnd_redraw (n : Node) :
    flow'.isDeadEnd (node n) = flow.isDeadEnd n := by
  simp [isDeadEnd, Node.isEnd, h.type, h.id, h.outgoing_redraw]

theorem edgeDefect?_redraw (start finish : Node) :
    flow'.edgeDefect? (node start) (node finish) =
      flow.edgeDefect? start finish := by
  have hids : (flow.nodes.map node).map Node.id = flow.nodes.map Node.id := by
    rw [List.map_map]
    exact List.map_congr_left fun n _ => h.id n
  have hloose : (flow.edges.map edge).find? (fun e => !flow'.isAnchored e) =
      (flow.edges.find? fun e => !flow.isAnchored e).map edge :=
    find?_map_of_agrees (fun e => by rw [h.isAnchored_redraw]) _
  have hcondition : (flow.nodes.map node).find?
      (fun n => n.isCondition && !flow'.branches n.id) =
        (flow.nodes.find? fun n => n.isCondition && !flow.branches n.id).map node :=
    find?_map_of_agrees
      (fun n => by rw [Node.isCondition, Node.isCondition, h.type, h.id, h.branches_redraw]) _
  have hdead : (flow.nodes.map node).find? flow'.isDeadEnd =
      (flow.nodes.find? flow.isDeadEnd).map node :=
    find?_map_of_agrees h.isDeadEnd_redraw _
  unfold edgeDefect?
  simp only [h.nodes, h.edges, hids, hloose, hcondition, hdead, h.outgoing_redraw, h.id,
    List.length_map, List.isEmpty_map, Option.map_map, Function.comp_def, h.edgeId, h.type]

theorem graphDefect?_redraw (start : Node) :
    flow'.graphDefect? (node start) = flow.graphDefect? start := by
  rw [graphDefect?, graphDefect?, h.id, h.search_redraw, h.nodes]
  cases flow.search start.id with
  | loop => rfl
  | reached met => simp [List.find?_map, Function.comp_def, h.id, h.type]

/-- A redrawn flow has the defect of the flow. -/
theorem defect?_redraw : flow'.defect? = flow.defect? := by
  have hsettings : flow'.nodes.findSome? settingsDefect? =
      flow.nodes.findSome? settingsDefect? := by
    simp [h.nodes, List.findSome?_map, Function.comp_def, h.settings]
  unfold defect?
  rw [h.nodesOfType_redraw, h.nodesOfType_redraw, hsettings]
  -- the counts of starts and ends decide whether edges and paths are looked at
  match flow.nodesOfType "start", flow.nodesOfType "end" with
  | [start], [finish] =>
    simp only [List.map_cons, List.map_nil, h.edgeDefect?_redraw, h.graphDefect?_redraw]
  | [start], [] => rfl
  | [start], _ :: _ :: _ => rfl
  | [], _ => rfl
  | _ :: _ :: _, _ => rfl

end Redraws

end Automation.Flow
