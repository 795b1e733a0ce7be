import Automation.Flow.Basic

/-!
# Search of a flow

A depth-first search along the edges of a flow. The search keeps the path from its beginning to
where it stands, as a stack of frames, each with the edges of a node that are still to be followed.
An edge back to a node on the path closes a loop; an edge to any other node met before is passed
over. A step either takes one edge from a frame or drops a frame without edges, and every frame has
the edges of another node, so `2 * edges + 2` steps are enough.
-/

set_option autoImplicit false

namespace Automation.Flow

/-- A node on the path, with the edges that are still to be followed from it. -/
structure Frame where
  node : String
  left : List Edge

/-- The state of a search: all nodes met so far, and the path. -/
structure Search where
  met : List String
  path : List Frame

/-- The end of a search. -/
inductive Found where
  /-- An edge led back to the path. -/
  | loop
  /-- Every edge was followed; these are the nodes that were met. -/
  | reached (met : List String)

namespace Search

/-- Whether a node is on the path. -/
def onPath (s : Search) (id : String) : Bool := s.path.any fun f => f.node == id

/-- A search that begins at a node. -/
def begin (flow : Flow) (id : String) : Search := ⟨[id], [⟨id, flow.outgoing id⟩]⟩

/-- One step of a search: a search that goes on, or its end. -/
def step (flow : Flow) (s : Search) : Search ⊕ Found :=
  match s.path with
  | [] => .inr (.reached s.met)
  | ⟨_, []⟩ :: rest => .inl ⟨s.met, rest⟩
  | ⟨id, e :: left⟩ :: rest =>
    if s.onPath e.target then .inr .loop
    else if s.met.contains e.target then .inl ⟨s.met, ⟨id, left⟩ :: rest⟩
    else
      .inl ⟨e.target :: s.met,
        ⟨e.target, flow.outgoing e.target⟩ :: ⟨id, left⟩ :: rest⟩

/-- A search of at most `fuel` steps. -/
def run (flow : Flow) : (fuel : Nat) → Search → Found
  | 0, s => .reached s.met
  | fuel + 1, s =>
    match s.step flow with
    | .inl s => run flow fuel s
    | .inr found => found

end Search

/-- What a search from a node finds. -/
def search (flow : Flow) (id : String) : Found :=
  (Search.begin flow id).run flow (2 * flow.edges.length + 2)

end Automation.Flow
