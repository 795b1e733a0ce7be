import Automation.Flow.Search
import Automation.Proofs.Flow.Graph

/-!
# What a search finds

A depth-first search from an id finds a loop exactly when the id reaches one, and otherwise it meets
exactly the ids that are reached (`search_eq_loop_iff`, `search_eq_reached`).

The invariant `Search.Sound` says where the search stands: a node is settled when it was met and has
left the path. Settled nodes lead to settled nodes only and all their ways end, every edge already
followed from a node on the path leads to a settled node or to the node above, and the nodes on the
path reach one another from below. `Search.work` bounds the steps that are still to come.
-/

set_option autoImplicit false

namespace Automation.Flow

/-- What a search from `root` has found is right: a loop is one that `root` reaches; without a loop,
the ids that were met are those that `root` reaches, and every way from `root` ends. -/
def Found.IsRight (flow : Flow) (root : String) : Found → Prop
  | .loop => ∃ a, flow.Reaches root a ∧ flow.IsOnLoop a
  | .reached met => (∀ a, a ∈ met ↔ flow.Reaches root a) ∧ flow.IsFinite root

namespace Search

variable {flow : Flow} {root : String} {s : Search}

/-- A node is settled when it was met and is no longer on the path. -/
def IsSettled (s : Search) (a : String) : Prop := a ∈ s.met ∧ ∀ f ∈ s.path, f.node ≠ a

/-- Every edge from a node of the path is still to be followed, or leads to a settled node or to the
node above it on the path. -/
def Followed (flow : Flow) (settled : String → Prop) : (above : Option String) → List Frame → Prop
  | _, [] => True
  | above, f :: rest =>
    (∀ e ∈ flow.outgoing f.node, e ∈ f.left ∨ settled e.target ∨ above = some e.target) ∧
      Followed flow settled (some f.node) rest

/-- The invariant of a search that began at `root`. -/
structure Sound (flow : Flow) (root : String) (s : Search) : Prop where
  root_met : root ∈ s.met
  met_reached : ∀ a ∈ s.met, flow.Reaches root a
  path_met : ∀ f ∈ s.path, f.node ∈ s.met
  path_nodup : (s.path.map Frame.node).Nodup
  path_reaches : s.path.Pairwise fun above below => flow.Reaches below.node above.node
  left_leaves : ∀ f ∈ s.path, ∀ e ∈ f.left, e ∈ flow.outgoing f.node
  settled_finite : ∀ a, s.IsSettled a → flow.IsFinite a
  settled_closed : ∀ a b, s.IsSettled a → flow.Leads a b → s.IsSettled b
  followed : Followed flow s.IsSettled none s.path

theorem onPath_eq_true {a : String} : s.onPath a = true ↔ ∃ f ∈ s.path, f.node = a := by
  simp [onPath]

theorem onPath_eq_false {a : String} : s.onPath a = false ↔ ∀ f ∈ s.path, f.node ≠ a := by
  simp [onPath]

theorem Followed.mono {settled settled' : String → Prop} (h : ∀ a, settled a → settled' a) :
    ∀ {above : Option String} {path : List Frame},
      Followed flow settled above path → Followed flow settled' above path
  | _, [], _ => trivial
  | _, _ :: _, ⟨hhead, hrest⟩ =>
    ⟨fun e he => (hhead e he).imp_right (Or.imp_left (h e.target)), hrest.mono h⟩

/-- When the node above settles, the edges that lead to it lead to a settled node. -/
theorem Followed.settle {settled settled' : String → Prop} {a : String} {path : List Frame}
    (h : ∀ b, settled b → settled' b) (ha : settled' a) (hf : Followed flow settled (some a) path) :
    Followed flow settled' none path := by
  cases path with
  | nil => trivial
  | cons f rest =>
    refine ⟨fun e he => ?_, hf.2.mono h⟩
    rcases hf.1 e he with hleft | hsettled | habove
    · exact Or.inl hleft
    · exact Or.inr (Or.inl (h e.target hsettled))
    · obtain rfl := Option.some.inj habove
      exact Or.inr (Or.inl ha)

/-- An edge of the top frame is followed when its target is settled, or goes above the frame. -/
theorem Followed.follow {settled settled' : String → Prop} {above : Option String} {f : Frame}
    {e : Edge} {left : List Edge} {rest : List Frame} (h : ∀ b, settled b → settled' b)
    (hf : Followed flow settled none (f :: rest)) (hleft : f.left = e :: left)
    (he : settled' e.target ∨ above = some e.target) :
    Followed flow settled' above (⟨f.node, left⟩ :: rest) := by
  refine ⟨fun e' he' => ?_, hf.2.mono h⟩
  rcases hf.1 e' he' with hmem | hsettled | habove
  · rw [hleft] at hmem
    rcases List.mem_cons.1 hmem with rfl | hmem
    · exact Or.inr he
    · exact Or.inl hmem
  · exact Or.inr (Or.inl (h e'.target hsettled))
  · cases habove

/-! ## The steps keep the invariant -/

theorem sound_begin (flow : Flow) (root : String) : Sound flow root (begin flow root) where
  root_met := List.mem_cons_self
  met_reached a ha := by
    obtain rfl := List.mem_singleton.1 ha
    exact Relation.ReflTransGen.refl
  path_met f hf := by
    obtain rfl := List.mem_singleton.1 hf
    exact List.mem_cons_self
  path_nodup := by simp [begin]
  path_reaches := by simp [begin]
  left_leaves f hf e he := by
    obtain rfl := List.mem_singleton.1 hf
    exact he
  settled_finite a ha := by
    obtain ⟨hmet, hpath⟩ := ha
    simp [begin] at hmet hpath
    exact absurd hmet.symm hpath
  settled_closed a b ha _ := by
    obtain ⟨hmet, hpath⟩ := ha
    simp [begin] at hmet hpath
    exact absurd hmet.symm hpath
  followed := ⟨fun _ he => Or.inl he, trivial⟩

variable {met : List String} {a : String} {e : Edge} {left : List Edge} {rest : List Frame}

/-- Dropping a frame without edges settles its node. -/
theorem Sound.drop (h : Sound flow root ⟨met, ⟨a, []⟩ :: rest⟩) : Sound flow root ⟨met, rest⟩ := by
  obtain ⟨hunique, hnodup⟩ := List.nodup_cons.1 h.path_nodup
  have hkeep : ∀ b, IsSettled ⟨met, ⟨a, []⟩ :: rest⟩ b → IsSettled ⟨met, rest⟩ b := fun b hb =>
    ⟨hb.1, fun f hf => hb.2 f (List.mem_cons_of_mem _ hf)⟩
  have hnew : IsSettled ⟨met, rest⟩ a :=
    ⟨h.path_met ⟨a, []⟩ List.mem_cons_self, fun f hf hfa => hunique (List.mem_map.2 ⟨f, hf, hfa⟩)⟩
  have hcases : ∀ b, IsSettled ⟨met, rest⟩ b → IsSettled ⟨met, ⟨a, []⟩ :: rest⟩ b ∨ b = a := by
    intro b hb
    by_cases hba : b = a
    · exact Or.inr hba
    · refine Or.inl ⟨hb.1, fun f hf => ?_⟩
      rcases List.mem_cons.1 hf with rfl | hf
      · exact fun hab => hba hab.symm
      · exact hb.2 f hf
  -- no edge of the dropped frame is left, and nothing stands above it
  have hsucc : ∀ b, flow.Leads a b → IsSettled ⟨met, ⟨a, []⟩ :: rest⟩ b := by
    intro b hab
    obtain ⟨e, he, rfl⟩ := leads_iff_outgoing.1 hab
    rcases h.followed.1 e he with hleft | hsettled | habove
    · cases hleft
    · exact hsettled
    · cases habove
  refine
    { root_met := h.root_met
      met_reached := h.met_reached
      path_met := fun f hf => h.path_met f (List.mem_cons_of_mem _ hf)
      path_nodup := hnodup
      path_reaches := (List.pairwise_cons.1 h.path_reaches).2
      left_leaves := fun f hf => h.left_leaves f (List.mem_cons_of_mem _ hf)
      settled_finite := ?_
      settled_closed := ?_
      followed := h.followed.2.settle hkeep hnew }
  -- the dropped node leads to settled nodes only, whose ways all end
  · intro b hb
    rcases hcases b hb with hb | rfl
    · exact h.settled_finite b hb
    · exact Acc.intro b fun c hc => h.settled_finite c (hsucc c hc)
  · intro b c hb hbc
    rcases hcases b hb with hb | rfl
    · exact hkeep c (h.settled_closed b c hb hbc)
    · exact hkeep c (hsucc c hbc)

/-- What holds of the nodes of a path holds of them with an edge less to follow. -/
theorem Sound.path_met_of_follow (h : Sound flow root ⟨met, ⟨a, e :: left⟩ :: rest⟩) :
    ∀ f ∈ (⟨a, left⟩ :: rest : List Frame), f.node ∈ met := by
  intro f hf
  rcases List.mem_cons.1 hf with rfl | hf
  · exact h.path_met ⟨a, e :: left⟩ List.mem_cons_self
  · exact h.path_met f (List.mem_cons_of_mem _ hf)

theorem Sound.left_leaves_of_follow (h : Sound flow root ⟨met, ⟨a, e :: left⟩ :: rest⟩) :
    ∀ f ∈ (⟨a, left⟩ :: rest : List Frame), ∀ e' ∈ f.left, e' ∈ flow.outgoing f.node := by
  intro f hf e' he'
  rcases List.mem_cons.1 hf with rfl | hf
  · exact h.left_leaves ⟨a, e :: left⟩ List.mem_cons_self e' (List.mem_cons_of_mem _ he')
  · exact h.left_leaves f (List.mem_cons_of_mem _ hf) e' he'

/-- Passing over an edge to a settled node keeps the invariant. -/
theorem Sound.pass (h : Sound flow root ⟨met, ⟨a, e :: left⟩ :: rest⟩)
    (he : IsSettled ⟨met, ⟨a, e :: left⟩ :: rest⟩ e.target) :
    Sound flow root ⟨met, ⟨a, left⟩ :: rest⟩ := by
  -- the same nodes are settled, since the same nodes are met and on the path
  have hsettled : ∀ b, IsSettled ⟨met, ⟨a, left⟩ :: rest⟩ b ↔
      IsSettled ⟨met, ⟨a, e :: left⟩ :: rest⟩ b := by
    simp [IsSettled]
  exact
    { root_met := h.root_met
      met_reached := h.met_reached
      path_met := h.path_met_of_follow
      path_nodup := h.path_nodup
      path_reaches := List.pairwise_cons.2 (List.pairwise_cons.1 h.path_reaches)
      left_leaves := h.left_leaves_of_follow
      settled_finite := fun b hb => h.settled_finite b ((hsettled b).1 hb)
      settled_closed := fun b c hb hbc =>
        (hsettled c).2 (h.settled_closed b c ((hsettled b).1 hb) hbc)
      followed := h.followed.follow (fun b hb => (hsettled b).2 hb) rfl
        (Or.inl ((hsettled e.target).2 he)) }

/-- Following an edge to a node that was not met puts that node on the path. -/
theorem Sound.push (h : Sound flow root ⟨met, ⟨a, e :: left⟩ :: rest⟩) (he : e.target ∉ met) :
    Sound flow root
      ⟨e.target :: met, ⟨e.target, flow.outgoing e.target⟩ :: ⟨a, left⟩ :: rest⟩ := by
  have hmet := h.path_met_of_follow
  have hlead : flow.Leads a e.target :=
    leads_of_outgoing (h.left_leaves ⟨a, e :: left⟩ List.mem_cons_self e List.mem_cons_self)
  -- the new node is met and stands on the path, so it is not settled
  have hsettled : ∀ b, IsSettled
      ⟨e.target :: met, ⟨e.target, flow.outgoing e.target⟩ :: ⟨a, left⟩ :: rest⟩ b ↔
        IsSettled ⟨met, ⟨a, e :: left⟩ :: rest⟩ b := by
    intro b
    simp only [IsSettled, List.mem_cons, forall_eq_or_imp, ne_eq]
    constructor
    · rintro ⟨hb, hne, hpath⟩
      exact ⟨hb.resolve_left fun hbe => hne hbe.symm, hpath⟩
    · rintro ⟨hb, hpath⟩
      refine ⟨Or.inr hb, ?_, hpath⟩
      rintro rfl
      exact he hb
  refine
    { root_met := List.mem_cons_of_mem _ h.root_met
      met_reached := ?_
      path_met := ?_
      path_nodup := ?_
      path_reaches := ?_
      left_leaves := ?_
      settled_finite := fun b hb => h.settled_finite b ((hsettled b).1 hb)
      settled_closed := fun b c hb hbc =>
        (hsettled c).2 (h.settled_closed b c ((hsettled b).1 hb) hbc)
      followed := ⟨fun _ he' => Or.inl he',
        h.followed.follow (fun b hb => (hsettled b).2 hb) rfl (Or.inr rfl)⟩ }
  · intro b hb
    rcases List.mem_cons.1 hb with rfl | hb
    · exact (h.met_reached a (hmet ⟨a, left⟩ List.mem_cons_self)).tail hlead
    · exact h.met_reached b hb
  · intro f hf
    rcases List.mem_cons.1 hf with rfl | hf
    · exact List.mem_cons_self
    · exact List.mem_cons_of_mem _ (hmet f hf)
  -- the nodes of the path are met, and the new node was not
  · refine List.nodup_cons.2 ⟨fun hin => ?_, h.path_nodup⟩
    obtain ⟨f, hf, hfe⟩ := List.mem_map.1 hin
    have hfmet := hmet f hf
    rw [hfe] at hfmet
    exact he hfmet
  · obtain ⟨hreach, hrest⟩ := List.pairwise_cons.1 h.path_reaches
    refine List.pairwise_cons.2 ⟨fun f hf => ?_, List.pairwise_cons.2 ⟨hreach, hrest⟩⟩
    rcases List.mem_cons.1 hf with rfl | hf
    · exact Relation.ReflTransGen.single hlead
    · exact (hreach f hf).tail hlead
  · intro f hf
    rcases List.mem_cons.1 hf with rfl | hf
    · exact fun _ he' => he'
    · exact h.left_leaves_of_follow f hf

/-! ## The steps that are still to come -/

/-- Twice the edges that were not followed yet, and the frames of the path. -/
def work (flow : Flow) (s : Search) : Nat :=
  2 * ((s.path.map fun f => f.left.length).sum +
    flow.edges.countP fun e => !s.met.contains e.source) + s.path.length

theorem work_begin (flow : Flow) (root : String) :
    work flow (begin flow root) ≤ 2 * flow.edges.length + 1 := by
  have hsplit := List.length_eq_countP_add_countP (fun e : Edge => e.source == root)
    (l := flow.edges)
  simp only [work, begin, outgoing, List.map_cons, List.map_nil, List.sum_cons, List.sum_nil,
    List.countP_eq_length_filter, List.length_cons, List.length_nil] at hsplit ⊢
  have hrest : (flow.edges.filter fun e => !([root].contains e.source)).length =
      (flow.edges.filter fun e => decide ¬(e.source == root) = true).length := by
    congr 1
    apply List.filter_congr
    intro e _
    simp
  omega

/-- The edges of a node that is met for the first time move from the unmet ones to its frame. -/
theorem countP_unmet {b : String} {met : List String} (hb : b ∉ met) (edges : List Edge) :
    (edges.filter fun e => e.source == b).length +
        edges.countP (fun e => !(b :: met).contains e.source) =
      edges.countP fun e => !met.contains e.source := by
  induction edges with
  | nil => rfl
  | cons e rest ih =>
    -- an edge of the node moves from one count to the other, any other edge stays
    by_cases he : e.source = b
    · have hmet : met.contains e.source = false := by simpa [he] using hb
      simp [he, hb] at ih ⊢
      omega
    · by_cases hmem : e.source ∈ met
      · simp [he, hmem] at ih ⊢
        exact ih
      · simp [he, hmem] at ih ⊢
        omega

/-- One step of a search keeps the invariant and leaves less to do, or ends the search with what is
right. -/
theorem Sound.step (h : Sound flow root s) :
    match s.step flow with
    | .inl t => Sound flow root t ∧ work flow t < work flow s
    | .inr found => found.IsRight flow root := by
  obtain ⟨met, path⟩ := s
  cases path with
  | nil =>
    -- without a path every node that was met is settled, so edges lead to met nodes only
    have hfinite : ∀ a ∈ met, IsSettled ⟨met, []⟩ a := fun a ha => ⟨ha, by simp⟩
    refine ⟨fun a => ⟨h.met_reached a, fun ha => ?_⟩,
      h.settled_finite root (hfinite root h.root_met)⟩
    induction ha with
    | refl => exact h.root_met
    | tail _ hstep ih => exact (h.settled_closed _ _ (hfinite _ ih) hstep).1
  | cons f rest =>
    obtain ⟨a, left⟩ := f
    cases left with
    | nil =>
      refine ⟨h.drop, ?_⟩
      simp only [work, List.map_cons, List.sum_cons, List.length_cons, List.length_nil]
      omega
    | cons e left =>
      have hleave := h.left_leaves ⟨a, e :: left⟩ List.mem_cons_self e List.mem_cons_self
      by_cases hon : onPath ⟨met, ⟨a, e :: left⟩ :: rest⟩ e.target = true
      · simp only [Search.step, hon, if_true]
        obtain ⟨f, hf, hfe⟩ := onPath_eq_true.1 hon
        -- the target stands below the top of the path, or is the top itself
        have hreach : flow.Reaches e.target a := by
          rcases List.mem_cons.1 hf with rfl | hf
          · exact hfe ▸ Relation.ReflTransGen.refl
          · exact hfe ▸ (List.pairwise_cons.1 h.path_reaches).1 f hf
        refine ⟨e.target, h.met_reached _ ?_,
          isOnLoop_of_reaches_of_leads hreach (leads_of_outgoing hleave)⟩
        exact hfe ▸ h.path_met f hf
      · have hoff := onPath_eq_false.1 (Bool.eq_false_iff.2 hon)
        by_cases hmet : e.target ∈ met
        · have hcontains : met.contains e.target = true := by simpa using hmet
          simp only [Search.step, hon, hcontains, if_true]
          refine ⟨h.pass ⟨hmet, hoff⟩, ?_⟩
          simp only [work, List.map_cons, List.sum_cons, List.length_cons]
          omega
        · have hcontains : met.contains e.target = false := by simpa using hmet
          simp only [Search.step, hon, hcontains]
          refine ⟨h.push hmet, ?_⟩
          have hcount := countP_unmet hmet flow.edges
          simp only [work, outgoing, List.map_cons, List.sum_cons, List.length_cons]
          omega

/-- A search with enough steps before it ends with what is right. -/
theorem Sound.run {fuel : Nat} (h : Sound flow root s) (hfuel : work flow s < fuel) :
    (s.run flow fuel).IsRight flow root := by
  induction fuel generalizing s with
  | zero => omega
  | succ fuel ih =>
    have hstep := h.step
    rw [Search.run]
    cases hs : s.step flow with
    | inl t =>
      rw [hs] at hstep
      exact ih hstep.1 (by omega)
    | inr found =>
      rw [hs] at hstep
      exact hstep

end Search

/-! ## What a search finds -/

/-- What a search finds is right. -/
theorem search_isRight (flow : Flow) (root : String) : (flow.search root).IsRight flow root := by
  have hwork := Search.work_begin flow root
  exact (Search.sound_begin flow root).run (by omega)

/-- A search finds a loop exactly when its beginning reaches one. -/
theorem search_eq_loop_iff {flow : Flow} {root : String} :
    flow.search root = .loop ↔ ∃ a, flow.Reaches root a ∧ flow.IsOnLoop a := by
  have hright := search_isRight flow root
  cases hs : flow.search root with
  | loop =>
    rw [hs] at hright
    exact ⟨fun _ => hright, fun _ => rfl⟩
  | reached met =>
    rw [hs] at hright
    refine ⟨nofun, ?_⟩
    rintro ⟨a, hreach, hloop⟩
    exact absurd hright.2 (not_isFinite_of_loop hreach hloop)

/-- A search that finds no loop meets exactly the ids that its beginning reaches. -/
theorem search_eq_reached {flow : Flow} {root : String} {met : List String}
    (h : flow.search root = .reached met) (a : String) : a ∈ met ↔ flow.Reaches root a := by
  have hright := search_isRight flow root
  rw [h] at hright
  exact hright.1 a

end Automation.Flow
