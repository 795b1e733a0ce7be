import Automation.Http.Route
import Automation.Value.ObjectId
import Mathlib.Data.String.Basic

/-!
# Paths and what they ask for

A path that is put together from segments is split into the same segments (`Http.segments?_pathOf`).
So a path with the spelling of an id in it leads to the route that it was made for
(`Http.direct_path`): a spelling has no slash in it, and is none of the words in the other paths.
-/

set_option autoImplicit false

namespace Automation

/-! ## Splitting at slashes -/

open String in
/-- What is left of a text is split at its slashes, where `l` was split before and `m` is the
segment that has begun. -/
theorem splitOnAux_slash (l m r : List Char) (acc : List String) :
    splitOnAux (ofList (l ++ m ++ r)) "/" ⟨utf8Len l⟩ ⟨utf8Len l + utf8Len m⟩ 0 acc =
      acc.reverse ++ (List.splitOnPPrepend (· == '/') r m.reverse).map ofList := by
  have hend : Pos.Raw.atEnd (ofList (l ++ m ++ r)) ⟨utf8Len l + utf8Len m⟩ = true ↔ r = [] := by
    simpa [-ofList_append, -atEnd_iff] using atEnd_of_valid (l ++ m) r
  have hsegment : Pos.Raw.extract (ofList (l ++ m ++ r)) ⟨utf8Len l⟩ ⟨utf8Len l + utf8Len m⟩ =
      ofList m := extract_of_valid l m r
  rw [splitOnAux]
  cases r with
  | nil =>
    rw [if_pos (hend.2 rfl), hsegment]
    simp
  | cons c r =>
    have hget : Pos.Raw.get (ofList (l ++ m ++ c :: r)) ⟨utf8Len l + utf8Len m⟩ = c := by
      simpa [-ofList_append] using get_of_valid (l ++ m) (c :: r)
    have hnext : Pos.Raw.next (ofList (l ++ m ++ c :: r)) ⟨utf8Len l + utf8Len m⟩ =
        ⟨utf8Len l + utf8Len m + c.utf8Size⟩ := by
      simpa [-ofList_append] using next_of_valid (l ++ m) c r
    have hfirst : Pos.Raw.get "/" 0 = '/' := by decide
    have hlast : Pos.Raw.next "/" 0 = ⟨1⟩ := by decide
    rw [if_neg fun h => List.cons_ne_nil c r (hend.1 h), hget, hfirst]
    split
    · -- the segment ends, and the next one begins after the slash
      rename_i hslash
      obtain rfl : c = '/' := by simpa using hslash
      have hback : Pos.Raw.unoffsetBy ⟨utf8Len l + utf8Len m + '/'.utf8Size⟩ ⟨1⟩ =
          ⟨utf8Len l + utf8Len m⟩ := by
        simp [Pos.Raw.unoffsetBy, Char.utf8Size]
      simp only [hnext, hlast]
      rw [if_pos (by decide), hback, hsegment]
      have hrest := splitOnAux_slash (l ++ m ++ ['/']) [] r (ofList m :: acc)
      simpa [List.splitOnPPrepend_cons_eq_if, Nat.add_assoc] using hrest
    · rename_i hslash
      have hback : Pos.Raw.unoffsetBy ⟨utf8Len l + utf8Len m⟩ 0 = ⟨utf8Len l + utf8Len m⟩ := by
        simp [Pos.Raw.unoffsetBy]
      rw [hback, hnext]
      have hrest := splitOnAux_slash l (m ++ [c]) r acc
      simpa [List.splitOnPPrepend_cons_eq_if, Nat.add_assoc, hslash] using hrest

theorem splitOn_slash (s : String) :
    s.splitOn "/" = (s.toList.splitOnP (· == '/')).map String.ofList := by
  have hsplit := splitOnAux_slash [] [] s.toList []
  rw [String.splitOn, if_neg (by decide)]
  simpa using hsplit

namespace Http

/-- A text without slashes. -/
def IsSegment (s : String) : Prop := '/' ∉ s.toList

/-- The path of some segments. -/
def pathOf (segments : List String) : String := String.join (segments.map ("/" ++ ·))

theorem toList_pathOf_cons (s : String) (rest : List String) :
    (pathOf (s :: rest)).toList = '/' :: (s.toList ++ (pathOf rest).toList) := by
  simp [pathOf]

/-- A segment ends where the path of the others begins. -/
theorem splitOnP_segments {s : String} {rest : List String} (hs : IsSegment s)
    (hrest : ∀ s ∈ rest, IsSegment s) :
    (s.toList ++ (pathOf rest).toList).splitOnP (· == '/') =
      s.toList :: rest.map String.toList := by
  have hplain : ∀ {s : String}, IsSegment s → ∀ c ∈ s.toList, (c == '/') = false := by
    rintro s hs c hc
    rw [beq_eq_false_iff_ne]
    rintro rfl
    exact hs hc
  induction rest generalizing s with
  | nil => simpa [pathOf] using List.splitOnP_eq_singleton (hplain hs)
  | cons next rest ih =>
    rw [toList_pathOf_cons, List.splitOnP_append_cons_of_forall_mem (hplain hs) '/' rfl,
      ih (hrest next List.mem_cons_self) fun s h => hrest s (List.mem_cons_of_mem _ h),
      List.map_cons]

/-- A path is split into the segments that it was put together from. -/
theorem segments?_pathOf {s : String} {rest : List String} (hs : IsSegment s)
    (hrest : ∀ s ∈ rest, IsSegment s) : segments? (pathOf (s :: rest)) = some (s :: rest) := by
  have hsplit : (pathOf (s :: rest)).splitOn "/" = "" :: s :: rest := by
    rw [splitOn_slash, toList_pathOf_cons]
    rw [show ∀ cs : List Char, '/' :: cs = [] ++ '/' :: cs from fun _ => rfl,
      List.splitOnP_append_cons_of_forall_mem (fun c hc => absurd hc List.not_mem_nil) '/' rfl,
      splitOnP_segments hs hrest]
    simp [Function.comp_def]
  rw [segments?, hsplit]
  rfl

/-! ## Paths with an id -/

/-- The segments of an entry, with an id in them. -/
def Entry.segments (e : Entry) (id : String) : List String :=
  e.pattern.map fun segment =>
    match segment with
    | .word w => w
    | .id => id

/-- The path of an entry, with an id in it. -/
def Entry.path (e : Entry) (id : String) : String := pathOf (e.segments id)

/-- The spelling of an id is a segment, and no word that stands in the place of one. -/
theorem isSegment_of_spelled {id : String} {oid : ObjectId} (hid : ObjectId.ofText? id = some oid) :
    IsSegment id ∧ id.isEmpty = false ∧ id ≠ "validate" ∧ id ≠ "validate\n" := by
  unfold ObjectId.ofText? at hid
  split at hid
  · rename_i hlength
    obtain ⟨ds, hds, -⟩ := Option.map_eq_some_iff.1 hid
    have hnot : ∀ w : String, w.length ≠ ObjectId.width → id ≠ w := by
      rintro w hw rfl
      exact hw hlength
    refine ⟨fun hslash => ?_, ?_, hnot _ (by decide), hnot _ (by decide)⟩
    · -- a slash is no digit
      obtain ⟨before, after, heq⟩ := List.append_of_mem hslash
      have hnone : Text.hexDigit? '/' = none := by decide
      rw [heq] at hds
      simp [hnone] at hds
    · have hempty := hnot "" (by decide)
      simpa [String.isEmpty_iff] using hempty
  · cases hid

/-- A path with the spelling of an id in it fits the pattern that it was made from, and no other. -/
theorem fit?_spelled {e e' : Entry} (he : e ∈ entries) (he' : e' ∈ entries)
    (hpattern : Segment.id ∈ e.pattern) {id : String} {oid : ObjectId}
    (hid : ObjectId.ofText? id = some oid) :
    fit? e'.pattern (e.segments id) = if e'.pattern = e.pattern then some id else none := by
  obtain ⟨-, hempty, hvalidate, hvalidate'⟩ := isSegment_of_spelled hid
  revert e' hpattern
  simp only [entries, List.mem_cons, List.not_mem_nil, or_false] at he
  rcases he with rfl | rfl | rfl | rfl | rfl | rfl | rfl | rfl | rfl | rfl | rfl | rfl | rfl | rfl |
    rfl | rfl <;>
  simp +decide [entries, page, fit?, flowsWord, runsWord, hempty, hvalidate, hvalidate',
    Entry.segments]

/-- Entries have at least one segment, and no slash in a word. -/
theorem isSegment_of_mem {e : Entry} (he : e ∈ entries) {id : String} (hid : IsSegment id) :
    ∃ s rest, e.segments id = s :: rest ∧ IsSegment s ∧ ∀ s ∈ rest, IsSegment s := by
  simp only [entries, List.mem_cons, List.not_mem_nil, or_false] at he
  rcases he with rfl | rfl | rfl | rfl | rfl | rfl | rfl | rfl | rfl | rfl | rfl | rfl | rfl | rfl |
    rfl | rfl <;>
  simp +decide [page, flowsWord, runsWord, Entry.segments, IsSegment] at hid ⊢ <;> exact hid

/-- What is made of the first item that fits. -/
theorem findSome?_eq_map_find? {α β : Type} {f : α → Option β} {p : α → Bool} {g : α → β}
    {items : List α} (h : ∀ a ∈ items, f a = if p a then some (g a) else none) :
    items.findSome? f = (items.find? p).map g := by
  induction items with
  | nil => rfl
  | cons a rest ih =>
    rw [List.findSome?_cons, List.find?_cons, h a List.mem_cons_self,
      ih fun a ha => h a (List.mem_cons_of_mem _ ha)]
    cases p a <;> rfl

/-- The path of a route with the spelling of an id in it leads to the route of that pattern for the
method, with that id, or nowhere if there is none. -/
theorem direct_path {e : Entry} (he : e ∈ entries) (hpattern : Segment.id ∈ e.pattern)
    {id : String} {oid : ObjectId} (hid : ObjectId.ofText? id = some oid) (method : String) :
    direct method (e.path id) =
      match entries.find? fun e' => e'.methods.contains method && e'.pattern == e.pattern with
      | some e' => .to (e'.route id)
      | none => .otherMethod := by
  obtain ⟨hsegment, -⟩ := isSegment_of_spelled hid
  obtain ⟨s, rest, hsegments, hs, hrest⟩ := isSegment_of_mem he hsegment
  have hfits : ∀ e' ∈ entries, e'.fits? (e.path id) =
      if e'.pattern = e.pattern then some id else none := by
    intro e' he'
    rw [Entry.fits?, Entry.path, hsegments, segments?_pathOf hs hrest, ← hsegments]
    exact fit?_spelled he he' hpattern hid
  have hknown : isKnown (e.path id) = true := by
    refine List.any_eq_true.2 ⟨e, he, ?_⟩
    rw [hfits e he, if_pos rfl]
    rfl
  have htaken : (entries.findSome? fun e' =>
      if e'.methods.contains method then (e'.fits? (e.path id)).map e'.route else none) =
        (entries.find? fun e' => e'.methods.contains method && e'.pattern == e.pattern).map
          fun e' => e'.route id := by
    refine findSome?_eq_map_find? fun e' he' => ?_
    rw [hfits e' he']
    by_cases hpattern' : e'.pattern = e.pattern <;> simp [hpattern']
  unfold direct
  rw [htaken, hknown]
  cases entries.find? fun e' => e'.methods.contains method && e'.pattern == e.pattern <;> rfl

/-! ## Some entries -/

/-- The route to a flow. -/
def flowEntry : Entry := ⟨["GET"], [flowsWord, .id], .flow⟩

/-- The route by which a flow is run. -/
def startEntry : Entry := ⟨["POST"], [runsWord, .id, .word "test"], .startRun⟩

/-- The route to the runs of a flow. -/
def runsEntry : Entry := ⟨["GET"], [runsWord, .id, .word "test-runs"], .runsOfFlow⟩

/-- The route to the audit of a run. -/
def auditEntry : Entry := ⟨["GET"], [runsWord, .id, .word "logs"], .audit⟩

theorem flowEntry_mem : flowEntry ∈ entries := by simp [entries, flowEntry]

theorem startEntry_mem : startEntry ∈ entries := by simp [entries, startEntry]

theorem runsEntry_mem : runsEntry ∈ entries := by simp [entries, runsEntry]

theorem auditEntry_mem : auditEntry ∈ entries := by simp [entries, auditEntry]

end Http

end Automation
