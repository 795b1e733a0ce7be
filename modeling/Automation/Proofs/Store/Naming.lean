import Automation.Proofs.Store.Change
import Automation.Value.ObjectId
import Mathlib.Data.List.Nodup
import Mathlib.Data.List.Perm.Subperm
import Mathlib.Tactic.IntervalCases

/-!
# The ids of documents

The ids that the store gives out increase, and none of them is in use (`uses_freshNumber`). As long
as the numbers of a collection have no more than twenty-three digits, its ids have twenty-four
hexadecimal ones, and an id of so many digits is what its written form spells
(`ObjectId.ofText?_text`). A collection whose ids were given out once each stays one when a document
is added or changed (`Shelf.IsNumbered`).
-/

set_option autoImplicit false

namespace Automation

open Automation.Text

/-! ## Written ids -/

theorem hexDigit?_hexDigit {d : Nat} (h : d < 16) : hexDigit? (hexDigit d) = some d := by
  interval_cases d <;> decide

theorem length_hexText (width n : Nat) : (hexText width n).length = width := by
  induction width generalizing n with
  | zero => rfl
  | succ width ih => simp [hexText, ih]

/-- The digits of a number are read back as the number, but for what is beyond their width. -/
theorem mapM_hexText (width n : Nat) :
    ∃ ds, (hexText width n).toList.mapM hexDigit? = some ds ∧
      ds.foldl (fun n d => 16 * n + d) 0 = n % 16 ^ width := by
  induction width generalizing n with
  | zero => exact ⟨[], rfl, by simp [Nat.mod_one]⟩
  | succ width ih =>
    obtain ⟨ds, hds, hn⟩ := ih (n / 16)
    have hlast : hexDigit? (hexDigit (n % 16)) = some (n % 16) :=
      hexDigit?_hexDigit (Nat.mod_lt n (by decide))
    refine ⟨ds ++ [n % 16], by simp [hexText, hds, hlast], ?_⟩
    have hsplit : n % 16 ^ (width + 1) = n % 16 + 16 * (n / 16 % 16 ^ width) := by
      rw [Nat.pow_succ, Nat.mul_comm, Nat.mod_mul]
    rw [List.foldl_append, hn, hsplit]
    simp only [List.foldl_cons, List.foldl_nil]
    omega

namespace ObjectId

/-- An id with no more digits than ids are written with. -/
def IsProper (id : ObjectId) : Prop := id.number < 16 ^ width

variable {id id' : ObjectId}

theorem ofText?_text (h : id.IsProper) : ofText? id.text = some id := by
  obtain ⟨ds, hds, hn⟩ := mapM_hexText width id.number
  rw [ofText?, text, if_pos (length_hexText width _), hds, Option.map_some, hn,
    Nat.mod_eq_of_lt h]

/-- A text that spells an id is not empty. -/
theorem isFalsy_of_ofText? {t : String} (h : ofText? t = some id) :
    (Value.text t).isFalsy = false := by
  have hnone : ofText? "" = none := by decide
  rw [Value.isFalsy, Bool.eq_false_iff]
  intro hempty
  rw [String.isEmpty_iff.1 hempty, hnone] at h
  cases h

theorem text_inj (h : id.IsProper) (h' : id'.IsProper) (htext : id.text = id'.text) : id = id' := by
  have hread := ofText?_text h
  rw [htext, ofText?_text h'] at hread
  exact (Option.some.inj hread).symm

end ObjectId

/-! ## Numbers as ids -/

theorem decimalAsHex_eq (n : Nat) : decimalAsHex n = 16 * decimalAsHex (n / 10) + n % 10 := by
  have hdigit : ∀ d < 10, (Nat.digitChar d).toNat - '0'.toNat = d := by decide
  have hsmall : ∀ d < 10, decimalAsHex d = d := by
    intro d hd
    rw [decimalAsHex, Nat.toDigits_of_lt_base hd]
    simpa using hdigit d hd
  by_cases hn : n < 10
  · rw [Nat.div_eq_of_lt hn, hsmall n hn, hsmall 0 (by decide), Nat.mod_eq_of_lt hn]
    omega
  · have hlast := hdigit (n % 10) (Nat.mod_lt n (by decide))
    rw [decimalAsHex, Nat.toDigits_of_base_le (by decide) (Nat.le_of_not_lt hn), List.foldl_append]
    simp only [List.foldl_cons, List.foldl_nil, hlast]
    rfl

/-- Digits read in base sixteen keep the order of the numbers. -/
theorem decimalAsHex_lt {m n : Nat} (h : m < n) : decimalAsHex m < decimalAsHex n := by
  induction n using Nat.strong_induction_on generalizing m with
  | _ n ih =>
    rw [decimalAsHex_eq m, decimalAsHex_eq n]
    rcases Nat.lt_or_ge (m / 10) (n / 10) with hlt | hge
    · have hdiv := ih (n / 10) (by omega) hlt
      omega
    · have hdiv : m / 10 = n / 10 := by omega
      rw [hdiv]
      omega

theorem decimalAsHex_lt_pow {k n : Nat} (h : n < 10 ^ k) : decimalAsHex n < 16 ^ k := by
  induction k generalizing n with
  | zero =>
    obtain rfl : n = 0 := by simpa using h
    decide
  | succ k ih =>
    have hdiv := ih (n := n / 10) (by rw [Nat.pow_succ] at h; omega)
    rw [decimalAsHex_eq, Nat.pow_succ]
    omega

namespace Collection

variable {c : Collection}

theorem numbered_lt {m n : Nat} (h : m < n) : (c.numbered m).number < (c.numbered n).number :=
  Nat.add_lt_add_left (decimalAsHex_lt h) _

theorem numbered_injective : Function.Injective c.numbered := by
  intro m n h
  rcases Nat.lt_trichotomy m n with hlt | heq | hgt
  · exact absurd (congrArg ObjectId.number h) (Nat.ne_of_lt (numbered_lt hlt))
  · exact heq
  · exact absurd (congrArg ObjectId.number h) (Nat.ne_of_gt (numbered_lt hgt))

/-- The greatest number under which an id has no more digits than ids are written with. -/
theorem numbered_isProper {n : Nat} (h : n < 10 ^ 23) : (c.numbered n).IsProper := by
  have hn := decimalAsHex_lt_pow h
  have hletter : c.letter ≤ 12 := by cases c <;> decide
  show c.letter * Nat.pow 16 23 + decimalAsHex n < 16 ^ ObjectId.width
  have hpow : 16 ^ ObjectId.width = 16 * Nat.pow 16 23 := by decide
  have hpow' : 16 ^ 23 = Nat.pow 16 23 := by decide
  rw [hpow'] at hn
  rw [hpow]
  have hmul := Nat.mul_le_mul_right (Nat.pow 16 23) hletter
  omega

end Collection

/-! ## Fresh ids -/

namespace Store

variable {s : Store} {c : Collection}

/-- One of the candidates for a fresh number is found. -/
theorem exists_fresh (s : Store) (c : Collection) :
    ∃ n, s.freshNumber c = n ∧ (s.shelf c).lastNumber < n ∧
      (s.shelf c).uses (c.numbered n) = false := by
  let shelf := s.shelf c
  let candidates := (List.range (shelf.documents.length + 1)).map (shelf.lastNumber + 1 + ·)
  cases hfind : candidates.find? fun n => !shelf.uses (c.numbered n) with
  | some n =>
    refine ⟨n, ?_, ?_, by simpa using List.find?_some hfind⟩
    · show (candidates.find? fun n => !shelf.uses (c.numbered n)).getD (shelf.lastNumber + 1) = n
      rw [hfind, Option.getD_some]
    · obtain ⟨i, -, hi⟩ := List.mem_map.1 (List.mem_of_find?_eq_some hfind)
      have hlast : shelf.lastNumber < n := by omega
      exact hlast
  | none =>
    -- otherwise every candidate is the id of a document, and there are more candidates
    exfalso
    have hinj : Function.Injective fun i => c.numbered (shelf.lastNumber + 1 + i) := by
      intro i j hij
      have := Collection.numbered_injective hij
      omega
    have hnodup := List.Nodup.map hinj (List.nodup_range (n := shelf.documents.length + 1))
    have hsub : (List.range (shelf.documents.length + 1)).map
        (fun i => c.numbered (shelf.lastNumber + 1 + i)) ⊆ shelf.documents.map Document.id := by
      intro id hid
      obtain ⟨i, hi, rfl⟩ := List.mem_map.1 hid
      have hused := List.find?_eq_none.1 hfind (shelf.lastNumber + 1 + i)
        (List.mem_map_of_mem hi)
      have huses : shelf.uses (c.numbered (shelf.lastNumber + 1 + i)) = true := by simpa using hused
      obtain ⟨d, hd, heq⟩ := List.any_eq_true.1 huses
      exact List.mem_map.2 ⟨d, hd, by simpa using heq⟩
    have hlength := (List.subperm_of_subset hnodup hsub).length_le
    simp at hlength

theorem lastNumber_lt_freshNumber (s : Store) (c : Collection) :
    (s.shelf c).lastNumber < s.freshNumber c := by
  obtain ⟨n, hn, hlt, -⟩ := s.exists_fresh c
  rwa [hn]

/-- The id of a new document is not in use. -/
theorem uses_freshNumber (s : Store) (c : Collection) :
    (s.shelf c).uses (c.numbered (s.freshNumber c)) = false := by
  obtain ⟨n, hn, -, huses⟩ := s.exists_fresh c
  rwa [hn]

theorem id_ne_fresh {s : Store} {c : Collection} {d : Document}
    (hd : d ∈ (s.shelf c).documents) : d.id ≠ c.numbered (s.freshNumber c) := by
  have hunused := List.any_eq_false.1 (s.uses_freshNumber c) d hd
  simpa using hunused

end Store

/-! ## Numbered collections -/

namespace Shelf

/-- Every document of a collection has an id that was given out, and no other document has it. -/
structure IsNumbered (c : Collection) (s : Shelf) : Prop where
  nodup : (s.documents.map Document.id).Nodup
  given : ∀ d ∈ s.documents, ∃ n ≤ s.lastNumber, d.id = c.numbered n

variable {c : Collection} {s : Shelf}

/-- A number above every one that was given out is the id of no document. -/
theorem IsNumbered.id_ne (h : s.IsNumbered c) {n : Nat} (hn : s.lastNumber < n) :
    ∀ d ∈ s.documents, d.id ≠ c.numbered n := by
  intro d hd hid
  obtain ⟨m, hm, hid'⟩ := h.given d hd
  have hsame := Collection.numbered_injective (hid'.symm.trans hid)
  omega

/-- A new document gets a number that was never given out. -/
theorem IsNumbered.concat (h : s.IsNumbered c) {n : Nat} (hn : s.lastNumber < n)
    (fields : Fields) : (⟨s.documents ++ [⟨c.numbered n, fields⟩], n⟩ : Shelf).IsNumbered c := by
  have hnew := h.id_ne hn
  constructor
  · rw [List.map_append, List.nodup_append]
    refine ⟨h.nodup, List.nodup_singleton _, ?_⟩
    rintro id hid id' hid' rfl
    obtain ⟨d, hd, heq⟩ := List.mem_map.1 hid
    rw [List.mem_singleton.1 hid'] at heq
    exact hnew d hd heq
  · intro d hd
    rcases List.mem_append.1 hd with hd | hd
    · obtain ⟨m, hm, hid⟩ := h.given d hd
      exact ⟨m, Nat.le_of_lt (Nat.lt_of_le_of_lt hm hn), hid⟩
    · rw [List.mem_singleton.1 hd]
      exact ⟨n, Nat.le_refl n, rfl⟩

/-- A change of a document leaves the ids as they are. -/
theorem IsNumbered.change (h : s.IsNumbered c) (id : ObjectId) (changes : Fields) :
    (s.change id changes).IsNumbered c := by
  refine ⟨by rw [map_id_change]; exact h.nodup, fun d' hd' => ?_⟩
  obtain ⟨d, hd, hid, -⟩ := mem_change hd'
  rw [hid]
  exact h.given d hd

end Shelf

end Automation
