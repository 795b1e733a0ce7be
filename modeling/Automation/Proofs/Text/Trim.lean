import Automation.Text.Blank
import Mathlib.Data.List.DropRight

/-!
# Trimmed texts

A text is trimmed when it neither begins nor ends with a character that trimming drops. Trimming
gives such a text (`isTrimmed_trimChars`), and leaves one alone (`IsTrimmed.trimChars_eq`).
-/

set_option autoImplicit false

namespace Automation.Text

/-- The text does not begin with a character of this class, and does not end with one. -/
structure IsTrimmed (p : Char → Bool) (cs : List Char) : Prop where
  head : ∀ c ∈ cs.head?, p c = false
  last : ∀ c ∈ cs.getLast?, p c = false

variable {p : Char → Bool} {cs : List Char}

theorem dropWhile_eq_self_iff_head : cs.dropWhile p = cs ↔ ∀ c ∈ cs.head?, p c = false := by
  cases cs with
  | nil => simp
  | cons c rest => simp [List.dropWhile_eq_self_iff]

theorem rdropWhile_eq_self_iff_last :
    cs.rdropWhile p = cs ↔ ∀ c ∈ cs.getLast?, p c = false := by
  rw [List.rdropWhile_eq_self_iff]
  by_cases hcs : cs = []
  · simp [hcs]
  · simp [hcs, List.getLast?_eq_some_getLast]

theorem trimChars_eq_rdropWhile (p : Char → Bool) (cs : List Char) :
    trimChars p cs = (cs.dropWhile p).rdropWhile p := rfl

/-- A trimmed text has nothing to trim. -/
theorem IsTrimmed.trimChars_eq (h : IsTrimmed p cs) : trimChars p cs = cs := by
  rw [trimChars_eq_rdropWhile, dropWhile_eq_self_iff_head.2 h.head,
    rdropWhile_eq_self_iff_last.2 h.last]

theorem isTrimmed_trimChars (p : Char → Bool) (cs : List Char) : IsTrimmed p (trimChars p cs) := by
  rw [trimChars_eq_rdropWhile]
  refine ⟨fun c hc => ?_, rdropWhile_eq_self_iff_last.1 (List.rdropWhile_idempotent p _)⟩
  -- what is left begins as the text without the characters at its front
  have hfront : ∀ c ∈ (cs.dropWhile p).head?, p c = false :=
    dropWhile_eq_self_iff_head.1 (List.dropWhile_idempotent p cs)
  obtain ⟨rest, hrest⟩ := List.rdropWhile_prefix p (cs.dropWhile p)
  refine hfront c ?_
  rw [← hrest, List.head?_append_of_ne_nil]
  · exact hc
  · rintro hnil
    rw [hnil] at hc
    cases hc

/-- A text that was trimmed has nothing left to trim. -/
theorem trim_trim (s : String) : trim (trim s) = trim s := by
  unfold trim
  rw [String.toList_ofList, (isTrimmed_trimChars isBlank s.toList).trimChars_eq]

end Automation.Text
