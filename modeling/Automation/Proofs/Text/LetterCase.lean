import Automation.Proofs.Text.Trim
import Automation.Text.LetterCase
import Mathlib.Data.List.Basic

/-!
# Texts in lower case

A text in lower case stays as it is when it is put into lower case again (`lower_lower`), and what
was trimmed before is trimmed afterwards (`trim_lower_trim`).

Both rest on the table of lower case images. `lowerShifts_isSound` checks it row against row: no
image of a row is moved by any row, or stands in one of the ranges that hold no letter
(`unlettered`).
-/

set_option autoImplicit false

namespace Automation.Text

namespace LetterCase

/-! ## Rows -/

namespace Shift

/-- The row is for this code point. -/
def Covers (r : Shift) (n : Nat) : Prop :=
  r.first ≤ n ∧ n ≤ r.last ∧ (n - r.first) % r.step = 0

/-- Where a row moves a code point. -/
def moved (r : Shift) (n : Nat) : Nat := ((n : Int) + r.shift).toNat

variable {r t : Shift} {rows : List Shift} {n image : Nat}

theorem exists_of_shifted? (h : shifted? rows n = some image) :
    ∃ r ∈ rows, r.Covers n ∧ image = r.moved n := by
  induction rows with
  | nil => cases h
  | cons r rest ih =>
    unfold shifted? at h
    split at h
    · cases h
    · rename_i hfirst
      split at h
      · rename_i hrow
        cases h
        exact ⟨r, List.mem_cons_self, ⟨Nat.le_of_not_lt hfirst, hrow.1, hrow.2⟩, rfl⟩
      · obtain ⟨t, ht, hcovers, himage⟩ := ih h
        exact ⟨t, List.mem_cons_of_mem r ht, hcovers, himage⟩

theorem shifted?_eq_none (h : ∀ r ∈ rows, ¬ r.Covers n) : shifted? rows n = none := by
  cases hshifted : shifted? rows n with
  | none => rfl
  | some image =>
    obtain ⟨r, hr, hcovers, -⟩ := exists_of_shifted? hshifted
    exact absurd hcovers (h r hr)

/-- Whether all images of a row lie below or above a range. -/
def avoids (r : Shift) (first last : Nat) : Bool :=
  Nat.blt (r.moved r.last) first || Nat.blt last (r.moved r.first)

/-- Whether no image of a row is covered by another: all lie below or above it, or between its code
points. -/
def isApart (r t : Shift) : Bool :=
  r.avoids t.first t.last ||
    (r.step == 2 || r.first == r.last) && t.step == 2 && (r.moved r.first + t.first) % 2 == 1

theorem not_mem_of_avoids {first last : Nat} (h : r.avoids first last = true) (hn : r.Covers n) :
    ¬ (first ≤ r.moved n ∧ r.moved n ≤ last) := by
  obtain ⟨hfirst, hlast, -⟩ := hn
  simp only [avoids, Bool.or_eq_true, Nat.blt_eq] at h
  unfold moved at h ⊢
  omega

theorem not_covers_of_isApart (h : r.isApart t = true) (hfirst : 0 ≤ (r.first : Int) + r.shift)
    (hn : r.Covers n) : ¬ t.Covers (r.moved n) := by
  rintro ⟨htfirst, htlast, htstep⟩
  simp only [isApart, Bool.or_eq_true, Bool.and_eq_true, beq_iff_eq] at h
  rcases h with h | ⟨⟨hstep, htwo⟩, hodd⟩
  · exact not_mem_of_avoids h hn ⟨htfirst, htlast⟩
  · -- images of a row with every second code point have the parity of the first of them
    obtain ⟨hrfirst, hrlast, hrstep⟩ := hn
    rw [htwo] at htstep
    unfold moved at hodd htfirst htstep
    rcases hstep with hstep | hsingle
    · rw [hstep] at hrstep
      omega
    · omega

end Shift

/-! ## The table -/

/-- Ranges in which no letter stands: white space, and the code points that are no characters. The
letter U+0130, whose image is listed apart, is among them as well. -/
def unlettered : List CodeRange :=
  [⟨0x09, 0x0D⟩, ⟨0x1C, 0x20⟩, ⟨0x85, 0x85⟩, ⟨0xA0, 0xA0⟩, ⟨0x130, 0x130⟩, ⟨0x1680, 0x1680⟩,
    ⟨0x2000, 0x200A⟩, ⟨0x2028, 0x2029⟩, ⟨0x202F, 0x202F⟩, ⟨0x205F, 0x205F⟩, ⟨0x3000, 0x3000⟩,
    ⟨0xD800, 0xDFFF⟩]

/-- Whether the images of a row are characters, none of them white space, and no row moves them
again. -/
def Shift.isSound (r : Shift) : Bool :=
  decide (0 ≤ (r.first : Int) + r.shift) && Nat.blt (r.moved r.last) 0x110000 &&
    (unlettered.all fun range => r.avoids range.first range.last) && lowerShifts.all r.isApart

theorem lowerShifts_isSound : lowerShifts.all Shift.isSound = true := by decide +kernel

/-- The image of a code point under a row of the table is a letter that no row moves. -/
theorem Shift.moved_of_isSound {r : Shift} {n : Nat} (h : r.isSound = true) (hn : r.Covers n) :
    r.moved n < 0x110000 ∧
      (∀ range ∈ unlettered, ¬ (range.first ≤ r.moved n ∧ r.moved n ≤ range.last)) ∧
      shifted? lowerShifts (r.moved n) = none := by
  simp only [isSound, Bool.and_eq_true, decide_eq_true_eq, Nat.blt_eq, List.all_eq_true] at h
  obtain ⟨⟨⟨hfirst, hlast⟩, havoids⟩, hapart⟩ := h
  refine ⟨?_, fun range hrange => not_mem_of_avoids (havoids range hrange) hn,
    shifted?_eq_none fun t ht => not_covers_of_isApart (hapart t ht) hfirst hn⟩
  obtain ⟨-, hle, -⟩ := hn
  unfold Shift.moved at hlast ⊢
  omega

/-! ## Characters -/

/-- A character that is its own lower case image. -/
def IsLower (c : Char) : Prop := lowerChar c = [c]

instance (c : Char) : Decidable (IsLower c) := inferInstanceAs (Decidable (_ = _))

theorem IsLower.ne_sigma {c : Char} (h : IsLower c) : c ≠ 'Σ' := by
  rintro rfl
  exact absurd h (by decide)

/-- A character that the table moves has one image, in lower case and not white space. -/
theorem lowerChar_of_shifted? {c : Char} {n : Nat}
    (h : Shift.shifted? lowerShifts c.toNat = some n) :
    lowerChar c = [Char.ofNat n] ∧ IsLower (Char.ofNat n) ∧ isBlank (Char.ofNat n) = false := by
  obtain ⟨r, hr, hcovers, rfl⟩ := Shift.exists_of_shifted? h
  have hsound := List.all_eq_true.1 lowerShifts_isSound r hr
  obtain ⟨hsize, hranges, hshifted⟩ := Shift.moved_of_isSound hsound hcovers
  generalize r.moved c.toNat = n at h hsize hranges hshifted
  simp only [unlettered, List.forall_mem_cons, List.not_mem_nil, false_implies, implies_true,
    and_true] at hranges
  have hvalid : n.isValidChar := by
    unfold Nat.isValidChar
    omega
  have hnat : (Char.ofNat n).toNat = n := by
    rw [Char.ofNat, dif_pos hvalid]
    rfl
  refine ⟨by rw [lowerChar, image, h], ?_, ?_⟩
  · have hother : lowerExpansions.find? (fun e => e.source == n) = none := by
      have hne : 0x130 ≠ n := by omega
      simp [lowerExpansions, hne]
    rw [IsLower, lowerChar, image, hnat, hshifted, hother]
  · rw [isBlank, hnat]
    simp only [Bool.or_eq_false_iff, Bool.and_eq_false_iff, decide_eq_false_iff_not,
      beq_eq_false_iff_ne]
    omega

/-- The images that are listed apart are texts in lower case, not empty and without white space. -/
theorem lowerExpansions_isSound : ∀ e ∈ lowerExpansions, e.image ≠ [] ∧
    ∀ n ∈ e.image, IsLower (Char.ofNat n) ∧ isBlank (Char.ofNat n) = false := by
  decide

/-- A character has an image, whose characters are their own images, and white space only if it is
white space itself. -/
theorem lowerChar_sound (c : Char) :
    lowerChar c ≠ [] ∧ ∀ d ∈ lowerChar c, IsLower d ∧ (isBlank c = false → isBlank d = false) := by
  cases hshifted : Shift.shifted? lowerShifts c.toNat with
  | some n =>
    obtain ⟨himage, hlower, hblank⟩ := lowerChar_of_shifted? hshifted
    rw [himage]
    simp [hlower, hblank]
  | none =>
    cases hexpansion : lowerExpansions.find? fun e => e.source == c.toNat with
    | some e =>
      have himage : lowerChar c = e.image.map Char.ofNat := by
        rw [lowerChar, image, hshifted, hexpansion]
      obtain ⟨hne, hsound⟩ := lowerExpansions_isSound e (List.mem_of_find?_eq_some hexpansion)
      rw [himage]
      refine ⟨by simpa using hne, fun d hd => ?_⟩
      obtain ⟨n, hn, rfl⟩ := List.mem_map.1 hd
      exact ⟨(hsound n hn).1, fun _ => (hsound n hn).2⟩
    | none =>
      have himage : lowerChar c = [c] := by
        rw [lowerChar, image, hshifted, hexpansion]
      rw [himage]
      simp [IsLower, himage]

/-! ## Texts -/

/-- The image of a character that stands between others, of which those before it are listed nearest
first. -/
def lowerAt (before : List Char) (c : Char) (rest : List Char) : List Char :=
  if c = 'Σ' then [if nextIsCased before && !nextIsCased rest then 'ς' else 'σ'] else lowerChar c

theorem lowerAfter_cons (before : List Char) (c : Char) (rest : List Char) :
    lowerAfter before (c :: rest) = lowerAt before c rest ++ lowerAfter (c :: before) rest := rfl

theorem lowerAt_sound (before : List Char) (c : Char) (rest : List Char) :
    lowerAt before c rest ≠ [] ∧
      ∀ d ∈ lowerAt before c rest, IsLower d ∧ (isBlank c = false → isBlank d = false) := by
  unfold lowerAt
  split
  · have hsmall : IsLower 'σ' ∧ isBlank 'σ' = false := by decide
    have hfinal : IsLower 'ς' ∧ isBlank 'ς' = false := by decide
    split <;> simp [hsmall, hfinal]
  · exact lowerChar_sound c

theorem isLower_of_mem_lowerAfter {before cs : List Char} {d : Char}
    (hd : d ∈ lowerAfter before cs) : IsLower d := by
  induction cs generalizing before with
  | nil => cases hd
  | cons c rest ih =>
    rw [lowerAfter_cons] at hd
    rcases List.mem_append.1 hd with hd | hd
    · exact ((lowerAt_sound before c rest).2 d hd).1
    · exact ih hd

theorem lowerAfter_of_isLower {before cs : List Char} (h : ∀ c ∈ cs, IsLower c) :
    lowerAfter before cs = cs := by
  induction cs generalizing before with
  | nil => rfl
  | cons c rest ih =>
    obtain ⟨hc, hrest⟩ := List.forall_mem_cons.1 h
    rw [lowerAfter_cons, lowerAt, if_neg hc.ne_sigma, hc, ih hrest]
    rfl

/-- The image of a text ends with the image of its last character. -/
theorem lowerAfter_concat (before cs : List Char) (c : Char) :
    ∃ front, lowerAfter before (cs ++ [c]) = front ++ lowerAt (cs.reverse ++ before) c [] := by
  induction cs generalizing before with
  | nil => exact ⟨[], by simp [lowerAfter_cons, lowerAfter]⟩
  | cons d rest ih =>
    obtain ⟨front, hfront⟩ := ih (d :: before)
    refine ⟨lowerAt before d (rest ++ [c]) ++ front, ?_⟩
    rw [List.cons_append, lowerAfter_cons, hfront]
    simp

/-- A text without white space at its ends has none there in lower case. -/
theorem isTrimmed_lowerAfter {before cs : List Char} (h : IsTrimmed isBlank cs) :
    IsTrimmed isBlank (lowerAfter before cs) := by
  constructor
  · cases cs with
    | nil => nofun
    | cons c rest =>
      obtain ⟨hne, hsound⟩ := lowerAt_sound before c rest
      intro d hd
      rw [lowerAfter_cons, List.head?_append_of_ne_nil _ hne] at hd
      exact (hsound d (List.mem_of_head? hd)).2 (h.head c rfl)
  · rcases List.eq_nil_or_concat' cs with rfl | ⟨rest, c, rfl⟩
    · nofun
    · obtain ⟨hne, hsound⟩ := lowerAt_sound (rest.reverse ++ before) c []
      obtain ⟨front, hfront⟩ := lowerAfter_concat before rest c
      intro d hd
      rw [hfront, List.getLast?_append_of_ne_nil _ hne] at hd
      exact (hsound d (List.mem_of_getLast? hd)).2 (h.last c (by simp))

end LetterCase

open LetterCase

/-- A text in lower case is its own image. -/
theorem lower_lower (s : String) : lower (lower s) = lower s := by
  unfold lower
  rw [String.toList_ofList, lowerAfter_of_isLower fun c => isLower_of_mem_lowerAfter]

/-- A trimmed text is still trimmed in lower case. -/
theorem trim_lower_trim (s : String) : trim (lower (trim s)) = lower (trim s) := by
  have htrimmed : IsTrimmed isBlank (lowerAfter [] (trimChars isBlank s.toList)) :=
    isTrimmed_lowerAfter (isTrimmed_trimChars isBlank s.toList)
  unfold trim lower
  rw [String.toList_ofList, String.toList_ofList, htrimmed.trimChars_eq]

end Automation.Text
