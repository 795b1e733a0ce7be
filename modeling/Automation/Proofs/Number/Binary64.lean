import Automation.Number.Binary64
import Mathlib.Algebra.Ring.Int.Defs
import Mathlib.Algebra.Ring.Nat
import Mathlib.Data.Nat.Log

/-!
# The range of double precision

A quotient far below the greatest finite number is rounded to a finite number, and the integer part
of a finite number is not far above the greatest one. Both bounds are coarse: they need no more of
the binade of a fraction than the lengths of its two terms.
-/

set_option autoImplicit false

namespace Automation.Binary64

variable {negative sign : Bool} {num den m : Nat} {e : Int}

/-- What a fraction is rounded to, before its range is looked at. -/
theorem ofRatio_cases (negative : Bool) (num den : Nat) :
    ∃ m e, ofRatio negative num den =
        (if maxExponent < e then .infinite negative else .finite negative m e) ∧
      e ≤ exponentOf num den + 1 ∧
        (m = 2 ^ 52 ∨ m = roundHalfEven (num * 2 ^ (-exponentOf num den).toNat)
          (den * 2 ^ (exponentOf num den).toNat)) := by
  unfold ofRatio
  simp only [Nat.pow_eq]
  split
  · exact ⟨_, _, rfl, Int.le_refl _, Or.inl rfl⟩
  · exact ⟨_, _, rfl, Int.le_of_lt (Int.lt_succ _), Or.inr rfl⟩

theorem binade_le (num den : Nat) : binade num den ≤ (Nat.log2 num : Int) - Nat.log2 den := by
  unfold binade
  simp only
  split <;> omega

theorem le_binade (num den : Nat) : (Nat.log2 num : Int) - Nat.log2 den - 1 ≤ binade num den := by
  unfold binade
  simp only
  split <;> omega

/-- A quotient below a power of two near the end of the range is rounded to a finite number. -/
theorem ofRatio_isFinite (negative : Bool) {k : Nat} (hk : k ≤ 1022) (h : num < den * 2 ^ k) :
    ∃ m e, ofRatio negative num den = .finite negative m e := by
  obtain ⟨m, e, hratio, he, -⟩ := ofRatio_cases negative num den
  -- the exponent is below the greatest one even if rounding adds one to it
  have hexponent : exponentOf num den ≤ 970 := by
    unfold exponentOf
    split
    · decide
    · rename_i hnum
      have hhigh : den < 2 ^ (Nat.log2 den + 1) := Nat.lt_log2_self
      have hpow : 2 ^ Nat.log2 num < 2 ^ (Nat.log2 den + 1 + k) := by
        calc 2 ^ Nat.log2 num ≤ num := Nat.log2_self_le hnum
          _ < den * 2 ^ k := h
          _ < 2 ^ (Nat.log2 den + 1) * 2 ^ k :=
            Nat.mul_lt_mul_of_pos_right hhigh (Nat.two_pow_pos k)
          _ = 2 ^ (Nat.log2 den + 1 + k) := (Nat.pow_add 2 _ _).symm
      have hlog := (Nat.pow_lt_pow_iff_right Nat.one_lt_two).1 hpow
      have hbinade := binade_le num den
      simp only [minExponent]
      omega
  refine ⟨m, e, ?_⟩
  rw [hratio, if_neg]
  simp only [maxExponent]
  omega

theorem roundHalfEven_le (p q : Nat) : roundHalfEven p q ≤ p / q + 1 := by
  unfold roundHalfEven
  simp only
  split
  · omega
  · split <;> omega

/-- At its exponent a fraction has few bits before the point. -/
theorem scaled_lt (hden : 0 < den) :
    num * 2 ^ (-exponentOf num den).toNat < den * 2 ^ (exponentOf num den).toNat * 2 ^ 54 := by
  by_cases hnum : num = 0
  · rw [hnum, Nat.zero_mul]
    exact Nat.mul_pos (Nat.mul_pos hden (Nat.two_pow_pos _)) (Nat.two_pow_pos 54)
  · have hexponent : (Nat.log2 num : Int) - Nat.log2 den - 53 ≤ exponentOf num den := by
      have hbinade := le_binade num den
      unfold exponentOf
      rw [if_neg hnum]
      omega
    -- whichever sign the exponent has, one of the two powers is one
    generalize exponentOf num den = e at hexponent
    calc num * 2 ^ (-e).toNat < 2 ^ (Nat.log2 num + 1) * 2 ^ (-e).toNat :=
          Nat.mul_lt_mul_of_pos_right Nat.lt_log2_self (Nat.two_pow_pos _)
      _ = 2 ^ (Nat.log2 num + 1 + (-e).toNat) := (Nat.pow_add 2 _ _).symm
      _ ≤ 2 ^ (Nat.log2 den + e.toNat + 54) := Nat.pow_le_pow_right Nat.two_pos (by omega)
      _ = 2 ^ Nat.log2 den * 2 ^ e.toNat * 2 ^ 54 := by rw [Nat.pow_add, Nat.pow_add]
      _ ≤ den * 2 ^ e.toNat * 2 ^ 54 :=
          Nat.mul_le_mul_right _ (Nat.mul_le_mul_right _ (Nat.log2_self_le hden.ne'))

/-- A significand has at most one bit more than the format allows. -/
theorem significand_le (hden : 0 < den) (h : ofRatio negative num den = .finite sign m e) :
    m ≤ 2 ^ 54 ∧ e ≤ maxExponent := by
  obtain ⟨m', e', hratio, -, hm⟩ := ofRatio_cases negative num den
  rw [hratio] at h
  split at h
  · cases h
  · rename_i he
    cases h
    refine ⟨?_, Int.not_lt.1 he⟩
    rcases hm with rfl | rfl
    · exact Nat.pow_le_pow_right Nat.two_pos (by decide)
    · exact (roundHalfEven_le _ _).trans (Nat.div_lt_of_lt_mul (scaled_lt hden))

/-- The integer part of a quotient is no greater than the numbers of the format. -/
theorem truncate_ofRatio_le (negative : Bool) (num : Nat) (hden : 0 < den) :
    (ofRatio negative num den).truncate.natAbs ≤ 2 ^ 54 * 2 ^ maxExponent.toNat := by
  cases hx : ofRatio negative num den with
  | nan => exact Nat.zero_le _
  | infinite sign => exact Nat.zero_le _
  | finite sign m e =>
    obtain ⟨hm, he⟩ := significand_le hden hx
    have habs : ∀ n : Nat, (signed sign n).natAbs = n := by
      intro n
      cases sign <;> simp [signed]
    simp only [truncate, habs]
    calc numerator m e / denominator e ≤ numerator m e := Nat.div_le_self _ _
      _ = m * 2 ^ e.toNat := rfl
      _ ≤ 2 ^ 54 * 2 ^ maxExponent.toNat :=
          Nat.mul_le_mul hm (Nat.pow_le_pow_right Nat.two_pos (Int.toNat_le_toNat he))

/-- A number that is no greater than an integer part can be, divided by a thousand or more, is
rounded to a finite number. -/
theorem ofIntRatio_isFinite {n : Int} (hden : 1000 ≤ den)
    (h : n.natAbs ≤ 2 ^ 54 * 2 ^ maxExponent.toNat) :
    ∃ negative m e, ofIntRatio n den = .finite negative m e := by
  -- the power stands for itself, so that nothing computes it
  obtain ⟨k, hk⟩ : ∃ k, k = 1022 := ⟨_, rfl⟩
  have hexponent : 54 + maxExponent.toNat = 3 + k := by
    rw [hk]
    rfl
  have hpow : 2 ^ 54 * 2 ^ maxExponent.toNat = 2 ^ 3 * 2 ^ k := by
    rw [← Nat.pow_add, ← Nat.pow_add, hexponent]
  have hsmall : n.natAbs < den * 2 ^ k := by
    calc n.natAbs ≤ 2 ^ 3 * 2 ^ k := hpow ▸ h
      _ < den * 2 ^ k :=
        Nat.mul_lt_mul_of_pos_right (Nat.lt_of_lt_of_le (by decide) hden) (Nat.two_pow_pos _)
  obtain ⟨m, e, hratio⟩ := ofRatio_isFinite (n < 0) hk.le hsmall
  exact ⟨_, m, e, hratio⟩

/-- A quotient with a sign has an integer part with that sign. -/
theorem truncate_ofRatio_nonneg (num den : Nat) : 0 ≤ (ofRatio false num den).truncate := by
  obtain ⟨m, e, hratio, -⟩ := ofRatio_cases false num den
  rw [hratio]
  split
  · exact Int.le_refl 0
  · exact Int.natCast_nonneg _

end Automation.Binary64
