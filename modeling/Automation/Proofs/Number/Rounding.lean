import Automation.Proofs.Number.Binary64
import Mathlib.Algebra.Order.Field.Basic
import Mathlib.Algebra.Order.Field.Power
import Mathlib.Data.Rat.Floor
import Mathlib.Tactic.FieldSimp
import Mathlib.Tactic.Linarith
import Mathlib.Tactic.NormNum
import Mathlib.Tactic.Positivity
import Mathlib.Tactic.Ring

/-!
# The error of double precision

What a quotient is rounded to, as an exact rational number. The numbers of the format in the binade
`2^b ≤ x < 2^(b+1)` are multiples of the unit `2^(b-52)`, and `ofRatio` gives one of them that is at
most half a unit away (`ofRatio_isNearest`). Two consequences are all that is needed of rounding: a
number that is closer than half a unit to a multiple of the unit is rounded to it
(`IsNearest.eq_of_abs_lt`), and the error is at most the `2^53+1`st part of the number
(`IsNearest.error_le`).
-/

set_option autoImplicit false

namespace Automation.Binary64

variable {negative sign : Bool} {num den m n : Nat} {e b : Int} {x v : ℚ}

/-- The value of a finite number without its sign. -/
def magnitude (m : Nat) (e : Int) : ℚ := m * 2 ^ e

/-- In the binade `b` of `x`, the number `v` is a multiple of the unit at most half a unit from
`x`. -/
structure IsNearest (x v : ℚ) (b : Int) : Prop where
  le : 2 ^ b ≤ x
  lt : x < 2 ^ (b + 1)
  multiple : ∃ r : Nat, v = r * 2 ^ (b - 52)
  near : |v - x| ≤ 2 ^ (b - 52) / 2

/-! ## Powers of two -/

theorem two_zpow_pos (e : Int) : (0 : ℚ) < 2 ^ e := zpow_pos two_pos e

theorem two_zpow_add (a c : Int) : (2 : ℚ) ^ (a + c) = 2 ^ a * 2 ^ c := zpow_add₀ two_ne_zero a c

theorem two_zpow_le {a c : Int} (h : a ≤ c) : (2 : ℚ) ^ a ≤ 2 ^ c :=
  zpow_le_zpow_right₀ one_le_two h

/-- A power of two is the quotient of its parts above and below the point. -/
theorem two_zpow_eq_div (e : Int) : (2 : ℚ) ^ e = 2 ^ e.toNat / 2 ^ (-e).toNat := by
  rw [eq_div_iff (by positivity), ← zpow_natCast, ← zpow_natCast, ← two_zpow_add]
  congr 1
  omega

/-- A positive number lies between the powers of two that its length gives. -/
theorem two_zpow_log2 (hn : 0 < n) :
    (2 : ℚ) ^ (Nat.log2 n : Int) ≤ n ∧ (n : ℚ) < 2 ^ ((Nat.log2 n : Int) + 1) := by
  have hlow : ((2 ^ Nat.log2 n : Nat) : ℚ) ≤ n := by
    exact_mod_cast Nat.log2_self_le hn.ne'
  have hhigh : (n : ℚ) < (2 ^ (Nat.log2 n + 1) : Nat) := by
    exact_mod_cast Nat.lt_log2_self
  push_cast at hlow hhigh
  rw [← zpow_natCast] at hlow hhigh
  push_cast at hhigh
  exact ⟨hlow, hhigh⟩

/-- A number lies in one binade only. -/
theorem binade_unique {b' : Int} (hle : 2 ^ b ≤ x) (hlt : x < 2 ^ (b + 1)) (hle' : 2 ^ b' ≤ x)
    (hlt' : x < 2 ^ (b' + 1)) : b = b' := by
  have h := (zpow_lt_zpow_iff_right₀ (one_lt_two (α := ℚ))).1 (hle.trans_lt hlt')
  have h' := (zpow_lt_zpow_iff_right₀ (one_lt_two (α := ℚ))).1 (hle'.trans_lt hlt)
  omega

/-! ## The nearest integer -/

/-- A quotient is rounded down when its remainder is at most half the divisor, and up when it is at
least that. -/
theorem roundHalfEven_cases (p q : Nat) :
    roundHalfEven p q = p / q ∧ 2 * (p % q) ≤ q ∨
      roundHalfEven p q = p / q + 1 ∧ q ≤ 2 * (p % q) := by
  unfold roundHalfEven
  simp only
  split
  · exact Or.inl ⟨rfl, by omega⟩
  · split
    · exact Or.inr ⟨rfl, by omega⟩
    · rcases Nat.mod_two_eq_zero_or_one (p / q) with heven | hodd
      · exact Or.inl ⟨by omega, by omega⟩
      · exact Or.inr ⟨by omega, by omega⟩

/-- Rounding to an integer is off by at most a half. -/
theorem abs_roundHalfEven_sub_le (p : Nat) {q : Nat} (hq : 0 < q) :
    |(roundHalfEven p q : ℚ) - p / q| ≤ 1 / 2 := by
  have hq' : (0 : ℚ) < q := by exact_mod_cast hq
  have hmod : ((p % q : Nat) : ℚ) ≤ q := by exact_mod_cast (Nat.mod_lt p hq).le
  -- the quotient is its integer part and the remainder over the divisor
  have hsplit : (p : ℚ) / q = (p / q : Nat) + (p % q : Nat) / q := by
    have hdiv : ((p / q : Nat) : ℚ) * q + (p % q : Nat) = p := by
      exact_mod_cast Nat.div_add_mod' p q
    rw [← hdiv]
    field_simp
  rw [hsplit, abs_le]
  rcases roundHalfEven_cases p q with ⟨hr, hle⟩ | ⟨hr, hle⟩
  · have hle' : 2 * ((p % q : Nat) : ℚ) ≤ q := by exact_mod_cast hle
    have hhalf : ((p % q : Nat) : ℚ) / q ≤ 1 / 2 := by
      rw [div_le_iff₀ hq']
      linarith
    have hnonneg : (0 : ℚ) ≤ (p % q : Nat) / q := by positivity
    rw [hr]
    constructor <;> linarith
  · have hle' : (q : ℚ) ≤ 2 * ((p % q : Nat) : ℚ) := by exact_mod_cast hle
    have hhalf : 1 / 2 ≤ ((p % q : Nat) : ℚ) / q := by
      rw [le_div_iff₀ hq']
      linarith
    have hone : ((p % q : Nat) : ℚ) / q ≤ 1 := by
      rw [div_le_one hq']
      exact hmod
    rw [hr]
    push_cast
    constructor <;> linarith

/-! ## The nearest number -/

/-- The binade of a fraction holds it. -/
theorem binade_spec (hnum : 0 < num) (hden : 0 < den) :
    (2 : ℚ) ^ binade num den ≤ num / den ∧ (num : ℚ) / den < 2 ^ (binade num den + 1) := by
  have hden' : (0 : ℚ) < den := by exact_mod_cast hden
  obtain ⟨hnumlow, hnumhigh⟩ := two_zpow_log2 hnum
  obtain ⟨hdenlow, hdenhigh⟩ := two_zpow_log2 hden
  -- the lengths of the two terms leave two binades
  obtain ⟨k, hk⟩ : ∃ k : Int, k = (Nat.log2 num : Int) - (Nat.log2 den : Int) := ⟨_, rfl⟩
  have hlow : (2 : ℚ) ^ (k - 1) ≤ num / den := by
    rw [le_div_iff₀ hden']
    calc (2 : ℚ) ^ (k - 1) * den ≤ 2 ^ (k - 1) * 2 ^ ((Nat.log2 den : Int) + 1) :=
          mul_le_mul_of_nonneg_left hdenhigh.le (two_zpow_pos _).le
      _ = 2 ^ (Nat.log2 num : Int) := by
          rw [← two_zpow_add]
          congr 1
          omega
      _ ≤ num := hnumlow
  have hhigh : (num : ℚ) / den < 2 ^ (k + 1) := by
    rw [div_lt_iff₀ hden']
    calc (num : ℚ) < 2 ^ ((Nat.log2 num : Int) + 1) := hnumhigh
      _ = 2 ^ (k + 1) * 2 ^ (Nat.log2 den : Int) := by
          rw [← two_zpow_add]
          congr 1
          omega
      _ ≤ 2 ^ (k + 1) * den := mul_le_mul_of_nonneg_left hdenlow (two_zpow_pos _).le
  -- and the comparison of the shifted terms tells which
  have hshift : num * 2 ^ (-k).toNat < den * 2 ^ k.toNat ↔ (num : ℚ) / den < 2 ^ k := by
    rw [two_zpow_eq_div, div_lt_div_iff₀ hden' (by positivity), mul_comm (2 ^ k.toNat : ℚ)]
    exact_mod_cast Iff.rfl
  have hbinade : binade num den = if (num : ℚ) / den < 2 ^ k then k - 1 else k := by
    unfold binade
    simp only [Nat.pow_eq, ← hk, hshift]
  rw [hbinade]
  split
  · rename_i hlt
    exact ⟨hlow, by simpa using hlt⟩
  · rename_i hnot
    exact ⟨not_lt.1 hnot, hhigh⟩

/-- A finite number that a quotient is rounded to is the nearest integer at the exponent of the
quotient: a significand that reaches the next binade is halved, and the value stays. -/
theorem magnitude_ofRatio (h : ofRatio negative num den = .finite sign m e) :
    magnitude m e = roundHalfEven (num * 2 ^ (-exponentOf num den).toNat)
      (den * 2 ^ (exponentOf num den).toNat) * 2 ^ exponentOf num den := by
  unfold ofRatio at h
  simp only [Nat.pow_eq] at h
  split at h
  · rename_i hfull
    split at h
    · cases h
    · cases h
      rw [hfull, magnitude, two_zpow_add]
      simp only [precision]
      push_cast
      ring
  · split at h
    · cases h
    · cases h
      rfl

/-- A quotient in the range of the normal numbers is rounded to a number of the format that is
nearest to it. -/
theorem ofRatio_isNearest (negative : Bool) (hden : 0 < den)
    (hlow : (2 : ℚ) ^ (minExponent + 52) ≤ num / den) {k : Nat} (hk : k ≤ 1022)
    (hhigh : (num : ℚ) / den < 2 ^ k) :
    ∃ m e, ofRatio negative num den = .finite negative m e ∧
      IsNearest (num / den) (magnitude m e) (binade num den) := by
  have hden' : (0 : ℚ) < den := by exact_mod_cast hden
  have hnum : 0 < num := by
    rcases Nat.eq_zero_or_pos num with rfl | hpos
    · have hpositive := two_zpow_pos (minExponent + 52)
      simp only [Nat.cast_zero, zero_div] at hlow
      exact absurd hlow (not_le.2 hpositive)
    · exact hpos
  obtain ⟨hle, hlt⟩ := binade_spec hnum hden
  have hbinade : minExponent + 52 ≤ binade num den :=
    Int.lt_add_one_iff.1
      ((zpow_lt_zpow_iff_right₀ (one_lt_two (α := ℚ))).1 (hlow.trans_lt hlt))
  have hbound : num < den * 2 ^ k := by
    rw [div_lt_iff₀ hden', mul_comm] at hhigh
    exact_mod_cast hhigh
  obtain ⟨m, e, hfinite⟩ := ofRatio_isFinite negative hk hbound
  have hexponent : exponentOf num den = binade num den - 52 := by
    unfold exponentOf
    rw [if_neg hnum.ne']
    omega
  have hvalue := magnitude_ofRatio hfinite
  rw [hexponent] at hvalue
  refine ⟨m, e, hfinite, hle, hlt, ⟨_, hvalue⟩, ?_⟩
  -- the quotient is rounded to an integer where the unit is one
  generalize binade num den - 52 = c at hvalue
  have hround := abs_roundHalfEven_sub_le (num * 2 ^ (-c).toNat)
    (Nat.mul_pos hden (Nat.two_pow_pos c.toNat))
  have hquotient : ((num * 2 ^ (-c).toNat : Nat) : ℚ) / (den * 2 ^ c.toNat : Nat) =
      num / den / 2 ^ c := by
    rw [two_zpow_eq_div c]
    push_cast
    field_simp
  rw [hquotient] at hround
  rw [hvalue]
  generalize (roundHalfEven (num * 2 ^ (-c).toNat) (den * 2 ^ c.toNat) : ℚ) = r at hround
  have hunit := two_zpow_pos c
  calc |r * 2 ^ c - num / den| = |(r - num / den / 2 ^ c) * 2 ^ c| := by
        congr 1
        field_simp
    _ = |r - num / den / 2 ^ c| * 2 ^ c := by rw [abs_mul, abs_of_pos hunit]
    _ ≤ 1 / 2 * 2 ^ c := mul_le_mul_of_nonneg_right hround hunit.le
    _ = 2 ^ c / 2 := by ring

namespace IsNearest

variable (h : IsNearest x v b)

include h

/-- A number has at least `2^52` units. -/
theorem unit_le : 2 ^ 52 * (2 : ℚ) ^ (b - 52) ≤ x := by
  have hb : (2 : ℚ) ^ b = 2 ^ (52 : Int) * 2 ^ (b - 52) := by
    rw [← two_zpow_add]
    congr 1
    omega
  calc 2 ^ 52 * (2 : ℚ) ^ (b - 52) = 2 ^ b := by rw [hb]; rfl
    _ ≤ x := h.le

/-- A number that is closer than half a unit to a multiple of the unit is rounded to it. -/
theorem eq_of_abs_lt {r : Nat} (hr : |x - r * 2 ^ (b - 52)| < 2 ^ (b - 52) / 2) :
    v = r * 2 ^ (b - 52) := by
  obtain ⟨r', rfl⟩ := h.multiple
  have hunit := two_zpow_pos (b - 52)
  -- two multiples of the unit that are less than a unit apart are one
  have hclose : |((r' : ℤ) - (r : ℤ) : ℚ)| * 2 ^ (b - 52) < 1 * 2 ^ (b - 52) := by
    calc |((r' : ℤ) - (r : ℤ) : ℚ)| * 2 ^ (b - 52)
        = |(r' * 2 ^ (b - 52) - x) + (x - r * 2 ^ (b - 52))| := by
          rw [← abs_of_pos hunit, ← abs_mul, abs_of_pos hunit]
          congr 1
          push_cast
          ring
      _ ≤ |r' * 2 ^ (b - 52) - x| + |x - r * 2 ^ (b - 52)| := abs_add_le _ _
      _ < 1 * 2 ^ (b - 52) := by linarith [h.near]
  have heq : (r' : ℤ) = r := by
    have hlt : |(r' : ℤ) - (r : ℤ)| < 1 := by
      exact_mod_cast lt_of_mul_lt_mul_right hclose hunit.le
    have hzero := Int.abs_lt_one_iff.1 hlt
    omega
  rw [show (r' : ℚ) = r by exact_mod_cast heq]

/-- A number of the format is rounded to itself. -/
theorem eq_self {a : Nat} {c : Int} (hx : x = a * 2 ^ c) (hc : b - 52 ≤ c) : v = x := by
  have hmultiple : x = (a * 2 ^ (c - (b - 52)).toNat : Nat) * 2 ^ (b - 52) := by
    rw [hx]
    push_cast
    rw [mul_assoc, ← zpow_natCast, ← two_zpow_add]
    congr 2
    omega
  have hself : |x - (a * 2 ^ (c - (b - 52)).toNat : Nat) * 2 ^ (b - 52)| <
      2 ^ (b - 52) / 2 := by
    rw [← hmultiple, sub_self, abs_zero]
    exact half_pos (two_zpow_pos _)
  rw [h.eq_of_abs_lt hself, ← hmultiple]

/-- The error is at most the `2^53+1`st part of the number. -/
theorem error_le : |v - x| * (2 ^ 53 + 1) ≤ x := by
  have hunit := two_zpow_pos (b - 52)
  have hlow := h.unit_le
  by_cases hhalf : (2 ^ 52 + 1 / 2) * (2 : ℚ) ^ (b - 52) ≤ x
  · calc |v - x| * (2 ^ 53 + 1) ≤ 2 ^ (b - 52) / 2 * (2 ^ 53 + 1) :=
          mul_le_mul_of_nonneg_right h.near (by norm_num)
      _ = (2 ^ 52 + 1 / 2) * (2 : ℚ) ^ (b - 52) := by ring
      _ ≤ x := hhalf
  · -- less than half a unit above the beginning of its binade, a number is rounded to that
    have hdown : v = 2 ^ 52 * 2 ^ (b - 52) := by
      have hclose : |x - (2 ^ 52 : Nat) * 2 ^ (b - 52)| < 2 ^ (b - 52) / 2 := by
        rw [abs_of_nonneg (by push_cast; linarith)]
        push_cast
        linarith
      have hv := h.eq_of_abs_lt hclose
      push_cast at hv
      exact hv
    rw [hdown, abs_sub_comm, abs_of_nonneg (by linarith)]
    linarith

end IsNearest

theorem magnitude_eq_div (m : Nat) (e : Int) :
    magnitude m e = (numerator m e : ℚ) / (denominator e : Nat) := by
  rw [magnitude, two_zpow_eq_div, numerator, denominator]
  push_cast [Nat.pow_eq]
  ring

/-- The integer part of a number without a sign. -/
theorem truncate_eq_floor (m : Nat) (e : Int) :
    (Binary64.finite false m e).truncate = ⌊magnitude m e⌋ := by
  rw [magnitude_eq_div, Rat.floor_natCast_div_natCast]
  rfl

/-- The product of a number with a positive integer, in the range of the normal numbers, is rounded
to a number of the format that is nearest to it. -/
theorem scale_isNearest (negative : Bool) (factor : Nat)
    (hlow : (2 : ℚ) ^ (minExponent + 52) ≤ factor * magnitude m e) {k : Nat} (hk : k ≤ 1022)
    (hhigh : factor * magnitude m e < 2 ^ k) :
    ∃ m' e' b, (Binary64.finite negative m e).scale factor = .finite negative m' e' ∧
      IsNearest (factor * magnitude m e) (magnitude m' e') b := by
  have hquotient : factor * magnitude m e =
      (numerator m e * factor : Nat) / (denominator e : Nat) := by
    rw [magnitude_eq_div]
    push_cast
    ring
  rw [hquotient] at hlow hhigh ⊢
  obtain ⟨m', e', hfinite, hnearest⟩ :=
    ofRatio_isNearest negative (Nat.two_pow_pos _) hlow hk hhigh
  exact ⟨m', e', _, hfinite, hnearest⟩

end Automation.Binary64
