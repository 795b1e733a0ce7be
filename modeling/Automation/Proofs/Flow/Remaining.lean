import Automation.Proofs.Flow.Delay
import Automation.Proofs.Number.Rounding
import Automation.Proofs.Time.Written

/-!
# The time that remains until a date

An absolute delay is measured in seconds, in double precision, and then in milliseconds, so the
microseconds that remain are rounded twice before they are cut. The two errors together are less
than the `2^52`nd part of the time (`Measures.error_lt`). That is harmless unless the time lies that
close to a whole number of milliseconds. A time that is such a number is met exactly where the
second rounding takes back the first, which it does everywhere but in the lowest part of a binade.
-/

set_option autoImplicit false

namespace Automation.Delay

open Binary64

variable {n : Nat} {seconds millis : ℚ}

/-- A number of microseconds becomes seconds, and these become milliseconds, each time as the
nearest number in double precision. -/
structure Measures (n : Nat) (seconds millis : ℚ) (b c : Int) : Prop where
  first : IsNearest (n / 1000000) seconds b
  second : IsNearest (1000 * seconds) millis c

/-- A time in microseconds that the roundings leave in its millisecond. -/
inductive IsSteady (n : Nat) : Prop
  /-- A multiple of the sixty-fourth part of a second is a number in double precision. -/
  | dyadic (h : 15625 ∣ n)
  /-- A time that is further from a whole number of milliseconds than the roundings reach. -/
  | between (hlow : n / 2 ^ 52 < n % 1000) (hhigh : n % 1000 + n / 2 ^ 52 < 1000)
  /-- A whole number of milliseconds that does not lie just above a power of two of seconds. -/
  | clear {k : Nat} (hk : n = 1000 * k)
      (hclear : ∀ i j, ¬ (1000 * 2 ^ i ≤ k * 2 ^ j ∧ k * 2 ^ j ≤ 1024 * 2 ^ i))

/-- A time of less than eighteen thousand years is measured, and its milliseconds are what is
cut. -/
theorem exists_measures (hpos : 0 < n) (hlt : n < 2 ^ 59) :
    ∃ seconds millis b c, Measures n seconds millis b c ∧ wholeMilliseconds n = ⌊millis⌋ := by
  have hone : (1 : ℚ) ≤ n := by exact_mod_cast hpos
  have hmost : (n : ℚ) < 2 ^ 59 := by exact_mod_cast hlt
  have hlowest : (2 : ℚ) ^ (minExponent + 52) ≤ 1 / 1048576 := by
    calc (2 : ℚ) ^ (minExponent + 52) ≤ 2 ^ (-20 : Int) := two_zpow_le (by decide)
      _ = 1 / 1048576 := by norm_num
  have hinside : (2 : ℚ) ^ (minExponent + 52) ≤ n / (1000000 : Nat) ∧
      (n : ℚ) / (1000000 : Nat) < 2 ^ 59 := by
    push_cast
    constructor
    · linarith
    · linarith
  obtain ⟨m, e, hfinite, hseconds⟩ :=
    ofRatio_isNearest false (by decide) hinside.1 (by decide) hinside.2
  push_cast at hseconds
  -- the seconds are so close to the quotient that their thousandfold is in the range as well
  have herror := hseconds.error_le
  have hlow := neg_abs_le (magnitude m e - n / 1000000)
  have hhigh := le_abs_self (magnitude m e - n / 1000000)
  obtain ⟨m', e', c, hscaled, hmillis⟩ := scale_isNearest (m := m) (e := e) false 1000
    (hlowest.trans (by push_cast; linarith)) (k := 59) (by decide) (by push_cast; linarith)
  push_cast at hmillis
  refine ⟨magnitude m e, magnitude m' e', _, c, ⟨hseconds, hmillis⟩, ?_⟩
  have hsign : decide ((n : Int) < 0) = false := by simp
  rw [wholeMilliseconds, ofIntRatio, hsign, Int.natAbs_natCast, hfinite, hscaled,
    truncate_eq_floor]

namespace Measures

variable {b c : Int} (h : Measures n seconds millis b c)

include h

/-- Both errors together are less than the `2^52`nd part of the time. -/
theorem error_lt (hpos : 0 < n) : |millis - n / 1000| * 2 ^ 52 < n / 1000 := by
  have hn : (0 : ℚ) < n := by exact_mod_cast hpos
  have hfirst := h.first.error_le
  have hsecond := h.second.error_le
  have hlow := neg_abs_le (seconds - n / 1000000)
  have hhigh := le_abs_self (seconds - n / 1000000)
  have hsplit : |millis - n / 1000| ≤
      |millis - 1000 * seconds| + 1000 * |seconds - n / 1000000| := by
    calc |millis - n / 1000| = |(millis - 1000 * seconds) + 1000 * (seconds - n / 1000000)| := by
          congr 1
          ring
      _ ≤ |millis - 1000 * seconds| + |1000 * (seconds - n / 1000000)| := abs_add_le _ _
      _ = |millis - 1000 * seconds| + 1000 * |seconds - n / 1000000| := by
          rw [abs_mul, abs_of_pos (by norm_num : (0 : ℚ) < 1000)]
  linarith

/-- A multiple of the sixty-fourth part of a second is met exactly. -/
theorem eq_of_dyadic (hlt : n < 2 ^ 59) (hdvd : 15625 ∣ n) : millis = n / 1000 := by
  obtain ⟨j, rfl⟩ := hdvd
  have hj : (j : ℚ) < 2 ^ 46 := by
    have hsmall : j < 2 ^ 46 := by omega
    exact_mod_cast hsmall
  -- both numbers have few digits after the point, and their binades are low enough for them
  have hseconds : ((15625 * j : Nat) : ℚ) / 1000000 = j * 2 ^ (-6 : Int) := by
    push_cast
    norm_num
    ring
  have hb : b < 40 := by
    refine (zpow_lt_zpow_iff_right₀ (one_lt_two (α := ℚ))).1 (h.first.le.trans_lt ?_)
    rw [hseconds]
    norm_num
    linarith
  have hfirst : seconds = j * 2 ^ (-6 : Int) := by
    rw [← hseconds]
    exact h.first.eq_self hseconds (by omega)
  have hmillis : 1000 * seconds = (125 * j : Nat) * 2 ^ (-3 : Int) := by
    rw [hfirst]
    push_cast
    norm_num
    ring
  have hc : c < 50 := by
    refine (zpow_lt_zpow_iff_right₀ (one_lt_two (α := ℚ))).1 (h.second.le.trans_lt ?_)
    rw [hmillis]
    push_cast
    norm_num
    linarith
  rw [h.second.eq_self hmillis (by omega), hmillis]
  push_cast
  norm_num
  ring

/-- The thousandfold of the first error is less than half a unit of the milliseconds, if these lie
ten binades above the seconds. -/
theorem abs_sub_lt {k : Nat} (hk : n = 1000 * k) :
    |1000 * seconds - k| < 2 ^ (b + 10 - 52) / 2 := by
  have hn : (n : ℚ) = 1000 * k := by exact_mod_cast hk
  have hnear := h.first.near
  have hunit := two_zpow_pos (b - 52)
  have hscale : (2 : ℚ) ^ (b + 10 - 52) = 1024 * 2 ^ (b - 52) := by
    rw [show b + 10 - 52 = 10 + (b - 52) by omega, two_zpow_add]
    norm_num
  rw [hn] at hnear
  calc |1000 * seconds - k| = |1000 * (seconds - 1000 * k / 1000000)| := by
        congr 1
        ring
    _ = 1000 * |seconds - 1000 * k / 1000000| := by
        rw [abs_mul, abs_of_pos (by norm_num : (0 : ℚ) < 1000)]
    _ < 2 ^ (b + 10 - 52) / 2 := by
        rw [hscale]
        linarith

/-- Milliseconds that do not lie just above a power of two of seconds lie ten binades above the
seconds, and there is a millisecond between them and the beginning of their binade. -/
theorem binade_of_clear {k : Nat} (hpos : 0 < k) (hlt : k < 2 ^ 50) (hk : n = 1000 * k)
    (hclear : ∀ i j, ¬ (1000 * 2 ^ i ≤ k * 2 ^ j ∧ k * 2 ^ j ≤ 1024 * 2 ^ i)) :
    (-10 ≤ b ∧ b ≤ 40) ∧ (2 : ℚ) ^ (b + 10) + 1 ≤ k ∧ (k : ℚ) < 2000 * 2 ^ b := by
  have hn : (n : ℚ) = 1000 * k := by exact_mod_cast hk
  have hone : (1 : ℚ) ≤ k := by exact_mod_cast hpos
  have hmost : (k : ℚ) < 2 ^ 50 := by exact_mod_cast hlt
  have hle : 1000 * (2 : ℚ) ^ b ≤ k := by
    have hle := h.first.le
    linarith
  have hhigh : (k : ℚ) < 2000 * 2 ^ b := by
    have hlt := h.first.lt
    rw [two_zpow_add, zpow_one] at hlt
    linarith
  have hb : -10 ≤ b ∧ b ≤ 40 := by
    constructor
    · have hlow : (2 : ℚ) ^ (-11 : Int) < 2 ^ b := by
        norm_num
        linarith
      exact (zpow_lt_zpow_iff_right₀ (one_lt_two (α := ℚ))).1 hlow
    · have hlow : (2 : ℚ) ^ b < 2 ^ (41 : Int) := by
        norm_num
        linarith
      exact Int.lt_add_one_iff.1 ((zpow_lt_zpow_iff_right₀ (one_lt_two (α := ℚ))).1 hlow)
  refine ⟨hb, ?_, hhigh⟩
  -- the power of two that begins the binade of the seconds is none of those in question
  have hfraction : (2 : ℚ) ^ b * 2 ^ (-b).toNat = 2 ^ b.toNat := by
    rw [two_zpow_eq_div b]
    field_simp
  have hfactor : (0 : ℚ) < 2 ^ (-b).toNat := by positivity
  have hbelow : 1000 * 2 ^ b.toNat ≤ k * 2 ^ (-b).toNat := by
    have hscaled := mul_le_mul_of_nonneg_right hle hfactor.le
    rw [mul_assoc, hfraction] at hscaled
    exact_mod_cast hscaled
  have habove : 1024 * (2 : ℚ) ^ b < k := by
    have hnot : 1024 * 2 ^ b.toNat < k * 2 ^ (-b).toNat :=
      not_le.1 fun hle => hclear _ _ ⟨hbelow, hle⟩
    have hscaled : 1024 * (2 : ℚ) ^ b.toNat < k * 2 ^ (-b).toNat := by exact_mod_cast hnot
    rw [← hfraction, ← mul_assoc] at hscaled
    exact lt_of_mul_lt_mul_right hscaled hfactor.le
  have hpow : (2 : ℚ) ^ (b + 10) = (2 ^ (b + 10).toNat : Nat) := by
    push_cast
    rw [← zpow_natCast]
    congr 1
    omega
  have hscale : (2 : ℚ) ^ (b + 10) = 1024 * 2 ^ b := by
    rw [two_zpow_add, mul_comm]
    norm_num
  rw [← hscale, hpow] at habove
  rw [hpow]
  exact_mod_cast habove

/-- A whole number of milliseconds above the lowest part of a binade of seconds is met exactly. -/
theorem eq_of_clear {k : Nat} (hpos : 0 < k) (hlt : k < 2 ^ 50) (hk : n = 1000 * k)
    (hclear : ∀ i j, ¬ (1000 * 2 ^ i ≤ k * 2 ^ j ∧ k * 2 ^ j ≤ 1024 * 2 ^ i)) :
    millis = k := by
  obtain ⟨⟨hb, hb'⟩, habove, hbelow⟩ := h.binade_of_clear hpos hlt hk hclear
  have herror := h.abs_sub_lt hk
  obtain ⟨hlow, hhigh⟩ := abs_lt.1 herror
  -- the error is so small that the thousandfold of the seconds lies in the binade of the time
  have hc : c = b + 10 := by
    have hsmall : (2 : ℚ) ^ (b + 10 - 52) ≤ 2 ^ b := two_zpow_le (by omega)
    have hone : (2 : ℚ) ^ (b + 10 - 52) ≤ 2 ^ (0 : Int) := two_zpow_le (by omega)
    have hscale : (2 : ℚ) ^ (b + 10 + 1) = 2048 * 2 ^ b := by
      rw [show b + 10 + 1 = 11 + b by omega, two_zpow_add]
      norm_num
    have hpositive := two_zpow_pos b
    rw [zpow_zero] at hone
    refine binade_unique h.second.le h.second.lt (by linarith) ?_
    rw [hscale]
    linarith
  subst hc
  have hmultiple : (k : ℚ) = (k * 2 ^ (42 - b).toNat : Nat) * 2 ^ (b + 10 - 52) := by
    have hpow : (2 : ℚ) ^ (42 - b).toNat * 2 ^ (b + 10 - 52) = 1 := by
      rw [← zpow_natCast, ← two_zpow_add, show ((42 - b).toNat : Int) + (b + 10 - 52) = 0 by omega,
        zpow_zero]
    push_cast
    rw [mul_assoc, hpow, mul_one]
  rw [hmultiple]
  refine h.second.eq_of_abs_lt ?_
  rw [← hmultiple]
  exact herror

end Measures

/-! ## Whole milliseconds -/

theorem wholeMilliseconds_zero : wholeMilliseconds 0 = 0 := by decide +kernel

/-- A time is off by at most one millisecond, and one of less than 142 years is never too long. -/
theorem wholeMilliseconds_near (hlt : n < 2 ^ 59) :
    (n : Int) / 1000 - 1 ≤ wholeMilliseconds n ∧ wholeMilliseconds n ≤ (n : Int) / 1000 + 1 ∧
      (n < 2 ^ 52 → wholeMilliseconds n ≤ (n : Int) / 1000) := by
  rcases Nat.eq_zero_or_pos n with rfl | hpos
  · rw [Nat.cast_zero, wholeMilliseconds_zero]
    decide
  obtain ⟨seconds, millis, b, c, h, heq⟩ := exists_measures hpos hlt
  have herror := h.error_lt hpos
  have hlow := neg_abs_le (millis - n / 1000)
  have hhigh := le_abs_self (millis - n / 1000)
  have hn : (n : ℚ) < 2 ^ 59 := by exact_mod_cast hlt
  obtain ⟨q, hq⟩ : ∃ q : Int, q = n / 1000 := ⟨_, rfl⟩
  have hqlow : 1000 * (q : ℚ) ≤ n := by
    have hqlow : 1000 * q ≤ n := by omega
    exact_mod_cast hqlow
  have hqhigh : (n : ℚ) ≤ 1000 * q + 999 := by
    have hqhigh : (n : Int) ≤ 1000 * q + 999 := by omega
    exact_mod_cast hqhigh
  rw [heq, ← hq]
  refine ⟨Int.le_floor.2 ?_, Int.lt_add_one_iff.1 (Int.floor_lt.2 ?_), fun hsmall =>
    Int.lt_add_one_iff.1 (Int.floor_lt.2 ?_)⟩
  · push_cast
    linarith
  · push_cast
    linarith
  · have hsmall' : (n : ℚ) < 2 ^ 52 := by exact_mod_cast hsmall
    push_cast
    linarith

/-- A steady time is cut to its whole milliseconds. -/
theorem wholeMilliseconds_of_isSteady (hsteady : IsSteady n) (hlt : n < 2 ^ 59) :
    wholeMilliseconds n = (n : Int) / 1000 := by
  rcases Nat.eq_zero_or_pos n with rfl | hpos
  · rw [Nat.cast_zero, wholeMilliseconds_zero]
    rfl
  obtain ⟨seconds, millis, b, c, h, heq⟩ := exists_measures hpos hlt
  rw [heq]
  cases hsteady with
  | dyadic hdvd =>
    rw [h.eq_of_dyadic hlt hdvd]
    exact_mod_cast Rat.floor_natCast_div_natCast n 1000
  | between hlow hhigh =>
    have herror := h.error_lt hpos
    have hbelow := neg_abs_le (millis - n / 1000)
    have habove := le_abs_self (millis - n / 1000)
    -- the error in microseconds is less than the integer after its bound
    obtain ⟨reach, hreach⟩ : ∃ reach, reach = n / 2 ^ 52 + 1 := ⟨_, rfl⟩
    obtain ⟨q, hq⟩ : ∃ q : Int, q = n / 1000 := ⟨_, rfl⟩
    have hbound : (n : ℚ) < 2 ^ 52 * reach := by
      have hbound : n < 2 ^ 52 * reach := by omega
      exact_mod_cast hbound
    have hqlow : 1000 * (q : ℚ) + reach ≤ n := by
      have hqlow : 1000 * q + reach ≤ n := by omega
      exact_mod_cast hqlow
    have hqhigh : (n : ℚ) + reach ≤ 1000 * (q + 1) := by
      have hqhigh : (n : Int) + reach ≤ 1000 * (q + 1) := by omega
      exact_mod_cast hqhigh
    rw [← hq]
    exact Int.floor_eq_iff.2 ⟨by linarith, by linarith⟩
  | @clear k hk hclear =>
    rw [h.eq_of_clear (by omega) (by omega) hk hclear, Int.floor_natCast]
    omega

/-! ## The time between two moments -/

variable {target now : Moment}

/-- What remains is said of the instants of the two moments alone. -/
theorem remaining_congr {target' now' : Moment} (htarget : target'.instant = target.instant)
    (hnow : now'.instant = now.instant) : remaining target' now' = remaining target now := by
  unfold remaining
  rw [htarget, hnow]

theorem instant_asUtc (m : Moment) : m.asUtc.instant = m.instant := rfl

theorem remaining_eq_pastTarget_iff :
    remaining target now = .error .pastTarget ↔ target.instant < now.instant := by
  unfold remaining
  by_cases hpast : target.instant - now.instant < 0
  · simp only [hpast, if_true, true_iff]
    omega
  · simp only [hpast, if_false, reduceCtorEq, false_iff]
    omega

/-- Two moments of the calendar are less than eighteen thousand years apart. -/
theorem lt_of_isProper (htarget : target.IsProper) (hnow : now.IsProper) {micros : Nat}
    (h : target.instant = now.instant + micros) : micros < 2 ^ 59 := by
  have hwall := htarget.wall
  have hwall' := hnow.wall
  have hearliest : Moment.earliest = -62135596800000000 := by decide
  have hhorizon : Moment.horizon = 253402300800000000 := by decide
  rw [Moment.inRange, Bool.and_eq_true, decide_eq_true_eq, decide_eq_true_eq, hearliest,
    hhorizon] at hwall hwall'
  have hoffset : ∀ m : Moment, m.IsProper → (m.offset.getD 0).natAbs < 1440 := by
    intro m hm
    cases ho : m.offset with
    | none => decide
    | some o => exact hm.offset o (by rw [ho]; rfl)
  have ho := hoffset target htarget
  have ho' := hoffset now hnow
  simp only [Moment.instant, Moment.minute] at h
  omega

/-- **What remains until a date.** It depends on the two instants alone. A target that lies before
now, by a microsecond or more, is in the past, and until any other target the time that remains is
cut to whole milliseconds, except that the roundings may move a time that is not steady into the
millisecond beside it, and into the one before it unless the time is longer than 142 years. -/
theorem remaining_cut (htarget : target.IsProper) (hnow : now.IsProper) :
    (∀ target' now' : Moment, target'.instant = target.instant → now'.instant = now.instant →
      remaining target' now' = remaining target now) ∧
    remaining target.asUtc now.asUtc = remaining target now ∧
    (remaining target now = .error .pastTarget ↔ target.instant < now.instant) ∧
    ∀ micros : Nat, target.instant = now.instant + micros →
      ∃ ms : Int, remaining target now = .ok ms ∧
        (IsSteady micros → ms = micros / 1000) ∧ (micros : Int) / 1000 - 1 ≤ ms ∧
          ms ≤ micros / 1000 + 1 ∧ (micros < 2 ^ 52 → ms ≤ micros / 1000) := by
  refine ⟨fun target' now' => remaining_congr,
    remaining_congr (instant_asUtc target) (instant_asUtc now), remaining_eq_pastTarget_iff, ?_⟩
  intro micros h
  have hlt := lt_of_isProper htarget hnow h
  have hdifference : target.instant - now.instant = micros := by omega
  refine ⟨wholeMilliseconds micros, ?_, fun hsteady => wholeMilliseconds_of_isSteady hsteady hlt,
    wholeMilliseconds_near hlt⟩
  exact remaining_eq_ok_iff.2 ⟨by omega, by rw [hdifference]⟩

/-- From noon without an offset to a second and a half after two o'clock, two hours ahead of UTC. -/
theorem remaining_cut_offset :
    let target : Moment := ⟨1767276001500250, some 120⟩
    let now : Moment := ⟨1767268800000000, none⟩
    target.IsProper ∧ now.IsProper ∧ target.instant = now.instant + 1500250 ∧
      IsSteady 1500250 ∧ remaining target now = .ok 1500 := by
  intro target now
  have htarget : target.IsProper := ⟨by decide, by rintro o ⟨⟩; decide⟩
  have hnow : now.IsProper := ⟨by decide, by rintro o ⟨⟩⟩
  have hsteady : IsSteady 1500250 := .between (by decide) (by decide)
  obtain ⟨-, -, -, hremaining⟩ := remaining_cut htarget hnow
  obtain ⟨ms, hok, hms, -⟩ := hremaining 1500250 (by decide)
  obtain rfl : ms = 1500 := hms hsteady
  exact ⟨htarget, hnow, by decide, hsteady, hok⟩

/-- It is not so that every time that remains is cut to its whole milliseconds: of a second and a
millisecond only the second is left. -/
theorem millisecond_lost :
    ¬ ∀ target now : Moment, target.IsProper → now.IsProper → now.instant ≤ target.instant →
      remaining target now = .ok ((target.instant - now.instant) / 1000) := by
  intro h
  have hremaining := h ⟨1767268801001000, some 0⟩ ⟨1767268800000000, some 0⟩
    ⟨by decide, by rintro o ⟨⟩; decide⟩ ⟨by decide, by rintro o ⟨⟩; decide⟩ (by decide)
  have hlost : remaining ⟨1767268801001000, some 0⟩ ⟨1767268800000000, some 0⟩ = .ok 1000 := by
    decide
  rw [hlost] at hremaining
  cases hremaining

end Automation.Delay
