import Automation.Number.Word
import Automation.Proofs.Flow.WellFormed
import Automation.Proofs.Number.Binary64

/-!
# The length of a delay

When a delay has a length and which one (`milliseconds_eq_ok_iff`), and what follows from it: the
length is not negative unless a relative amount is, it is never too long for a number in double
precision, and a complete delay has no length only when its date has passed.
-/

set_option autoImplicit false

namespace Automation.Delay

variable {d : Delay} {now : Moment} {ms : Int}

theorem unitLength?_pos {unit : String} {length : Int} (h : unitLength? unit = some length) :
    0 < length ∧ length ≤ 2 ^ 27 := by
  obtain ⟨entry, hentry, rfl⟩ := Option.map_eq_some_iff.1 h
  have hmem := List.mem_of_find?_eq_some hentry
  simp only [units, List.mem_cons, List.not_mem_nil, or_false] at hmem
  rcases hmem with rfl | rfl | rfl <;> decide

theorem relative_eq_ok_iff {amount : Int} {unit : String} :
    relative amount (some unit) = .ok ms ↔
      ∃ length, unitLength? unit = some length ∧ ms = amount * length := by
  unfold relative
  rw [Option.bind_some]
  cases unitLength? unit with
  | none => simp
  | some length => simp [eq_comm]

theorem remaining_eq_ok_iff {target : Moment} :
    remaining target now = .ok ms ↔
      now.instant ≤ target.instant ∧ ms = wholeMilliseconds (target.instant - now.instant) := by
  unfold remaining
  by_cases hpast : target.instant - now.instant < 0
  · simp only [hpast, if_true, reduceCtorEq, false_iff]
    omega
  · have hle : now.instant ≤ target.instant := by omega
    simp [hpast, hle, eq_comm]

/-- A delay has a length when it is relative and has an amount of a unit there is, or when it is
absolute and has a date that has not passed. -/
theorem milliseconds_eq_ok_iff :
    d.milliseconds now = .ok ms ↔
      (d.kind = some "relative" ∧ ∃ amount unit length, d.amountAndUnit? = some (amount, unit) ∧
          unitLength? unit = some length ∧ ms = amount * length) ∨
        (d.kind = some "absolute" ∧ ∃ target, d.target = some target ∧
          now.instant ≤ target.instant ∧
            ms = wholeMilliseconds (target.instant - now.instant)) := by
  unfold milliseconds isRelative isAbsolute
  by_cases hrelative : d.kind = some "relative"
  · simp only [hrelative, beq_self_eq_true, if_true, true_and, Option.some.injEq, String.reduceEq,
      false_and, or_false]
    cases d.amountAndUnit? with
    | none => simp
    | some au =>
      obtain ⟨amount, unit⟩ := au
      simp only [relative_eq_ok_iff, Option.some.injEq, Prod.mk.injEq]
      constructor
      · rintro ⟨length, hlength, hms⟩
        exact ⟨amount, unit, length, ⟨rfl, rfl⟩, hlength, hms⟩
      · rintro ⟨amount', unit', length, ⟨rfl, rfl⟩, hlength, hms⟩
        exact ⟨length, hlength, hms⟩
  · by_cases habsolute : d.kind = some "absolute"
    · simp only [habsolute, Option.some.injEq, String.reduceEq, false_and, false_or, true_and,
        beq_self_eq_true, if_true]
      cases d.target with
      | none => simp
      | some target => simp [remaining_eq_ok_iff]
    · simp [hrelative, habsolute]

/-- A time that is not negative is a number of milliseconds that is not. -/
theorem wholeMilliseconds_nonneg {micros : Int} (h : 0 ≤ micros) :
    0 ≤ wholeMilliseconds micros := by
  have hsign : decide (micros < 0) = false := by simpa using h
  unfold wholeMilliseconds Binary64.ofIntRatio
  rw [hsign]
  obtain ⟨m, e, hratio, -⟩ := Binary64.ofRatio_cases false micros.natAbs 1000000
  rw [hratio]
  split
  · exact Int.le_refl 0
  · exact Binary64.truncate_ofRatio_nonneg _ _

/-- A time in milliseconds is no greater than the numbers of the format that counts its seconds. -/
theorem wholeMilliseconds_le (micros : Int) :
    (wholeMilliseconds micros).natAbs ≤ 2 ^ 54 * 2 ^ Binary64.maxExponent.toNat := by
  unfold wholeMilliseconds
  cases Binary64.ofIntRatio micros 1000000 with
  | nan => exact Nat.zero_le _
  | infinite negative => exact Nat.zero_le _
  | finite negative m e => exact Binary64.truncate_ofRatio_le _ _ (Nat.two_pow_pos _)

/-- A delay whose relative amount is not negative waits no negative time. -/
theorem milliseconds_nonneg (h : d.milliseconds now = .ok ms)
    (hamount : ∀ amount, d.kind = some "relative" → d.amount = some amount → 0 ≤ amount) :
    0 ≤ ms := by
  rcases milliseconds_eq_ok_iff.1 h with
    ⟨hkind, amount, unit, length, hau, hlength, rfl⟩ | ⟨-, target, -, hle, rfl⟩
  · obtain ⟨hsome, -, -, -⟩ := Flow.amountAndUnit?_eq_some.1 hau
    exact Int.mul_nonneg (hamount amount hkind hsome) (unitLength?_pos hlength).1.le
  · exact wholeMilliseconds_nonneg (by omega)

/-- No delay is longer than the numbers of the format that counts its seconds. -/
theorem milliseconds_le (h : d.milliseconds now = .ok ms)
    (hfits : ∀ amount, d.amount = some amount → fitsWord amount) :
    ms.natAbs ≤ 2 ^ 54 * 2 ^ Binary64.maxExponent.toNat := by
  rcases milliseconds_eq_ok_iff.1 h with
    ⟨-, amount, unit, length, hau, hlength, rfl⟩ | ⟨-, target, -, -, rfl⟩
  · obtain ⟨hsome, -, -, -⟩ := Flow.amountAndUnit?_eq_some.1 hau
    have hword : amount.natAbs ≤ 2 ^ 63 := by
      have hfit := hfits amount hsome
      simp only [fitsWord, Bool.and_eq_true, decide_eq_true_eq] at hfit
      omega
    have hunit : length.natAbs ≤ 2 ^ 27 := by
      have hlength := unitLength?_pos hlength
      omega
    -- an amount below 2 ^ 63 in units of at most 2 ^ 27 milliseconds
    have hroom : 36 ≤ Binary64.maxExponent.toNat := by decide
    calc (amount * length).natAbs = amount.natAbs * length.natAbs := Int.natAbs_mul _ _
      _ ≤ 2 ^ 63 * 2 ^ 27 := Nat.mul_le_mul hword hunit
      _ = 2 ^ 54 * 2 ^ 36 := by decide
      _ ≤ 2 ^ 54 * 2 ^ Binary64.maxExponent.toNat :=
        Nat.mul_le_mul_left _ (Nat.pow_le_pow_right Nat.two_pos hroom)
  · exact wholeMilliseconds_le _

/-- A complete delay has no length only when its date has passed. -/
theorem IsComplete.fault_eq (h : d.IsComplete) {fault : DelayFault}
    (hms : d.milliseconds now = .error fault) : fault = .pastTarget := by
  -- a complete relative delay always has a length, so the delay is absolute
  have hno : ∀ ms, d.milliseconds now ≠ .ok ms := by
    intro ms hok
    rw [hms] at hok
    cases hok
  rcases h with ⟨hkind, amount, unit, hamount, hpos, hunit, hmem⟩ | ⟨hkind, target, htarget⟩
  · have hau : d.amountAndUnit? = some (amount, unit) :=
      Flow.amountAndUnit?_eq_some.2 ⟨hamount, hunit, by omega, Flow.ne_empty_of_mem_units hmem⟩
    obtain ⟨length, hlength⟩ :=
      Option.isSome_iff_exists.1 ((Flow.unitLength?_isSome_iff unit).2 hmem)
    have hok : d.milliseconds now = .ok (amount * length) :=
      milliseconds_eq_ok_iff.2 (Or.inl ⟨hkind, amount, unit, length, hau, hlength, rfl⟩)
    exact absurd hok (hno _)
  · have habsolute : d.milliseconds now = remaining target now := by
      simp [milliseconds, isRelative, isAbsolute, hkind, htarget]
    rw [habsolute] at hms
    unfold remaining at hms
    by_cases hpast : target.instant - now.instant < 0
    · simpa [hpast, eq_comm] using hms
    · simp [hpast] at hms

end Automation.Delay
