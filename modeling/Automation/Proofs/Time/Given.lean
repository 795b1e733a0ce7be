import Automation.Proofs.Time.Written
import Automation.Proofs.Value.Dates
import Automation.Value.Reading

/-!
# Moments that were read

A moment that is read from a text or from a count lies in the years 1 to 9999, and its clock is less
than a day ahead of UTC or behind it (`Moment.isProper_ofText`, `Moment.isProper_ofInt`,
`Moment.isProper_ofReal`). So whatever is read of JSON as a moment can be written as a text again.
-/

set_option autoImplicit false

namespace Automation

open Text

/-- The last day of the year 9999 is before the first of the year 10000. -/
theorem Date.toDays_lt_horizon {d : Date} (hd : d.IsValid) (hlast : d.year ≤ 9999) :
    d.toDays < toDays ⟨10000, 1, 1⟩ := by
  have hhorizon : toDays ⟨10000, 1, 1⟩ = 2932897 := by decide
  obtain ⟨year, month, day⟩ := d
  obtain ⟨⟨hmonth, hmonth'⟩, hday, hday'⟩ := hd
  have hlong := daysInMonth_le year month
  rw [hhorizon]
  simp only [toDays] at hmonth hmonth' hday hday' hlast ⊢
  -- January and February belong to a year that began in the March before
  by_cases hearly : month ≤ 2
  · simp only [if_pos hearly]
    omega
  · simp only [if_neg hearly]
    omega

namespace Moment

/-! ## Digits -/

theorem asciiDigit?_lt {c : Char} {n : Nat} (h : asciiDigit? c = some n) : n < 10 := by
  unfold asciiDigit? at h
  split at h
  · rename_i hc
    have hle : c.toNat ≤ '9'.toNat := hc.2
    have hnine : '9'.toNat = 57 := rfl
    have hzero : '0'.toNat = 48 := rfl
    cases h
    omega
  · cases h

theorem foldl_lt {ds : List Nat} (h : ∀ d ∈ ds, d < 10) (n : Nat) :
    ds.foldl (fun n d => 10 * n + d) n < (n + 1) * 10 ^ ds.length := by
  -- by induction on the digits, the number that was read before them generalized
  induction ds generalizing n with
  | nil => simp
  | cons d ds ih =>
    have hd := h d List.mem_cons_self
    calc (d :: ds).foldl (fun n d => 10 * n + d) n
        < (10 * n + d + 1) * 10 ^ ds.length := ih (fun d hd => h d (List.mem_cons_of_mem _ hd)) _
      _ ≤ ((n + 1) * 10) * 10 ^ ds.length := Nat.mul_le_mul_right _ (by omega)
      _ = (n + 1) * 10 ^ (d :: ds).length := by rw [List.length_cons, Nat.pow_succ']; ring

theorem mapM_asciiDigit?_some {cs : List Char} {ds : List Nat} (h : cs.mapM asciiDigit? = some ds) :
    ds.length = cs.length ∧ ∀ d ∈ ds, d < 10 := by
  induction cs generalizing ds with
  | nil =>
    cases h
    exact ⟨rfl, nofun⟩
  | cons c cs ih =>
    rw [List.mapM_cons] at h
    obtain ⟨d, hd, h⟩ := Option.bind_eq_some_iff.1 h
    obtain ⟨rest, hrest, h⟩ := Option.bind_eq_some_iff.1 h
    cases h
    obtain ⟨hlength, hdigits⟩ := ih hrest
    exact ⟨congrArg (· + 1) hlength, List.forall_mem_cons.2 ⟨asciiDigit?_lt hd, hdigits⟩⟩

/-- So many digits are a number below that power of ten. -/
theorem fixedDigits?_lt {count n : Nat} {cs rest : List Char}
    (h : fixedDigits? count cs = some (n, rest)) : n < 10 ^ count := by
  rw [fixedDigits?, List.splitAt_eq] at h
  dsimp only at h
  split at h
  · rename_i hlength
    obtain ⟨ds, hds, heq⟩ := Option.map_eq_some_iff.1 h
    cases heq
    obtain ⟨hcount, hdigits⟩ := mapM_asciiDigit?_some hds
    have hlt := foldl_lt hdigits 0
    rwa [hcount, hlength, Nat.zero_add, Nat.one_mul] at hlt
  · cases h

/-! ## Dates -/

/-- A date that is read is in the calendar, and its year has four digits. -/
theorem datePart_eq_ok {s : String} {d : Date} {rest : List Char} (h : datePart s = .ok (d, rest)) :
    d.IsValid ∧ d.year ≤ 9999 := by
  -- the reader takes one part after the other, and each of them may refuse
  unfold datePart at h
  simp only [bind, Except.bind, pure, Except.pure, throw, throwThe, MonadExceptOf.throw] at h
  split at h
  · cases h
  split at h
  case h_2 => cases h
  rename_i year afterYear hyear
  split at h
  case h_2 => cases h
  rename_i hmonth
  split at h
  case h_2 => cases h
  rename_i month afterMonth hmonth
  split at h
  case h_2 => cases h
  split at h
  case h_2 => cases h
  rename_i day afterDay hday
  split at h
  · cases h
  split at h
  · cases h
  rename_i hmonthRange hdayRange
  cases h
  have hdigits := fixedDigits?_lt hyear
  refine ⟨⟨⟨?_, ?_⟩, ?_, ?_⟩, ?_⟩ <;> dsimp only <;> omega

/-! ## Times of day -/

theorem fraction?_lt {cs rest : List Char} {micros : Nat} (h : fraction? cs = some (micros, rest)) :
    micros < 1000000 := by
  simp only [fraction?] at h
  split at h
  · cases h
  obtain ⟨⟨n, after⟩, hn, heq⟩ := Option.map_eq_some_iff.1 h
  cases heq
  exact fixedDigits?_lt hn

theorem seconds?_lt {cs rest : List Char} {micros : Nat} (h : seconds? cs = some (micros, rest)) :
    micros < 60000000 := by
  unfold seconds? at h
  split at h
  · obtain ⟨⟨second, after⟩, hsecond, h⟩ := Option.bind_eq_some_iff.1 h
    obtain ⟨⟨⟩, hguard, h⟩ := Option.bind_eq_some_iff.1 h
    have hlt : second < 60 := by simpa [guard] using hguard
    dsimp only at h
    split at h
    · obtain ⟨⟨n, after⟩, hn, h⟩ := Option.bind_eq_some_iff.1 h
      have := fraction?_lt hn
      cases h
      omega
    · obtain ⟨⟨n, after⟩, hn, h⟩ := Option.bind_eq_some_iff.1 h
      have := fraction?_lt hn
      cases h
      omega
    · cases h
      omega
  · cases h
    decide

/-- A time of day that is read is less than a day. -/
theorem timePart?_lt {cs rest : List Char} {micros : Nat} (h : timePart? cs = some (micros, rest)) :
    micros < 86400000000 := by
  unfold timePart? at h
  obtain ⟨⟨hour, afterHour⟩, hhour, h⟩ := Option.bind_eq_some_iff.1 h
  dsimp only at h
  split at h
  · obtain ⟨⟨minute, afterMinute⟩, hminute, h⟩ := Option.bind_eq_some_iff.1 h
    obtain ⟨⟨⟩, hguard, h⟩ := Option.bind_eq_some_iff.1 h
    obtain ⟨⟨n, after⟩, hn, h⟩ := Option.bind_eq_some_iff.1 h
    have hlt : hour < 24 ∧ minute < 60 := by simpa [guard] using hguard
    have := seconds?_lt hn
    cases h
    omega
  · cases h

/-! ## Offsets -/

theorem offsetDigits?_lt {negative : Bool} {cs : List Char} {o : Int}
    (h : offsetDigits? negative cs = some o) : o.natAbs < 1440 := by
  unfold offsetDigits? at h
  obtain ⟨⟨hour, afterHour⟩, hhour, h⟩ := Option.bind_eq_some_iff.1 h
  obtain ⟨⟨minute, afterMinute⟩, hminute, h⟩ := Option.bind_eq_some_iff.1 h
  obtain ⟨⟨⟩, hguard, h⟩ := Option.bind_eq_some_iff.1 h
  have hlt : afterMinute = [] ∧ minute < 60 ∧ hour * 60 + minute < 24 * 60 := by
    simpa [guard] using hguard
  cases h
  cases negative <;> simp only [Binary64.signed] <;> omega

/-- An offset that is read is less than a day. -/
theorem offsetPart?_lt {cs : List Char} {offset : Option Int} (h : offsetPart? cs = some offset) :
    ∀ o ∈ offset, o.natAbs < 1440 := by
  rintro o rfl
  unfold offsetPart? at h
  split at h
  case h_1 => cases h
  case h_2 | h_3 =>
    cases h
    decide
  case h_7 => cases h
  all_goals
    obtain ⟨o', ho, heq⟩ := Option.map_eq_some_iff.1 h
    cases heq
    exact offsetDigits?_lt ho

/-! ## Moments -/

theorem inCalendar_eq_ok {m m' : Moment} :
    inCalendar m = .ok m' ↔ earliest ≤ m.wall ∧ m = m' := by
  unfold inCalendar
  split
  · simp
    omega
  · simp
    omega

/-- A moment of a date, a time of day and an offset. -/
theorem isProper_ofParts {d : Date} {micros : Nat} {offset : Option Int} {m : Moment}
    (hd : d.IsValid) (hlast : d.year ≤ 9999) (hmicros : micros < 86400000000)
    (hoffset : ∀ o ∈ offset, o.natAbs < 1440) (h : ofParts d micros offset = .ok m) :
    m.IsProper := by
  obtain ⟨hfirst, rfl⟩ := inCalendar_eq_ok.1 h
  -- the first moment is checked when the parts are put together, the last follows from the year
  have hdays := Date.toDays_lt_horizon hd hlast
  refine ⟨?_, hoffset⟩
  rw [inRange, Bool.and_eq_true, decide_eq_true_eq, decide_eq_true_eq]
  refine ⟨hfirst, ?_⟩
  simp only [horizon, day]
  omega

theorem isProper_ofMicros {total : Int} {m m' : Moment} (h : ofMicros total = .ok m)
    (hm : inCalendar m = .ok m') : m'.IsProper := by
  obtain ⟨hfirst, rfl⟩ := inCalendar_eq_ok.1 hm
  have hhorizon : horizon = 253402300800000000 := by decide
  simp only [ofMicros] at h
  split at h
  · cases h
  split at h
  · cases h
  · rename_i hlast
    cases h
    simp only [lastSecond] at hlast
    refine ⟨?_, by rintro o ⟨⟩; decide⟩
    rw [inRange, Bool.and_eq_true, decide_eq_true_eq, decide_eq_true_eq, hhorizon]
    refine ⟨hfirst, ?_⟩
    simp only [ofInstant]
    omega

theorem isProper_counted {total : Int} {m : Moment} (h : counted (ofMicros total) = .ok m) :
    m.IsProper := by
  unfold counted at h
  split at h
  · exact isProper_ofMicros ‹_› h
  · cases h

theorem isProper_ofReal {x : Binary64} {m : Moment} (h : ofReal x = .ok m) : m.IsProper := by
  unfold ofReal at h
  split at h
  · cases h
  · cases h
  · cases h
  · exact isProper_counted h

theorem isProper_ofInt {n : Int} {m : Moment} (h : ofInt n = .ok m) : m.IsProper := by
  unfold ofInt at h
  split at h
  · exact isProper_counted h
  · split at h
    · cases h
    · exact isProper_ofReal h

theorem fullParts?_some {s : String} {d : Date} {micros : Nat} {offset : Option Int}
    (h : fullParts? s = some (d, micros, offset)) : (d.IsValid ∧ d.year ≤ 9999) ∧
      micros < 86400000000 ∧ ∀ o ∈ offset, o.natAbs < 1440 := by
  unfold fullParts? at h
  -- a date, a separator, and then a time and an offset
  obtain ⟨⟨d', rest⟩, hdate, h⟩ := Option.bind_eq_some_iff.1 h
  have hd : datePart s = .ok (d', rest) := by
    cases hs : datePart s with
    | ok x =>
      rw [hs] at hdate
      cases hdate
      rfl
    | error e =>
      rw [hs] at hdate
      cases hdate
  dsimp only at h
  split at h
  case h_5 => cases h
  all_goals
    obtain ⟨⟨n, after⟩, hn, h⟩ := Option.bind_eq_some_iff.1 h
    obtain ⟨o, ho, h⟩ := Option.bind_eq_some_iff.1 h
    cases h
    exact ⟨datePart_eq_ok hd, timePart?_lt hn, offsetPart?_lt ho⟩

theorem isProper_ofWritten {c : WrittenCount} {m m' : Moment} (h : ofWritten c = .ok m)
    (hm : inCalendar m = .ok m') : m'.IsProper := by
  cases c with
  | whole n => exact isProper_ofMicros h hm
  | real x => exact isProper_ofMicros h hm

theorem isProper_ofDateText {s : String} {m : Moment} (h : ofDateText s = .ok m) : m.IsProper := by
  unfold ofDateText at h
  simp only [bind, Except.bind, pure, Except.pure, throw, throwThe, MonadExceptOf.throw] at h
  cases hdate : datePart s with
  | ok x =>
    obtain ⟨d, rest⟩ := x
    obtain ⟨hd, hlast⟩ := datePart_eq_ok hdate
    rw [hdate] at h
    dsimp only at h
    -- a text that is no date and nothing else can still be a count
    split at h
    · rename_i heq
      split at heq <;> cases heq
      exact isProper_ofParts hd hlast (by decide) (by rintro o ⟨⟩) h
    · split at h
      · split at h
        · exact isProper_ofMicros ‹_› h
        · cases h
      · cases h
  | error e =>
    rw [hdate] at h
    dsimp only at h
    split at h
    · split at h
      · exact isProper_ofMicros ‹_› h
      · cases h
    · cases h

/-- A moment that is read from a text can be written as a text. -/
theorem isProper_ofText {s : String} {m : Moment} (h : ofText s = .ok m) : m.IsProper := by
  unfold ofText at h
  split at h
  · rename_i d micros offset hparts
    obtain ⟨⟨hd, hlast⟩, hmicros, hoffset⟩ := fullParts?_some hparts
    exact isProper_ofParts hd hlast hmicros hoffset h
  · split at h
    · rename_i hcount
      obtain ⟨c, -, hc⟩ := Option.map_eq_some_iff.1 hcount
      exact isProper_ofWritten hc h
    · exact isProper_ofDateText h

end Moment

/-- Whatever is read of JSON as a moment can be written as a text. -/
theorem Value.IsJson.isProper {v : Value} {m : Moment} (hv : v.IsJson)
    (h : Reader.moment v = .ok m) : m.IsProper := by
  cases v with
  | text s =>
    simp only [Reader.moment] at h
    split at h <;> cases h
    exact Moment.isProper_ofText ‹_›
  | int n =>
    simp only [Reader.moment] at h
    split at h <;> cases h
    exact Moment.isProper_ofInt ‹_›
  | real x =>
    simp only [Reader.moment] at h
    split at h <;> cases h
    exact Moment.isProper_ofReal ‹_›
  | date m => simp [IsJson] at hv
  | _ => cases h

end Automation
