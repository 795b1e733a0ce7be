import Automation.Proofs.Time.Calendar
import Automation.Time.Reading
import Mathlib.Data.List.Basic
import Mathlib.Data.Nat.Digits.Defs

/-!
# Written moments read back

A moment whose year has four digits and whose offset is less than a day is written as a date, a time
of day and an offset, and each of the three parts is read off the text in turn. So the moment is
read back from what is written of it, with its offset and its microseconds
(`Moment.ofText_jsonText`).
-/

set_option autoImplicit false

namespace Automation

open Text Moment

/-! ## Digits -/

namespace Text

variable {c : Char} {cs rest : List Char} {n width : Nat}

theorem asciiDigit?_of_isDigit (h : c.isDigit = true) :
    asciiDigit? c = some (c.toNat - '0'.toNat) := by
  rw [Char.isDigit, Bool.and_eq_true, decide_eq_true_eq, decide_eq_true_eq] at h
  exact if_pos h

theorem mapM_asciiDigit? (h : ∀ c ∈ cs, c.isDigit = true) :
    cs.mapM asciiDigit? = some (cs.map fun c => c.toNat - '0'.toNat) := by
  induction cs with
  | nil => rfl
  | cons c cs ih =>
    rw [List.mapM_cons, asciiDigit?_of_isDigit (h c List.mem_cons_self),
      ih fun d hd => h d (List.mem_cons_of_mem c hd)]
    rfl

theorem toList_padded (width n : Nat) : (padded width n).toList =
    List.replicate (width - (Nat.toDigits 10 n).length) '0' ++ Nat.toDigits 10 n := by
  simp [padded, Nat.repr_eq_ofList_toDigits]

theorem isDigit_of_mem_padded (h : c ∈ (padded width n).toList) : c.isDigit = true := by
  rw [toList_padded, List.mem_append] at h
  rcases h with h | h
  · rw [List.eq_of_mem_replicate h]
    rfl
  · exact Nat.isDigit_of_mem_toDigits (by decide) (by decide) h

theorem length_padded (hwidth : 0 < width) (h : n < 10 ^ width) :
    (padded width n).toList.length = width := by
  have hdigits : (Nat.toDigits 10 n).length ≤ width :=
    (Nat.length_toDigits_le_iff (by decide) hwidth).2 h
  rw [toList_padded, List.length_append, List.length_replicate]
  omega

theorem foldl_padded (width n : Nat) :
    ((padded width n).toList.map fun c => c.toNat - '0'.toNat).foldl (fun n d => 10 * n + d) 0 =
      n := by
  rw [List.foldl_map, ← Nat.ofDigitChars_eq_foldl, toList_padded, Nat.ofDigitChars_append,
    Nat.ofDigitChars_replicate_zero, Nat.mul_zero, Nat.ofDigitChars_ten_toDigits]

end Text

namespace Moment

variable {rest : List Char} {n width : Nat}

/-- Digits that are padded to a width are read back, whatever follows them. -/
theorem fixedDigits?_padded (hwidth : 0 < width) (h : n < 10 ^ width) (rest : List Char) :
    fixedDigits? width ((padded width n).toList ++ rest) = some (n, rest) := by
  have hlength := length_padded hwidth h
  rw [fixedDigits?, List.splitAt_eq, List.take_left' hlength, List.drop_left' hlength]
  simp only [hlength, if_true, mapM_asciiDigit? fun c hc => isDigit_of_mem_padded hc,
    Option.map_some, foldl_padded]

/-! ## Dates -/

/-- The characters of a date. -/
def dateChars (d : Date) (rest : List Char) : List Char :=
  (padded 4 d.year.toNat).toList ++ '-' :: ((padded 2 d.month).toList ++
    '-' :: ((padded 2 d.day).toList ++ rest))

theorem length_le_utf8ByteSize (cs : List Char) : cs.length ≤ (String.ofList cs).utf8ByteSize := by
  induction cs with
  | nil => exact Nat.le_refl 0
  | cons c cs ih =>
    have hc := c.utf8Size_pos
    rw [String.ofList_cons, String.utf8ByteSize_append, String.utf8ByteSize_singleton,
      List.length_cons]
    omega

/-- A date of the years 0 to 9999 is read back, whatever follows it. -/
theorem datePart_dateChars {s : String} {d : Date} (hd : d.IsValid) (hfirst : 0 ≤ d.year)
    (hlast : d.year ≤ 9999) (hs : s.toList = dateChars d rest) : datePart s = .ok (d, rest) := by
  obtain ⟨year, month, day⟩ := d
  obtain ⟨⟨hmonth, hmonth'⟩, hday, hday'⟩ := hd
  dsimp only at hfirst hlast hmonth hmonth' hday hday'
  obtain ⟨n, rfl⟩ := Int.eq_ofNat_of_zero_le hfirst
  have hyear : n < 10 ^ 4 := by omega
  have hmonthDigits : month < 10 ^ 2 := by omega
  have hdayDigits : day < 10 ^ 2 := by
    have := Date.daysInMonth_le n month
    omega
  -- the text is not shorter than a date, for no character is shorter than a byte
  have hlength : ¬ s.utf8ByteSize < 10 := by
    have hle := length_le_utf8ByteSize s.toList
    rw [String.ofList_toList, hs, dateChars] at hle
    simp only [List.length_append, List.length_cons, Int.toNat_natCast,
      length_padded (show 0 < 4 by decide) hyear,
      length_padded (show 0 < 2 by decide) hmonthDigits,
      length_padded (show 0 < 2 by decide) hdayDigits] at hle
    omega
  have hmonthRange : ¬ (month = 0 ∨ 12 < month) := by omega
  have hdayRange : ¬ (day = 0 ∨ Date.daysInMonth n month < day) := by omega
  simp [datePart, hs, dateChars, hlength, fixedDigits?_padded (show 0 < 4 by decide) hyear,
    fixedDigits?_padded (show 0 < 2 by decide) hmonthDigits,
    fixedDigits?_padded (show 0 < 2 by decide) hdayDigits, hmonthRange, hdayRange]
  rfl

/-! ## Times of day -/

/-- What may follow a time of day: nothing that goes on with its fraction. -/
def EndsTime (rest : List Char) : Prop :=
  ∀ c ∈ rest.head?, asciiDigit? c = none ∧ c ≠ '.' ∧ c ≠ ','

/-- The characters of a time of day, in microseconds. -/
def timeChars (t : Nat) (rest : List Char) : List Char :=
  (padded 2 (t / 3600000000)).toList ++ ':' :: ((padded 2 (t / 60000000 % 60)).toList ++
    ':' :: ((padded 2 (t / 1000000 % 60)).toList ++
      if t % 1000000 = 0 then rest else '.' :: ((padded 6 (t % 1000000)).toList ++ rest)))

theorem fraction?_padded (h : n < 10 ^ 6) (hrest : EndsTime rest) :
    fraction? ((padded 6 n).toList ++ rest) = some (n, rest) := by
  have hlength := length_padded (show 0 < 6 by decide) h
  have hdigits : ((padded 6 n).toList ++ rest).takeWhile (fun c => (asciiDigit? c).isSome) =
      (padded 6 n).toList := by
    rw [List.takeWhile_append_of_pos fun c hc => by
      rw [asciiDigit?_of_isDigit (isDigit_of_mem_padded hc)]; rfl]
    cases rest with
    | nil => simp
    | cons c rest => simp [(hrest c rfl).1]
  -- a fraction has to have digits, and no more than six of them count
  have hne : ((padded 6 n).toList).isEmpty = false := by
    cases hp : (padded 6 n).toList with
    | nil => rw [hp] at hlength; cases hlength
    | cons c cs => rfl
  have hfront := fixedDigits?_padded (show 0 < 6 by decide) h []
  rw [List.append_nil] at hfront
  simp only [fraction?, hdigits, hne, List.take_left' hlength, hfront, List.drop_left]
  rfl

/-- A time of day is read back, and so is what follows it. -/
theorem timePart?_timeChars {t : Nat} (ht : t < 86400000000) (hrest : EndsTime rest) :
    timePart? (timeChars t rest) = some (t, rest) := by
  have hseconds : seconds? (':' :: ((padded 2 (t / 1000000 % 60)).toList ++
      if t % 1000000 = 0 then rest else '.' :: ((padded 6 (t % 1000000)).toList ++ rest))) =
      some (t / 1000000 % 60 * 1000000 + t % 1000000, rest) := by
    have hsecond : t / 1000000 % 60 < 60 := by omega
    -- without a fraction the time ends at its seconds, where nothing may look like one
    by_cases hmicros : t % 1000000 = 0
    · simp [seconds?, hmicros, fixedDigits?_padded (show 0 < 2 by decide)
        (show t / 1000000 % 60 < 10 ^ 2 by omega), hsecond]
      split
      · exact absurd rfl (hrest _ rfl).2.1
      · exact absurd rfl (hrest _ rfl).2.2
      · rfl
    · simp [seconds?, hmicros, fixedDigits?_padded (show 0 < 2 by decide)
        (show t / 1000000 % 60 < 10 ^ 2 by omega), hsecond,
        fraction?_padded (show t % 1000000 < 10 ^ 6 by omega) hrest]
  have hhour : t / 3600000000 < 24 := by omega
  have hminute : t / 60000000 % 60 < 60 := by omega
  have hsum : (t / 3600000000 * 60 + t / 60000000 % 60) * 60000000 +
      (t / 1000000 % 60 * 1000000 + t % 1000000) = t := by omega
  simp [timePart?, timeChars, fixedDigits?_padded (show 0 < 2 by decide)
    (show t / 3600000000 < 10 ^ 2 by omega), fixedDigits?_padded (show 0 < 2 by decide)
    (show t / 60000000 % 60 < 10 ^ 2 by omega), hhour, hminute, hseconds, hsum]

/-! ## Offsets -/

theorem offsetPart?_offsetText {o : Int} (h : o.natAbs < 1440) :
    offsetPart? (offsetText o).toList = some (some o) := by
  have hhour : o.natAbs / 60 < 10 ^ 2 := by omega
  have hminute : o.natAbs % 60 < 10 ^ 2 := by omega
  have hminute' : o.natAbs % 60 < 60 := by omega
  have hsum : o.natAbs / 60 * 60 + o.natAbs % 60 = o.natAbs := by omega
  have hfront := fixedDigits?_padded (show 0 < 2 by decide) hhour
    (':' :: (padded 2 (o.natAbs % 60)).toList)
  have hback := fixedDigits?_padded (show 0 < 2 by decide) hminute []
  rw [List.append_nil] at hback
  have hdigits : ∀ negative, offsetDigits? negative
      ((padded 2 (o.natAbs / 60)).toList ++ ':' :: (padded 2 (o.natAbs % 60)).toList) =
        some (Binary64.signed negative o.natAbs) := by
    intro negative
    simp [offsetDigits?, hfront, hback, hminute', hsum, h]
  by_cases hsign : o < 0
  · simp [offsetText, hsign, offsetPart?, hdigits, Binary64.signed, -Nat.cast_natAbs]
    omega
  · simp [offsetText, hsign, offsetPart?, hdigits, Binary64.signed, -Nat.cast_natAbs]
    omega

/-! ## Moments -/

/-- A moment of the years 1 to 9999 on a clock that is less than a day ahead of UTC or behind it. -/
structure IsProper (m : Moment) : Prop where
  wall : inRange m.wall = true
  offset : ∀ o ∈ m.offset, o.natAbs < 1440

/-- What stands for the offset of a moment. -/
def offsetChars (m : Moment) : List Char :=
  (m.offset.map fun o => if o = 0 then ['Z'] else (offsetText o).toList).getD []

theorem offsetPart?_offsetChars {m : Moment} (h : m.IsProper) :
    offsetPart? m.offsetChars = some m.offset := by
  obtain ⟨wall, offset⟩ := m
  cases offset with
  | none => rfl
  | some o =>
    -- an offset of zero is written as Z, any other with its sign
    by_cases hzero : o = 0
    · subst hzero
      rfl
    · simpa [offsetChars, hzero] using offsetPart?_offsetText (h.offset o rfl)

theorem endsTime_offsetChars (m : Moment) : EndsTime m.offsetChars := by
  obtain ⟨wall, offset⟩ := m
  intro c hc
  cases offset with
  | none => cases hc
  | some o =>
    by_cases hzero : o = 0
    · subst hzero
      cases hc
      decide
    · by_cases hsign : o < 0
      · simp [offsetChars, hzero, offsetText, hsign] at hc
        subst hc
        decide
      · simp [offsetChars, hzero, offsetText, hsign] at hc
        subst hc
        decide

theorem toList_jsonText (m : Moment) : m.jsonText.toList =
    dateChars m.date ('T' :: timeChars m.timeOfDay m.offsetChars) := by
  obtain ⟨wall, offset⟩ := m
  have hoffset : ((offset.map fun o => if o = 0 then "Z" else offsetText o).getD "").toList =
      offsetChars ⟨wall, offset⟩ := by
    cases offset with
    | none => rfl
    | some o => by_cases hzero : o = 0 <;> simp [offsetChars, hzero]
  by_cases hmicros : timeOfDay ⟨wall, offset⟩ % 1000000 = 0 <;>
    simp [jsonText, wallText, hoffset, hmicros, dateChars, timeChars]

/-- A moment that is written is read as it was. -/
theorem ofText_jsonText {m : Moment} (h : m.IsProper) : ofText m.jsonText = .ok m := by
  have hrange := h.wall
  rw [inRange, Bool.and_eq_true, decide_eq_true_eq, decide_eq_true_eq] at hrange
  obtain ⟨hfirst, hlast⟩ := hrange
  have hyear : 1 ≤ m.date.year ∧ m.date.year ≤ 9999 := by
    refine Date.year_ofDays ?_ ?_
    · exact Int.le_ediv_of_mul_le (by decide) hfirst
    · exact Int.ediv_lt_of_lt_mul (by decide) hlast
  have hvalid : m.date.IsValid := Date.isValid_ofDays _
  have hdate := datePart_dateChars hvalid (by omega) hyear.2 m.toList_jsonText
  have htime := timePart?_timeChars (t := m.timeOfDay) (by simp only [timeOfDay, day]; omega)
    m.endsTime_offsetChars
  -- the three parts are read in turn, and together they are the moment
  have hparts : fullParts? m.jsonText = some (m.date, m.timeOfDay, m.offset) := by
    simp [fullParts?, hdate, htime, offsetPart?_offsetChars h, Except.toOption]
  have hwall : m.date.toDays * day + (m.timeOfDay : Int) = m.wall := by
    rw [date, Date.toDays_ofDays]
    simp only [timeOfDay, day]
    omega
  rw [ofText, hparts]
  simp only [ofParts, hwall, inCalendar]
  rw [if_neg (by omega)]

/-- A written moment is not blank: its date has hyphens. -/
theorem isBlankText_jsonText (m : Moment) : isBlankText m.jsonText = false := by
  have hhyphen : '-' ∈ m.jsonText.toList := by simp [toList_jsonText, dateChars]
  exact List.all_eq_false.2 ⟨'-', hhyphen, by decide⟩

end Moment

end Automation
