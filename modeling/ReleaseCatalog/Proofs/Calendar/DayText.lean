import Mathlib.Tactic.IntervalCases
import Std.Time
import ReleaseCatalog.Proofs.Calendar.WrittenDay
import ReleaseCatalog.Proofs.Release.SoleDate

/-!
# The text of a day and the day

The days are those of the Gregorian calendar as the standard library has them, in all years
before and after it was used (`isDay_iff_exists_date`).

A number filled up with zeros can be read back, whatever its sign and however long it is
(`ofIntPadded_injective`).  The text of a day ends in a month and a day of the month of two
digits each, so what is in front of them is the year, and different days have different
texts (`eq_of_writeDay_eq`).  For years of at most four digits the text is in the shape of a
date that begins with the year, and a search reads the day back (`WritesDay.find_eq`).
-/

namespace ReleaseCatalog

/-! ## Numbers filled up with zeros -/

namespace Text

/-- A padded number is its digits, perhaps behind zeros and a minus sign. -/
theorem exists_padded (width : Nat) (n : Int) : ∃ zeros,
    ofIntPadded width n =
      (if n < 0 then ['-'] else []) ++ (List.replicate zeros '0' ++ ofNat n.natAbs) := by
  unfold ofIntPadded
  split
  · exact ⟨_, rfl⟩
  · exact ⟨_, rfl⟩

/-- A minus sign is no digit, so a padded number without one is not negative. -/
theorem minus_append_ne_padded {digits : Text} {zeros k : Nat} :
    ['-'] ++ digits ≠ List.replicate zeros '0' ++ ofNat k := by
  intro same
  have minus : '-' ∈ List.replicate zeros '0' ++ ofNat k := by
    rw [← same]
    exact List.mem_cons_self
  exact absurd (isDigit_of_mem_padded minus) (by decide)

/-- Different numbers are filled up to different texts. -/
theorem ofIntPadded_injective (width : Nat) : Function.Injective (ofIntPadded width) := by
  intro n n' same
  obtain ⟨zeros, padded⟩ := exists_padded width n
  obtain ⟨zeros', padded'⟩ := exists_padded width n'
  rw [padded, padded'] at same
  have value : ∀ {m m' : Nat}, List.replicate zeros '0' ++ ofNat m =
      List.replicate zeros' '0' ++ ofNat m' → m = m' := by
    intro m m' same
    rw [← ofDigitChars_padded zeros m, same, ofDigitChars_padded]
  split at same
  · split at same
    · have := value (List.append_cancel_left same)
      omega
    · exact absurd same minus_append_ne_padded
  · split at same
    · exact absurd same.symm minus_append_ne_padded
    · have := value (List.append_cancel_left same)
      omega

end Text

namespace Calendar

open Release (DateShape DateFields DateStyle IsNumber)
open Std.Time (PlainDate)

/-! ## The calendar of the standard library -/

theorem tmod_eq_zero_iff (a b : Int) : a.tmod b = 0 ↔ a % b = 0 :=
  Int.dvd_iff_tmod_eq_zero.symm.trans Int.dvd_iff_emod_eq_zero

theorem isLeap_eq_isLeapYear (year : Std.Time.Year.Offset) :
    year.isLeap = isLeapYear year.toInt := by
  simp [Std.Time.Year.Offset.isLeap, isLeapYear, tmod_eq_zero_iff]

theorem days_eq_daysInMonth (year : Std.Time.Year.Offset) (month : Std.Time.Month.Ordinal) :
    (month.days year.isLeap).val = daysInMonth year.toInt month.val := by
  rw [isLeap_eq_isLeapYear]
  obtain ⟨m, low, high⟩ := month
  unfold daysInMonth
  generalize isLeapYear year.toInt = leap
  interval_cases m
  all_goals cases leap <;> rfl

variable {year month day year' month' day' : Int} {t : Text}

/-- A year, a month and a day of the month are a day exactly if the standard library has a date
of them. -/
theorem isDay_iff_exists_date : IsDay year month day ↔ ∃ date : PlainDate,
    date.year.toInt = year ∧ date.month.val = month ∧ date.day.val = day := by
  constructor
  · rintro ⟨month_pos, month_le, day_pos, day_le⟩
    have days := days_eq_daysInMonth year ⟨month, month_pos, month_le⟩
    have within := day_le.trans_eq days.symm
    have short := day_le.trans (daysInMonth_le year month)
    exact ⟨⟨year, ⟨month, month_pos, month_le⟩, ⟨day, day_pos, short⟩, within⟩, rfl, rfl, rfl⟩
  · rintro ⟨⟨y, ⟨m, month_pos, month_le⟩, ⟨d, day_pos, _⟩, within⟩, rfl, rfl, rfl⟩
    refine ⟨month_pos, month_le, day_pos, ?_⟩
    rw [← days_eq_daysInMonth y ⟨m, month_pos, month_le⟩]
    exact within

/-! ## The day of a text -/

/-- Days that are written alike are the same, in all years. -/
theorem eq_of_writeDay_eq (isDay : IsDay year month day) (isDay' : IsDay year' month' day')
    (same : writeDay year month day = writeDay year' month' day') :
    year = year' ∧ month = month' ∧ day = day' := by
  obtain ⟨row_m, row_d⟩ := isDay.isRow
  obtain ⟨row_m', row_d'⟩ := isDay'.isRow
  unfold writeDay at same
  obtain ⟨same, same_d⟩ := List.append_inj' same (row_d.length.trans row_d'.length.symm)
  obtain ⟨same, -⟩ := List.append_inj' same rfl
  obtain ⟨same, same_m⟩ := List.append_inj' same (row_m.length.trans row_m'.length.symm)
  obtain ⟨same_y, -⟩ := List.append_inj' same rfl
  exact ⟨Text.ofIntPadded_injective 4 same_y, (row_m.eq_iff row_m').mp same_m,
    (row_d.eq_iff row_d').mp same_d⟩

theorem isNumber_of_isRow {width : Nat} {n : Int} {digits : Text} (row : Text.IsRow width n digits) :
    IsNumber width digits :=
  ⟨row.length, fun c hc => Unicode.isDecimal_of_isDigit (row.isDigit c hc)⟩

/-- The text of a day spells its numbers, the year first. -/
theorem WritesDay.spells (writes : WritesDay t year month day) : ∃ fields : DateFields,
    DateShape.iso.Spells t fields ∧ (fields.year : Int) = year ∧ (fields.month : Int) = month ∧
      (fields.day : Int) = day := by
  obtain ⟨y, m, d, rfl, row_y, row_m, row_d⟩ := writes
  exact ⟨_, .iso (by decide) (isNumber_of_isRow row_y) (isNumber_of_isRow row_m)
    (isNumber_of_isRow row_d), row_y.value, row_m.value, row_d.value⟩

/-- A search in the text of a day finds the day. -/
theorem WritesDay.find_eq (writes : WritesDay t year month day) (range : YearRange) :
    DateShape.iso.style.find range t = some ⟨0, 10, normalizeDay range year month day⟩ := by
  obtain ⟨fields, spells, rfl, rfl, rfl⟩ := writes.spells
  have own : DateShape.iso.style.shape.Spells t fields := spells
  have found := DateStyle.find_fragment own range
  rw [writes.length] at found
  simpa [DateStyle.dayOf, DateShape.style] using found

/-- A text is given exactly to the days of the accepted years, and whatever years are accepted, it
is the text of one day only.  The texts of the years from 0 to 9999 have ten characters, are ordered
like the days, and a search in one of them reads the same text back. -/
theorem normalizeDay_faithful :
    (∀ (range : YearRange) (year month day : Int),
      (normalizeDay range year month day).isSome = true ↔
        range.Contains year ∧ ∃ date : PlainDate,
          date.year.toInt = year ∧ date.month.val = month ∧ date.day.val = day) ∧
    (∀ (range range' : YearRange) (year month day year' month' day' : Int) (t : Text),
      normalizeDay range year month day = some t →
        normalizeDay range' year' month' day' = some t →
          year = year' ∧ month = month' ∧ day = day') ∧
    (∀ (range : YearRange) (year month day : Int) (t : Text), 0 ≤ year → year ≤ 9999 →
      normalizeDay range year month day = some t →
        t.length = 10 ∧ DateShape.iso.style.find range t = some ⟨0, 10, some t⟩ ∧
        ∀ (range' : YearRange) (year' month' day' : Int) (t' : Text), 0 ≤ year' → year' ≤ 9999 →
          normalizeDay range' year' month' day' = some t' →
            (t < t' ↔ Precedes year month day year' month' day')) := by
  refine ⟨?_, ?_, ?_⟩
  · intro range year month day
    rw [← isDay_iff_exists_date]
    simp [normalizeDay]
  · intro range range' year month day year' month' day' t text text'
    obtain ⟨-, isDay, writes⟩ := normalizeDay_eq_some_iff.mp text
    obtain ⟨-, isDay', writes'⟩ := normalizeDay_eq_some_iff.mp text'
    exact eq_of_writeDay_eq isDay isDay' (writes.trans writes'.symm)
  · intro range year month day t first last text
    obtain ⟨-, isDay, rfl⟩ := normalizeDay_eq_some_iff.mp text
    have writes := writesDay_writeDay first last isDay
    refine ⟨writes.length, by rw [writes.find_eq, text], ?_⟩
    intro range' year' month' day' t' first' last' text'
    obtain ⟨-, isDay', rfl⟩ := normalizeDay_eq_some_iff.mp text'
    exact writes.lt_iff (writesDay_writeDay first' last' isDay')

/-- The leap day of the year 4 is read back, and is not written like that of the year -4. -/
theorem normalizeDay_faithful_leap_days :
    let t := "0004-02-29".toList
    normalizeDay ⟨0, 9999⟩ 4 2 29 = some t ∧ normalizeDay ⟨-9, 0⟩ (-4) 2 29 ≠ some t ∧
      t.length = 10 ∧ DateShape.iso.style.find ⟨0, 9999⟩ t = some ⟨0, 10, some t⟩ ∧
      (t < "2021-01-08".toList ↔ Precedes 4 2 29 2021 1 8) := by
  intro t
  have text : normalizeDay ⟨0, 9999⟩ 4 2 29 = some t := by decide
  obtain ⟨-, faithful, written⟩ := normalizeDay_faithful
  obtain ⟨long, found, ordered⟩ := written _ _ _ _ _ (by decide) (by decide) text
  refine ⟨text, fun text' => ?_, long, found, ?_⟩
  · exact absurd (faithful _ _ _ _ _ _ _ _ _ text text').1 (by decide)
  · exact ordered {} 2021 1 8 _ (by decide) (by decide) (by decide)

end Calendar

end ReleaseCatalog
