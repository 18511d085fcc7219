import ReleaseCatalog.Proofs.Calendar.WrittenDay
import ReleaseCatalog.Proofs.Release.Recognition
import ReleaseCatalog.Settings.Basic

/-!
# The years of accepted settings

Settings are valid only if each of them is (`of_assemble`), and a single setting is its default or
was read from a value that is given (`of_field`).  So the two years of accepted settings have four
digits, whatever form their values had, and the range is looked at last (`years_of_build`).

All that a parser says of days and years comes from its range.  With the years of accepted settings
its days are therefore written in ten characters, which are ordered like the days
(`four_digit_years_of_build`).
-/

namespace ReleaseCatalog

open Calendar (IsDay WritesDay Precedes)
open Release (Detection)

/-! ## Days that a parser recognises -/

/-- A parser for years of at most four digits writes the day of a scene in ten characters. -/
theorem Release.Parser.exists_writesDay {parser : Parser} (first : 0 ≤ parser.years.first)
    (last : parser.years.last ≤ 9999) {detection : Detection} {raw date : Text}
    (h : date ∈ (parser.parse detection raw).releaseDate) :
    ∃ year month day, parser.years.Contains year ∧ IsDay year month day ∧
      WritesDay date year month day := by
  have consistent := (parser.reads_recognise raw).isConsistent (detectionOf detection raw).quality
  obtain ⟨year, month, day, -, named⟩ := consistent.date date h
  obtain ⟨contained, isDay, rfl⟩ := Calendar.normalizeDay_eq_some_iff.mp named
  refine ⟨year, month, day, contained, isDay, ?_⟩
  exact Calendar.writesDay_writeDay (Int.le_trans first contained.1)
    (Int.le_trans contained.2 last) isDay

namespace Settings

variable {α β : Type} {given : Given}

/-! ## Valid settings -/

theorem ok_of_bind {ε : Type} {x : Except ε α} {f : α → Except ε β} {b : β}
    (h : x >>= f = .ok b) : ∃ a, x = .ok a ∧ f a = .ok b := by
  cases x with
  | ok a => exact ⟨a, rfl, h⟩
  | error e => cases h

namespace Checked

theorem map_eq_valid {f : α → β} {x : Checked α} {b : β} (h : f <$> x = .valid b) :
    ∃ a, x = .valid a ∧ f a = b := by
  cases x with
  | valid a => exact ⟨a, rfl, Checked.valid.inj h⟩
  | issues found => cases h

/-- A function and its argument are both valid if the result is. -/
theorem seq_eq_valid {f : Checked (α → β)} {x : Checked α} {b : β} (h : f <*> x = .valid b) :
    ∃ g a, f = .valid g ∧ x = .valid a ∧ g a = b := by
  cases f with
  | valid g =>
      cases x with
      | valid a => exact ⟨g, a, rfl, rfl, Checked.valid.inj h⟩
      | issues found => cases h
  | issues found =>
      cases x with
      | valid a => cases h
      | issues more => cases h

end Checked

/-- A valid setting has what its default has and whatever is read from a value. -/
theorem of_field {p : α → Prop} {name : String} {default a : α} {read : Json → Except Cause α}
    (h : field given name default read = .valid a) (default_ok : p default)
    (read_ok : ∀ value a, read value = .ok a → p a) : p a := by
  unfold field at h
  split at h
  · next value found =>
      cases outcome : read value with
      | ok a' =>
          rw [outcome] at h
          exact Checked.valid.inj h ▸ read_ok value a' outcome
      | error cause =>
          rw [outcome] at h
          cases h
  · exact Checked.valid.inj h ▸ default_ok

/-- Assembled settings are valid one by one, and each given value has a setting. -/
theorem of_assemble {journalFile : PosixPath} {values : Values}
    (h : assemble given journalFile = .valid values) :
    field given "min_year" 1900 readYear = .valid values.years.first ∧
    field given "max_year" 2099 readYear = .valid values.years.last ∧
    field given "detect_quality_tags" true readTruth = .valid values.detectsQuality ∧
    field given "scene_tie_break" .fewestPerformers readPolicy = .valid values.tieBreak ∧
    readAliases given = .valid values.aliases ∧
    field given "log_level" "INFO".toList readText = .valid values.journalLevel ∧
    field given "log_rotation_size" "10 MB".toList readText = .valid values.rotationSize ∧
    field given "log_retention_count" 5 readInteger = .valid values.keptFiles ∧
    unknownSettings given = .valid () ∧ values.journalFile = journalFile := by
  obtain ⟨_, _, h₁, unknown, rfl⟩ := Checked.seq_eq_valid h
  obtain ⟨_, _, h₂, count, rfl⟩ := Checked.seq_eq_valid h₁
  obtain ⟨_, _, h₃, size, rfl⟩ := Checked.seq_eq_valid h₂
  obtain ⟨_, _, h₄, level, rfl⟩ := Checked.seq_eq_valid h₃
  obtain ⟨_, _, h₅, aliases, rfl⟩ := Checked.seq_eq_valid h₄
  obtain ⟨_, _, h₆, policy, rfl⟩ := Checked.seq_eq_valid h₅
  obtain ⟨_, _, h₇, detect, rfl⟩ := Checked.seq_eq_valid h₆
  obtain ⟨_, _, h₈, last, rfl⟩ := Checked.seq_eq_valid h₇
  obtain ⟨_, first, rfl⟩ := Checked.map_eq_valid h₈
  exact ⟨first, last, detect, policy, aliases, level, size, count, unknown, rfl⟩

/-- Built settings are assembled, and their range of years has a year. -/
theorem of_build {environment : List (Text × Text)} {home : Option Text} {direct : Given}
    {values : Values} (h : build environment home direct = .ok values) :
    ∃ given journalFile, assemble given journalFile = .valid values ∧
      values.years.first ≤ values.years.last := by
  obtain ⟨base, -, h⟩ := ok_of_bind h
  obtain ⟨journalFile, -, h⟩ := ok_of_bind h
  refine ⟨merge base (bySetting direct), journalFile, ?_⟩
  split at h
  · next assembled valid =>
      unfold checkRange at h
      split at h
      · cases h
      · next range =>
          obtain rfl := Except.ok.inj h
          exact ⟨valid, Int.not_lt.mp range⟩
  · cases h

/-! ## Years -/

theorem readYear_bounds {value : Json} {year : Int} (h : readYear value = .ok year) :
    1000 ≤ year ∧ year ≤ 9999 := by
  obtain ⟨n, -, h⟩ := ok_of_bind h
  split at h
  · cases h
  · next low =>
      split at h
      · cases h
      · next high =>
          obtain rfl := Except.ok.inj h
          exact ⟨Int.not_lt.mp low, Int.not_lt.mp high⟩

/-- The years of built settings have four digits, and there is one. -/
theorem years_of_build {environment : List (Text × Text)} {home : Option Text} {direct : Given}
    {values : Values} (h : build environment home direct = .ok values) :
    1000 ≤ values.years.first ∧ values.years.first ≤ values.years.last ∧
      values.years.last ≤ 9999 := by
  obtain ⟨given, journalFile, assembled, range⟩ := of_build h
  obtain ⟨first, last, -⟩ := of_assemble assembled
  have first_bounds := of_field (p := fun year : Int => 1000 ≤ year ∧ year ≤ 9999) first
    (by decide) fun _ _ => readYear_bounds
  have last_bounds := of_field (p := fun year : Int => 1000 ≤ year ∧ year ≤ 9999) last
    (by decide) fun _ _ => readYear_bounds
  exact ⟨first_bounds.1, range, last_bounds.2⟩

/-- Settings that are built from an environment and from given values accept years from 1000 to
9999, and at least one.  The parser that they ask for finds no year outside their range in any
name, and every day it finds is written in ten ASCII characters, exists, and lies in the range.
The text of such a day is less than another text that writes a day, such as that of another day it
finds, exactly if it comes before the other day. -/
theorem four_digit_years_of_build {environment : List (Text × Text)} {home : Option Text}
    {direct : Given} {values : Values} (built : build environment home direct = .ok values) :
    (1000 ≤ values.years.first ∧ values.years.first ≤ values.years.last ∧
      values.years.last ≤ 9999) ∧
    ∀ (detection : Detection) (raw : Text),
      (∀ year ∈ (values.parser.parse detection raw).year, values.years.Contains year) ∧
      ∀ date ∈ (values.parser.parse detection raw).releaseDate,
        date.length = 10 ∧ (∀ c ∈ date, c.toNat < 128) ∧
        ∃ year month day, values.years.Contains year ∧ IsDay year month day ∧
          WritesDay date year month day ∧
          ∀ date' year' month' day', WritesDay date' year' month' day' →
            (date < date' ↔ Precedes year month day year' month' day') := by
  have years := years_of_build built
  refine ⟨years, fun detection raw => ⟨fun year found => ?_, fun date found => ?_⟩⟩
  · have reads := values.parser.reads_recognise raw
    exact ((reads.isConsistent _).year year found).2.1
  · have nonneg : 0 ≤ values.years.first := Int.le_trans (by decide) years.1
    obtain ⟨year, month, day, contained, isDay, writes⟩ :=
      values.parser.exists_writesDay nonneg years.2.2 found
    refine ⟨writes.length, writes.toNat_lt, year, month, day, contained, isDay, writes, ?_⟩
    intro date' year' month' day' writes'
    exact writes.lt_iff writes'

/-- The first year is a variable with needless characters, and the last one is given directly.
The day is written with digits of another script. -/
theorem years_of_lax_texts :
    let environment := [("Reelmatch_Min_Year".toList, " 01_990.0 ".toList)]
    let direct := [("MAX_YEAR".toList, Json.string "2_049".toList)]
    let raw := "Studio ٢١.٠١.٠٨ Quinn".toList
    ∃ values, build environment none direct = .ok values ∧ values.years = ⟨1990, 2049⟩ ∧
      1000 ≤ values.years.first ∧ values.years.last ≤ 9999 ∧
      (values.parser.parse .off raw).releaseDate = some "2021-01-08".toList ∧
      "2021-01-08".toList.length = 10 ∧
      ∃ year month day, values.years.Contains year ∧ IsDay year month day ∧
        WritesDay "2021-01-08".toList year month day := by
  intro environment direct raw
  have built : build environment none direct = .ok { years := ⟨1990, 2049⟩ } := by decide +kernel
  obtain ⟨bounds, reads⟩ := four_digit_years_of_build built
  refine ⟨_, built, rfl, bounds.1, bounds.2.2, ?_⟩
  have found : (({ years := ⟨1990, 2049⟩ } : Values).parser.parse .off raw).releaseDate =
      some "2021-01-08".toList := by decide +kernel
  obtain ⟨length, -, year, month, day, contained, isDay, writes, -⟩ := (reads .off raw).2 _ found
  exact ⟨found, length, year, month, day, contained, isDay, writes⟩

end Settings

end ReleaseCatalog
