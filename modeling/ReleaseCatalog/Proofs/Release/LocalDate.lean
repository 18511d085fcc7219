import ReleaseCatalog.Proofs.Release.SoleDate

/-!
# A recognised date by itself

A search over a list of styles reports the day of the first style that recognises one
(`firstDate_eq_some_iff`), so styles behind that one do not matter.

The fragment of a recognised day can be cut out of its text.  By itself it has only its own
shape, and there a style of that shape reads the numbers that it reads in the text
(`DateStyle.recognises_fragment_iff`).  A style that is tried earlier and would recognise
the fragment would therefore have recognised it in the text.  So the same search finds the
same day in the fragment alone (`firstDate_isLocal`).
-/

namespace ReleaseCatalog.Release

open Calendar (YearRange)
open Unicode (isDecimal)

variable {styles : List DateStyle} {range : YearRange} {t : Text}

/-! ## The style that recognises a date -/

/-- A search for the style finds a day. -/
def DateStyle.Recognises (style : DateStyle) (range : YearRange) (t : Text) : Prop :=
  ∃ m, style.find range t = some m ∧ m.isDay = true

theorem DateStyle.recognises_iff_any {style : DateStyle} :
    style.Recognises range t ↔ (style.find range t).any FoundDate.isDay = true := by
  unfold Recognises
  cases style.find range t with
  | none => simp
  | some m => simp

/-- A day is found exactly by the first style that recognises one. -/
theorem firstDate_eq_some_iff {m : FoundDate} (day : m.isDay = true) :
    firstDate styles range t = some m ↔
      ∃ earlier style later, styles = earlier ++ style :: later ∧ style.find range t = some m ∧
        ∀ style' ∈ earlier, ¬ style'.Recognises range t := by
  unfold firstDate
  rw [find_or_head_eq_some_iff day, List.find?_filterMap, Option.bind_eq_some_iff]
  constructor
  · rintro ⟨style, first, found⟩
    obtain ⟨-, earlier, later, split, none_before⟩ := List.find?_eq_some_iff_append.mp first
    refine ⟨earlier, style, later, split, found, fun style' member => ?_⟩
    rw [DateStyle.recognises_iff_any]
    simpa using none_before style' member
  · rintro ⟨earlier, style, later, rfl, found, none_before⟩
    refine ⟨style, List.find?_eq_some_iff_append.mpr ⟨?_, earlier, later, rfl, ?_⟩, found⟩
    · rw [found]
      exact day
    · intro style' member
      have unrecognised := none_before style' member
      rw [DateStyle.recognises_iff_any] at unrecognised
      simpa using unrecognised

/-! ## The fragment by itself -/

variable {shape : DateShape} {fragment : Text} {fields : DateFields}

theorem DateShape.width_eq_or (shape : DateShape) : shape.width = 8 ∨ shape.width = 10 := by
  cases shape with
  | iso => exact .inr rfl
  | dayFirst => exact .inr rfl
  | compact => exact .inl rfl
  | short => exact .inl rfl

/-- In a fragment alone a style recognises a day exactly if it has the shape of the fragment and
the numbers of the fragment name a day. -/
theorem DateStyle.recognises_fragment_iff {style : DateStyle}
    (spells : shape.Spells fragment fields) :
    style.Recognises range fragment ↔
      style.shape = shape ∧ (style.dayOf range fields).isSome = true := by
  have whole : [] ++ fragment ++ [] = fragment := by simp
  have quiet : HasNoDigit [] := by simp [HasNoDigit]
  constructor
  · rintro ⟨m, found, day⟩
    have member : m ∈ style.fragments range ([] ++ fragment ++ []) := by
      rw [whole]
      exact mem_of_find_or_head found
    obtain ⟨same, rfl⟩ := (mem_fragments_of_sole spells quiet quiet range).mp member
    exact ⟨same, day⟩
  · rintro ⟨rfl, day⟩
    exact ⟨_, find_fragment spells range, day⟩

/-- What a style recognises in a fragment that a scan comes to, it recognises in the text. -/
theorem DateStyle.recognises_of_fragment {o : Occurrence DateFields}
    (member : o ∈ shape.finder.occurrences t) {style : DateStyle}
    (alone : style.Recognises range o.fragment) : style.Recognises range t := by
  obtain ⟨rfl, day⟩ :=
    (recognises_fragment_iff (DateShape.stands_of_mem_occurrences member).spells).mp alone
  exact find_isDay_iff.mpr ⟨o.before.length, o.value, ⟨o, member, rfl, rfl⟩, day⟩

/-- A day that is found has a fragment of eight or ten characters in the text, with no digit on
either side.  The same search finds the same day in the fragment alone.  The day is what the first
style that recognises any date finds, and further styles behind the others change nothing. -/
theorem firstDate_isLocal {start stop : Nat} {day : Text}
    (found : firstDate styles range t = some ⟨start, stop, some day⟩) :
    start < stop ∧ stop ≤ t.length ∧
      ((t.extract start stop).length = 8 ∨ (t.extract start stop).length = 10) ∧
      (t.take start).getLast?.any isDecimal = false ∧ (t.drop stop).head?.any isDecimal = false ∧
      firstDate styles range (t.extract start stop) = some ⟨0, stop - start, some day⟩ ∧
      (∃ earlier style later, styles = earlier ++ style :: later ∧
        style.find range t = some ⟨start, stop, some day⟩ ∧
        ∀ style' ∈ earlier, ¬ style'.Recognises range t) ∧
      ∀ more, firstDate (styles ++ more) range t = some ⟨start, stop, some day⟩ := by
  have isDay : ∀ start stop, FoundDate.isDay ⟨start, stop, some day⟩ = true := fun _ _ => rfl
  obtain ⟨earlier, style, later, rfl, here, unrecognised⟩ :=
    (firstDate_eq_some_iff (isDay start stop)).mp found
  obtain ⟨o, member, place⟩ := List.mem_map.mp (mem_of_find_or_head here)
  obtain ⟨rfl, rfl, named⟩ := FoundDate.mk.inj place
  have stands := DateShape.stands_of_mem_occurrences member
  have split := Finder.split_of_mem_occurrences member
  have cut : t.extract o.before.length (o.before.length + o.fragment.length) = o.fragment := by
    rw [← split]
    simp [List.extract]
  have width := stands.spells.length_eq ▸ style.shape.width_eq_or
  refine ⟨by omega, ?_, by rwa [cut], ?_, ?_, ?_, ⟨earlier, style, later, rfl, here, unrecognised⟩,
    fun more => ?_⟩
  · rw [← split]
    simp
  · rw [← split]
    simpa using stands.notBehindDigit
  · rw [← split]
    simpa using stands.notBeforeDigit
  · -- An earlier style that recognises the fragment would have recognised it in the text.
    rw [cut, Nat.add_sub_cancel_left, firstDate_eq_some_iff (isDay _ _)]
    refine ⟨earlier, style, later, rfl, ?_, fun style' tried alone => ?_⟩
    · rw [DateStyle.find_fragment stands.spells range, named]
    · exact unrecognised style' tried (DateStyle.recognises_of_fragment member alone)
  · rw [firstDate_eq_some_iff (isDay _ _)]
    exact ⟨earlier, style, later ++ more, by simp, here, unrecognised⟩

/-- Of two styles of the short shape the one that is tried first gives the century. -/
theorem firstDate_isLocal_night :
    let styles : List DateStyle := [⟨.iso, 0⟩, ⟨.short, 1900⟩, ⟨.short, 2000⟩]
    let t := "Night 2021-02-30 99.12.31".toList
    let day := "1999-12-31".toList
    firstDate styles {} t = some ⟨17, 25, some day⟩ ∧ t.extract 17 25 = "99.12.31".toList ∧
      (t.take 17).getLast?.any isDecimal = false ∧ (t.drop 25).head?.any isDecimal = false ∧
      firstDate styles {} (t.extract 17 25) = some ⟨0, 8, some day⟩ ∧
      ∀ more, firstDate (styles ++ more) {} t = some ⟨17, 25, some day⟩ := by
  intro styles t day
  have found : firstDate styles {} t = some ⟨17, 25, some day⟩ := by decide +kernel
  obtain ⟨-, -, -, behind, ahead, alone, -, further⟩ := firstDate_isLocal found
  exact ⟨found, by decide, behind, ahead, alone, further⟩

end ReleaseCatalog.Release
