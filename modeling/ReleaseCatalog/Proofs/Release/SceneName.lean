import ReleaseCatalog.Proofs.Release.PlainWords
import ReleaseCatalog.Proofs.Release.Preparing
import ReleaseCatalog.Proofs.Release.SoleDate

/-!
# Names that write a scene

A `SceneName` writes a scene: the words of a studio, a date in one of the four
shapes and the words of a title, with any runs of separators between them.
Reading such a name, with or without the extension of a video file, gives back
the studio, the day and the title (`SceneName.parse_roundtrip`).

The steps of the reading do not disturb one another.  The name ends in a letter,
so no counter is dropped.  It has no brackets.  Its only digits are those of the
date, so the date is the only fragment a search can find, and it cuts the name
into the studio and the title, which are cleaned apart.
-/

namespace ReleaseCatalog.Release

open Calendar (YearRange IsDay normalizeDay)
open Text (EndsWithout IsRun JoinedBy unwords)
open Unicode (isBlank isDecimal)

/-! ## Reading around a date -/

namespace Parser

/-- The parser tries the four styles and knows the extensions of video files, in any order. -/
structure IsStandard (parser : Parser) : Prop where
  styles : parser.styles = defaultStyles
  extensions : parser.extensions.Perm videoFileExtensions

variable {parser : Parser} {raw before date after day : Text} {shape : DateShape}
  {fields : DateFields}

/-- If the only digits of a prepared name are a date, the name is a scene of that day. -/
theorem recognise_eq_sceneAt (standard : parser.IsStandard) {studio : Option Text}
    (prepared : parser.prepare raw = ⟨studio, before ++ date ++ after⟩)
    (spells : shape.Spells date fields) (quiet : HasNoDigit before) (quiet' : HasNoDigit after)
    (named : normalizeDay parser.years (fields.year + shape.style.century) fields.month
      fields.day = some day) :
    parser.recognise raw =
      match studio with
      | some studio => .scene (some studio) day (titleText (before ++ [' '] ++ after))
      | none => .scene (if studioText before = [] then none else some (studioText before)) day
          (titleText after) := by
  have found : parser.dateIn (before ++ date ++ after) =
      some ⟨before.length, before.length + date.length, some day⟩ := by
    unfold dateIn
    rw [standard.styles, firstDate_eq_of_sole spells quiet quiet' parser.years, DateStyle.dayOf,
      named]
  have cut : (before ++ date ++ after).take before.length = before := by
    rw [List.append_assoc, List.take_left]
  have cut' : (before ++ date ++ after).drop (before.length + date.length) = after := by
    rw [← List.length_append, List.drop_left]
  simp only [recognise, prepared, found, sceneAt, cut, cut']
  cases studio with
  | none => rfl
  | some studio => rfl

/-- Without a leading studio, the studio of a scene stands before the date and its title behind
it. -/
theorem recognise_eq_scene (standard : parser.IsStandard)
    (prepared : parser.prepare raw = ⟨none, before ++ date ++ after⟩)
    (spells : shape.Spells date fields) (quiet : HasNoDigit before) (quiet' : HasNoDigit after)
    (named : normalizeDay parser.years (fields.year + shape.style.century) fields.month
      fields.day = some day) (studio : studioText before ≠ []) :
    parser.recognise raw = .scene (some (studioText before)) day (titleText after) := by
  rw [recognise_eq_sceneAt standard prepared spells quiet quiet' named]
  simp only [if_neg studio]

end Parser

/-! ## What is no bracket -/

theorem IsPlain.no_bracket {t : Text} (h : IsPlain t) : ∀ c ∈ t, c ∉ openingBrackets := by
  have gap : ∀ c ∈ nameGaps, c ∉ openingBrackets := by decide
  have bracket : ∀ c ∈ openingBrackets, c.isAlpha = false := by decide
  intro c hc opening
  cases h c hc with
  | inl letter => rw [bracket c opening] at letter; cases letter
  | inr mem => exact gap c mem opening

theorem DateShape.Spells.no_bracket {shape : DateShape} {date : Text} {fields : DateFields}
    (h : shape.Spells date fields) : ∀ c ∈ date, c ∉ openingBrackets := by
  have gap : ∀ c ∈ DateShape.dateGaps, c ∉ openingBrackets := by decide
  have bracket : ∀ c ∈ openingBrackets, isDecimal c = false := by decide
  intro c hc opening
  cases h.isDecimal_or_mem_dateGaps c hc with
  | inl digit => rw [bracket c opening] at digit; cases digit
  | inr mem => exact gap c mem opening

/-! ## Scenes as names write them -/

/-- A scene as a name writes it: the words of the studio, the date in a shape and the words of the
title, joined by separators in any way. -/
structure SceneName where
  studioWords : List Text
  titleWords : List Text
  /-- The shape of the date. -/
  shape : DateShape
  /-- The numbers of the date as they are written. -/
  fields : DateFields
  /-- The studio as it is written. -/
  studio : Text
  /-- What separates the studio from the date. -/
  gap : Text
  /-- The date as it is written. -/
  date : Text
  /-- What separates the date from the title. -/
  gap' : Text
  /-- The title as it is written. -/
  title : Text
  studio_letters : ∀ w ∈ studioWords, IsLetterWord w
  title_letters : ∀ w ∈ titleWords, IsLetterWord w
  studio_joined : JoinedBy nameGaps studioWords studio
  title_joined : JoinedBy nameGaps titleWords title
  gap_isRun : IsRun nameGaps gap
  gap'_isRun : IsRun nameGaps gap'
  spells : shape.Spells date fields
  isDay : IsDay (fields.year + shape.style.century) fields.month fields.day

namespace SceneName

/-- The name. -/
def text (s : SceneName) : Text := s.studio ++ s.gap ++ s.date ++ (s.gap' ++ s.title)

/-- The year of the date. -/
def year (s : SceneName) : Int := s.fields.year + s.shape.style.century

variable (s : SceneName)

theorem isPlain_before : IsPlain (s.studio ++ s.gap) :=
  (isPlain_of_joinedBy s.studio_joined s.studio_letters).append (isPlain_of_isRun s.gap_isRun)

theorem isPlain_after : IsPlain (s.gap' ++ s.title) :=
  (isPlain_of_isRun s.gap'_isRun).append (isPlain_of_joinedBy s.title_joined s.title_letters)

theorem endsWithout_isBlank : EndsWithout isBlank s.text := by
  have split : s.text = s.studio ++ (s.gap ++ s.date ++ s.gap') ++ s.title := by simp [text]
  rw [split]
  exact Text.endsWithout_append (Release.endsWithout_isBlank s.studio_joined s.studio_letters)
    (Release.endsWithout_isBlank s.title_joined s.title_letters)
    (joined_ne_nil s.studio_joined s.studio_letters)
    (joined_ne_nil s.title_joined s.title_letters)

/-- A scene name ends in a letter, so it has no counter. -/
theorem dropCounter_eq : dropCounter s.text = s.text := by
  obtain ⟨w, hw, suffix⟩ := s.title_joined.exists_isSuffix
  obtain ⟨nonempty, letter⟩ := s.title_letters w hw
  obtain ⟨front, split⟩ : w <:+ s.text := by
    refine suffix.trans ?_
    rw [text, ← List.append_assoc]
    exact List.suffix_append _ _
  obtain ⟨c, last⟩ : ∃ c, w.getLast? = some c := ⟨_, List.getLast?_eq_some_getLast nonempty⟩
  have alpha := letter c (List.mem_of_getLast? last)
  refine dropCounter_eq_self (c := c) ?_ (Unicode.isDecimal_eq_false_of_isAlpha alpha) ?_
  · rw [← split, List.getLast?_append_of_ne_nil _ nonempty, last]
  · rintro rfl
    cases alpha

theorem no_bracket : ∀ c ∈ s.text, c ∉ openingBrackets := by
  intro c hc
  rcases List.mem_append.mp hc with hc | hc
  · rcases List.mem_append.mp hc with hc | hc
    · exact s.isPlain_before.no_bracket c hc
    · exact s.spells.no_bracket c hc
  · exact s.isPlain_after.no_bracket c hc

/-- The file name of a scene is prepared to the name of the scene. -/
theorem prepare_eq {parser : Parser} (standard : parser.IsStandard) {raw : Text}
    (file : FileOf s.text raw) : parser.prepare raw = ⟨none, s.text⟩ := by
  have nonempty : s.text ≠ [] := by
    refine List.append_ne_nil_of_left_ne_nil (List.append_ne_nil_of_left_ne_nil ?_ _) _
    exact List.append_ne_nil_of_left_ne_nil (joined_ne_nil s.studio_joined s.studio_letters) _
  have prepared := Parser.prepare_eq standard.extensions nonempty s.endsWithout_isBlank file
    (by rw [s.dropCounter_eq]; exact s.no_bracket)
  rwa [s.dropCounter_eq] at prepared

/-- A name that writes a scene is read as that scene, if its year is accepted
and no word of its title is a technical tag. -/
theorem parse_roundtrip {parser : Parser} (standard : parser.IsStandard) (detection : Detection)
    {raw : Text} (accepted : parser.years.Contains s.year)
    (untagged : (boundedTag technicalTag).occurrences s.title = [])
    (file : FileOf s.text raw) :
    (parser.parse detection raw).isScene = true ∧
      (parser.parse detection raw).releaseDate =
        normalizeDay parser.years s.year s.fields.month s.fields.day ∧
      (parser.parse detection raw).studioTitle = some (unwords s.studioWords) ∧
      (parser.parse detection raw).title = unwords s.titleWords ∧
      (parser.parse detection raw).year = none := by
  have named : normalizeDay parser.years s.year s.fields.month s.fields.day =
      some (Calendar.writeDay s.year s.fields.month s.fields.day) :=
    if_pos ⟨accepted, s.isDay⟩
  have studio := studioText_append_run s.gap_isRun s.studio_joined s.studio_letters
  have title := titleText_run_append s.gap'_isRun s.title_joined s.title_letters untagged
  have nonempty : unwords s.studioWords ≠ [] :=
    joined_ne_nil (Text.joinedBy_unwords (joinedBy_ne_nil s.studio_joined)) s.studio_letters
  have digitless : ∀ {t : Text}, IsPlain t → HasNoDigit t := fun plain =>
    plain.forall_eq_false Unicode.isDecimal_eq_false_of_isAlpha (by decide)
  have recognised := Parser.recognise_eq_scene standard (s.prepare_eq standard file) s.spells
    (digitless s.isPlain_before) (digitless s.isPlain_after) named (by rw [studio]; exact nonempty)
  unfold Parser.parse
  rw [recognised, studio, title, named]
  exact ⟨rfl, rfl, rfl, rfl, rfl⟩

/-- The name `Some-Studio_.21.01.08..The_Night`. -/
def someStudio : SceneName where
  studioWords := ["Some".toList, "Studio".toList]
  titleWords := ["The".toList, "Night".toList]
  shape := .short
  fields := ⟨21, 1, 8⟩
  studio := "Some".toList ++ ['-'] ++ "Studio".toList
  gap := ['_', '.']
  date := "21.01.08".toList
  gap' := ['.', '.']
  title := "The".toList ++ ['_'] ++ "Night".toList
  studio_letters := by unfold IsLetterWord; decide
  title_letters := by unfold IsLetterWord; decide
  studio_joined := .more _ ⟨by decide, by decide⟩ (.one _)
  title_joined := .more _ ⟨by decide, by decide⟩ (.one _)
  gap_isRun := ⟨by decide, by decide⟩
  gap'_isRun := ⟨by decide, by decide⟩
  spells := .short (s := '.') (y := ['2', '1']) (m := ['0', '1']) (d := ['0', '8']) (by decide)
    ⟨rfl, by decide⟩ ⟨rfl, by decide⟩ ⟨rfl, by decide⟩
  isDay := by decide

theorem parse_some_studio :
    let reading := ({} : Parser).parse .off "Some-Studio_.21.01.08..The_Night.mKV".toList
    reading.isScene = true ∧ reading.releaseDate = some "2021-01-08".toList ∧
      reading.studioTitle = some "Some Studio".toList ∧ reading.title = "The Night".toList ∧
      reading.year = none := by
  have file : FileOf someStudio.text "Some-Studio_.21.01.08..The_Night.mKV".toList := by
    have raw : someStudio.text ++ ".mKV".toList = "Some-Studio_.21.01.08..The_Night.mKV".toList := by
      decide
    rw [← raw]
    exact .extended (by decide)
  exact parse_roundtrip someStudio ⟨rfl, .refl _⟩ .off (by decide) (by decide +kernel) file

end SceneName

end ReleaseCatalog.Release
