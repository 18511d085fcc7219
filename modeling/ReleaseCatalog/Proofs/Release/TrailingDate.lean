import ReleaseCatalog.Proofs.Release.SceneName

/-!
# A date at the end of a name

A `DatedStudio` writes the words of a studio and then a date, year first, with
one separator throughout and nothing behind the date but perhaps an extension.
Three of the four separators are read as they should be.  With the low line the
day of the month is taken for the counter of copies and dropped, since it is
digits behind a low line behind a digit.  What is left has no date, and the name
is no scene.  `DatedStudio.parse_trailing_date` says both.
-/

namespace ReleaseCatalog.Release

open Calendar (IsDay normalizeDay)
open Text (EndsWithout JoinedBy unwords)
open Unicode (isBlank isDecimal numeral)

/-! ## Names that are no scene -/

/-- A name is read as a scene if and only if its prepared form has a day. -/
theorem Parser.parse_isScene_iff {parser : Parser} {detection : Detection} {raw : Text} :
    (parser.parse detection raw).isScene = true ↔
      ∃ m, parser.dateIn (parser.prepare raw).body = some m ∧ m.isDay = true := by
  unfold parse
  constructor
  · intro scene
    cases found : parser.dateIn (parser.prepare raw).body with
    | none =>
        simp only [recognise, found] at scene
        split at scene
        · cases scene
        · cases scene
    | some m =>
        obtain ⟨start, stop, day⟩ := m
        cases day with
        | none =>
            simp only [recognise, found] at scene
            cases scene
        | some day => exact ⟨_, rfl, rfl⟩
  · rintro ⟨⟨start, stop, day⟩, found, isDay⟩
    cases day with
    | none => cases isDay
    | some day =>
        simp only [recognise, found, sceneAt]
        split
        · rfl
        · rfl

/-! ## Studios and dates with one separator -/

/-- The words of a studio and a date behind them, with one separator throughout. -/
structure DatedStudio where
  words : List Text
  separator : Char
  year : Text
  month : Text
  day : Text
  words_ne_nil : words ≠ []
  letters : ∀ w ∈ words, IsLetterWord w
  separator_mem : separator ∈ nameGaps
  year_isNumber : IsNumber 4 year
  month_isNumber : IsNumber 2 month
  day_isNumber : IsNumber 2 day
  isDay : IsDay (numeral year) (numeral month) (numeral day)

namespace DatedStudio

variable (s : DatedStudio)

/-- The studio as it is written. -/
def studio : Text := Text.join [s.separator] s.words

/-- The year and the month as they are written. -/
def yearMonth : Text := s.year ++ s.separator :: s.month

/-- What stands before the date. -/
def front : Text := s.studio ++ [s.separator]

/-- The name. -/
def text : Text := s.front ++ s.yearMonth ++ s.separator :: s.day

theorem joined : JoinedBy nameGaps s.words s.studio := by
  refine (Text.joinedBy_join s.separator s.words_ne_nil).mono fun c hc => ?_
  rw [List.mem_singleton.mp hc]
  exact s.separator_mem

theorem separator_isRun : Text.IsRun nameGaps [s.separator] := by
  refine ⟨List.cons_ne_nil _ _, fun c hc => ?_⟩
  rw [List.mem_singleton.mp hc]
  exact s.separator_mem

theorem front_isPlain : IsPlain s.front :=
  (isPlain_of_joinedBy s.joined s.letters).append (isPlain_of_isRun s.separator_isRun)

theorem front_hasNoDigit : HasNoDigit s.front :=
  s.front_isPlain.forall_eq_false Unicode.isDecimal_eq_false_of_isAlpha (by decide)

theorem separator_not_digit : isDecimal s.separator = false := by
  have gaps : ∀ c ∈ nameGaps, isDecimal c = false := by decide
  exact gaps _ s.separator_mem

theorem spells : DateShape.iso.Spells (s.yearMonth ++ s.separator :: s.day)
    ⟨numeral s.year, numeral s.month, numeral s.day⟩ := by
  have gaps : ∀ c ∈ nameGaps, c ∈ ['-', '.', '_', ' '] := by decide
  have date : s.yearMonth ++ s.separator :: s.day =
      s.year ++ s.separator :: (s.month ++ s.separator :: s.day) := by simp [yearMonth]
  rw [date]
  exact .iso (gaps _ s.separator_mem) s.year_isNumber s.month_isNumber s.day_isNumber

theorem text_eq : s.text = s.front ++ (s.yearMonth ++ s.separator :: s.day) :=
  List.append_assoc ..

/-! ## What is dropped from the end -/

theorem no_extension : ∀ e ∈ videoFileExtensions, ¬ e <:+ s.text.map smallLetter := by
  have ends := @no_extension_of_digits (s.front ++ s.yearMonth ++ [s.separator]) s.day
    (by rw [s.day_isNumber.1]) s.day_isNumber.2
  rwa [← List.append_cons, ← text] at ends

/-- Nothing or an extension behind the name makes it the name of a file. -/
theorem fileOf {ending : Text} (h : ending = [] ∨ ending.map smallLetter ∈ videoFileExtensions) :
    FileOf s.text (s.text ++ ending) := by
  cases h with
  | inl empty =>
      rw [empty, List.append_nil]
      exact .bare s.no_extension
  | inr listed => exact .extended listed

theorem month_digit_before : (s.front ++ s.yearMonth).getLast?.any isDecimal = true := by
  have nonempty : s.month ≠ [] := s.month_isNumber.ne_nil
  have last : (s.front ++ s.yearMonth).getLast? = s.month.getLast? := by
    unfold yearMonth
    rw [List.append_cons, ← List.append_assoc, List.getLast?_append_of_ne_nil _ nonempty]
  rw [last, List.getLast?_eq_some_getLast nonempty]
  exact s.month_isNumber.2 _ (List.getLast_mem nonempty)

/-- The day of the month is dropped as a counter exactly behind a low line. -/
theorem dropCounter_eq : dropCounter s.text =
    if s.separator = '_' then s.front ++ s.yearMonth else s.text := by
  unfold text
  rw [dropCounter_append_digits s.day_isNumber.ne_nil s.day_isNumber.2 s.separator_not_digit]
  simp only [s.month_digit_before, and_true]

theorem no_bracket : ∀ c ∈ s.text, c ∉ openingBrackets := by
  intro c hc
  rw [text_eq] at hc
  cases List.mem_append.mp hc with
  | inl front => exact s.front_isPlain.no_bracket c front
  | inr date => exact s.spells.no_bracket c date

theorem endsWithout_isBlank : EndsWithout isBlank s.text := by
  have day_ends : EndsWithout isBlank s.day := by
    have digit : ∀ c ∈ s.day, isBlank c = false := fun c hc =>
      Unicode.isBlank_eq_false_of_isDecimal (s.day_isNumber.2 c hc)
    exact ⟨fun c hc => digit c (List.mem_of_head? hc), fun c hc => digit c (List.mem_of_getLast? hc)⟩
  have split : s.text =
      s.studio ++ ([s.separator] ++ s.yearMonth ++ [s.separator]) ++ s.day := by
    simp [text, front]
  rw [split]
  exact Text.endsWithout_append (Release.endsWithout_isBlank s.joined s.letters) day_ends
    (joined_ne_nil s.joined s.letters) s.day_isNumber.ne_nil

theorem prepare_eq {parser : Parser} (standard : parser.IsStandard) {raw : Text}
    (file : FileOf s.text raw) : parser.prepare raw =
      ⟨none, if s.separator = '_' then s.front ++ s.yearMonth else s.text⟩ := by
  have nonempty : s.text ≠ [] := by
    rw [text]
    exact List.append_ne_nil_of_right_ne_nil _ (List.cons_ne_nil _ _)
  have brackets : ∀ c ∈ dropCounter s.text, c ∉ openingBrackets := by
    intro c hc
    rw [dropCounter_eq] at hc
    split at hc
    · exact s.no_bracket c (List.mem_append_left _ hc)
    · exact s.no_bracket c hc
  rw [Parser.prepare_eq standard.extensions nonempty s.endsWithout_isBlank file brackets,
    dropCounter_eq]

/-! ## How the name is read -/

/-- A year and a month alone are in the shape of no date. -/
theorem not_standsAt {shape : DateShape} {position : Nat} {fields : DateFields} :
    ¬ shape.StandsAt (s.front ++ s.yearMonth) position fields := by
  intro stands
  rw [← List.append_nil (s.front ++ s.yearMonth)] at stands
  obtain ⟨shift, inside, -, found⟩ :=
    stands.frame_isPrefix_within s.front_hasNoDigit fun c hc => absurd hc List.not_mem_nil
  have marks : s.yearMonth.map isDecimal = [true, true, true, true, false, true, true] := by
    unfold yearMonth
    rw [List.map_append, List.map_cons, DateShape.map_isDecimal_of_isNumber s.year_isNumber,
      DateShape.map_isDecimal_of_isNumber s.month_isNumber, s.separator_not_digit]
    rfl
  have length : s.yearMonth.length = 7 := by rw [← List.length_map, marks]; rfl
  rw [length] at inside
  rw [DateShape.marksWithin, marks] at found
  have none : ∀ shift < 7, ¬ shape.frame <+:
      (false :: ([true, true, true, true, false, true, true] ++
        List.replicate 12 false)).drop shift := by
    cases shape <;> decide
  exact none shift inside found

/-- Without the day of the month the name is no scene. -/
theorem isScene_eq_false {parser : Parser} (standard : parser.IsStandard) (detection : Detection)
    {raw : Text} (file : FileOf s.text raw) (low : s.separator = '_') :
    (parser.parse detection raw).isScene = false := by
  refine Bool.eq_false_iff.mpr fun scene => ?_
  have found := Parser.parse_isScene_iff.mp scene
  rw [s.prepare_eq standard file, if_pos low] at found
  unfold Parser.dateIn at found
  rw [standard.styles, firstDate_isDay_iff_exists_style] at found
  obtain ⟨style, -, date⟩ := found
  obtain ⟨position, fields, occurs, -⟩ := DateStyle.find_isDay_iff.mp date
  exact s.not_standsAt occurs.standsAt

/-- Behind any other separator the name is the scene that it writes. -/
theorem recognise_eq {parser : Parser} (standard : parser.IsStandard) {raw : Text}
    (file : FileOf s.text raw) (accepted : parser.years.Contains (numeral s.year))
    (other : s.separator ≠ '_') :
    parser.recognise raw =
      .scene (some (unwords s.words))
        (Calendar.writeDay (numeral s.year) (numeral s.month) (numeral s.day)) [] := by
  have prepared := s.prepare_eq standard file
  rw [if_neg other, text_eq, ← List.append_nil (s.front ++ _)] at prepared
  have named : normalizeDay parser.years ((numeral s.year : Int) + DateShape.iso.style.century)
      (numeral s.month) (numeral s.day) =
        some (Calendar.writeDay (numeral s.year) (numeral s.month) (numeral s.day)) := by
    show normalizeDay parser.years ((numeral s.year : Int) + 0) _ _ = _
    rw [Int.add_zero]
    exact if_pos ⟨accepted, s.isDay⟩
  have studio : studioText s.front = unwords s.words :=
    studioText_append_run s.separator_isRun s.joined s.letters
  have nonempty : unwords s.words ≠ [] :=
    joined_ne_nil (Text.joinedBy_unwords s.words_ne_nil) s.letters
  have title : titleText [] = [] := by decide
  rw [Parser.recognise_eq_scene standard prepared s.spells s.front_hasNoDigit
    (fun c hc => absurd hc List.not_mem_nil) named (by rw [studio]; exact nonempty), studio, title]

/-- A name of a studio and a date with one separator throughout is read as it
should be exactly if the separator is not the low line. -/
theorem parse_trailing_date {parser : Parser} (standard : parser.IsStandard) (detection : Detection)
    (accepted : parser.years.Contains (numeral s.year)) {ending : Text}
    (file : ending = [] ∨ ending.map smallLetter ∈ videoFileExtensions) :
    (s.separator ≠ '_' →
      (parser.parse detection (s.text ++ ending)).isScene = true ∧
        (parser.parse detection (s.text ++ ending)).releaseDate =
          normalizeDay parser.years (numeral s.year) (numeral s.month) (numeral s.day) ∧
        (parser.parse detection (s.text ++ ending)).studioTitle = some (unwords s.words) ∧
        (parser.parse detection (s.text ++ ending)).title = []) ∧
      (s.separator = '_' → (parser.parse detection (s.text ++ ending)).isScene = false) := by
  constructor
  · intro other
    have named : normalizeDay parser.years (numeral s.year) (numeral s.month) (numeral s.day) =
        some (Calendar.writeDay (numeral s.year) (numeral s.month) (numeral s.day)) :=
      if_pos ⟨accepted, s.isDay⟩
    unfold Parser.parse
    rw [s.recognise_eq standard (s.fileOf file) accepted other, named]
    exact ⟨rfl, rfl, rfl, rfl⟩
  · exact s.isScene_eq_false standard detection (s.fileOf file)

/-- The name `North.Studio.2021.01.08`. -/
def northStudio : DatedStudio where
  words := ["North".toList, "Studio".toList]
  separator := '.'
  year := "2021".toList
  month := "01".toList
  day := "08".toList
  words_ne_nil := List.cons_ne_nil _ _
  letters := by unfold IsLetterWord; decide
  separator_mem := by decide
  year_isNumber := ⟨rfl, by decide⟩
  month_isNumber := ⟨rfl, by decide⟩
  day_isNumber := ⟨rfl, by decide⟩
  isDay := by decide

theorem parse_dotted_studio :
    let reading := ({} : Parser).parse .off "North.Studio.2021.01.08.Mkv".toList
    reading.isScene = true ∧ reading.releaseDate = some "2021-01-08".toList ∧
      reading.studioTitle = some "North Studio".toList ∧ reading.title = [] := by
  have raw : northStudio.text ++ ".Mkv".toList = "North.Studio.2021.01.08.Mkv".toList := by decide
  rw [← raw]
  exact (parse_trailing_date northStudio ⟨rfl, .refl _⟩ .off (by decide) (.inr (by decide))).1 (by decide)

/-- With low lines the name of the same studio and day is read as a film of the year. -/
theorem low_line_day_dropped :
    let reading := ({} : Parser).parse .off "Studio_2021_01_08".toList
    reading.isScene = false ∧ reading.releaseDate = none ∧ reading.title = "Studio".toList ∧
      reading.year = some 2021 := by
  decide +kernel

end DatedStudio

end ReleaseCatalog.Release
