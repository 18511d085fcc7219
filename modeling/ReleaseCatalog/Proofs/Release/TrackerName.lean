import ReleaseCatalog.Proofs.Release.BracketGroups
import ReleaseCatalog.Proofs.Release.SceneName
import ReleaseCatalog.Proofs.Release.TagFragment

/-!
# Names as trackers write them

A tracker puts the studio of a scene in square brackets, the date behind a slash in
parentheses within the title, and technical notes in square brackets behind it all:
`[Studio] Quinn (Night / 08.01.2021) [1080p] [x264]`.  Such a name gives back its
studio, its day and its title, whatever the notes say
(`TrackerName.parse_tracker_roundtrip`).

The name ends in a bracket, so it has no extension and no counter of copies.  Each
note becomes two spaces before anything else is looked for, so that nothing in it can
be taken for a date, a tag or a bracket.  The parentheses hold a slash and are no
list of tags, so they stay, and the digits in them are the only ones of the name.
Where a bracket or a slash was, there are two separators then, and no tag reaches
over two (`HasTag.of_gap`): a tag of what is left would be a tag of the title.
-/

namespace ReleaseCatalog.Release

open Calendar (IsDay normalizeDay)
open Text (EndsWithout JoinedBy unwords)
open Unicode (isBlank isDecimal)

/-! ## What stands in no word and in no date -/

theorem IsPlain.not_mem {t : Text} (h : IsPlain t) {c : Char} (letter : c.isAlpha = false)
    (gap : c ∉ nameGaps) : c ∉ t := by
  intro member
  cases h c member with
  | inl alpha => rw [letter] at alpha; cases alpha
  | inr listed => exact gap listed

theorem DateShape.Spells.not_mem {shape : DateShape} {date : Text} {fields : DateFields}
    (h : shape.Spells date fields) {c : Char} (digit : isDecimal c = false) (gap : c ∉ dateGaps) :
    c ∉ date := by
  intro member
  cases h.isDecimal_or_mem_dateGaps c member with
  | inl decimal => rw [digit] at decimal; cases decimal
  | inr listed => exact gap listed

/-- Without digits a text is no year. -/
theorem isYearOnly_eq_false {t : Text} (quiet : HasNoDigit t) : isYearOnly t = false := by
  refine Bool.eq_false_iff.mpr fun year => ?_
  simp only [isYearOnly, Bool.and_eq_true, decide_eq_true_eq] at year
  obtain ⟨four, digits⟩ := year
  have trimmed : Text.trimBlank t ≠ [] := List.ne_nil_of_length_pos (by omega)
  obtain ⟨c, hc⟩ := List.exists_mem_of_ne_nil _ trimmed
  have digit := List.all_eq_true.mp digits c hc
  rw [quiet c ((Text.trim_isInfix _ t).subset hc)] at digit
  cases digit

/-- A text with the slash as a word of its own is no list of tags. -/
theorem isTagList_eq_false {t : Text} (slash : ['/'] ∈ Text.nameWords t) : isTagList t = false := by
  refine Bool.eq_false_iff.mpr fun tags => ?_
  simp only [isTagList, Bool.and_eq_true] at tags
  have tag := List.all_eq_true.mp tags.2 _ slash
  revert tag
  decide +kernel

theorem blankStray_append (t t' : Text) : blankStray (t ++ t') = blankStray t ++ blankStray t' :=
  List.map_append

/-! ## Notes -/

/-- A technical note behind a name. -/
def note (x : Text) : Text := ' ' :: '[' :: (x ++ [']'])

/-- A text that may stand in a note: one line without square brackets, and no year. -/
structure IsNote (x : Text) : Prop where
  no_opening : '[' ∉ x
  no_closing : ']' ∉ x
  one_line : '\n' ∉ x
  no_year : isYearOnly x = false

/-- The spaces that are left of notes. -/
def noteGaps (notes : List Text) : Text := notes.flatMap fun _ => [' ', ' ']

theorem eq_space_of_mem_noteGaps {notes : List Text} : ∀ c ∈ noteGaps notes, c = ' ' := by
  intro c hc
  obtain ⟨x, -, member⟩ := List.mem_flatMap.mp hc
  simpa using member

theorem one_line_of_notes {notes : List Text} (h : ∀ x ∈ notes, IsNote x) :
    '\n' ∉ notes.flatMap note := by
  intro member
  obtain ⟨x, hx, member⟩ := List.mem_flatMap.mp member
  have line := (h x hx).one_line
  simp [note, line] at member

/-- Behind a text without square brackets each note becomes two spaces. -/
theorem dropGroups_notes {t : Text} {notes : List Text} (h : ∀ x ∈ notes, IsNote x)
    (square : '[' ∉ t) (curly : '\x7b' ∉ t) :
    dropGroups (t ++ notes.flatMap note) =
      (groupFinder '(' ')').replaceAll
        (fun group content => if isTagList content then [' '] else group) (t ++ noteGaps notes) := by
  have blanked : ∀ notes : List Text, (∀ x ∈ notes, IsNote x) →
      (groupFinder '[' ']').replaceAll
        (fun group content => if isYearOnly content then group else [' ']) (notes.flatMap note) =
      noteGaps notes := by
    intro notes h
    induction notes with
    | nil => rfl
    | cons x notes ih =>
        have hx := h x List.mem_cons_self
        have split : (x :: notes).flatMap note =
            [' '] ++ '[' :: (x ++ ']' :: notes.flatMap note) := by
          simp [note]
        rw [split, replaceAll_append (by decide), replaceAll_group hx.no_opening hx.no_closing,
          ih fun y hy => h y (List.mem_cons_of_mem _ hy), if_neg (by simp [hx.no_year])]
        rfl
  have open_curly : '\x7b' ∉ t ++ noteGaps notes := by
    intro member
    cases List.mem_append.mp member with
    | inl before => exact curly before
    | inr gap => exact absurd (eq_space_of_mem_noteGaps _ gap) (by decide)
  simp only [dropGroups]
  rw [replaceAll_append square, blanked notes h, Finder.replaceAll_eq_self (groups_eq_nil open_curly)]

/-! ## Scenes as trackers write them -/

/-- A scene as a tracker writes it. -/
structure TrackerName where
  studioWords : List Text
  /-- The words of the title before the parentheses. -/
  titleWords : List Text
  /-- The words of the title in the parentheses. -/
  innerWords : List Text
  /-- The date as it is written, day first. -/
  date : Text
  fields : DateFields
  notes : List Text
  studio_ne_nil : studioWords ≠ []
  title_ne_nil : titleWords ≠ []
  inner_ne_nil : innerWords ≠ []
  studio_letters : ∀ w ∈ studioWords, IsLetterWord w
  title_letters : ∀ w ∈ titleWords, IsLetterWord w
  inner_letters : ∀ w ∈ innerWords, IsLetterWord w
  spells : DateShape.dayFirst.Spells date fields
  isDay : IsDay fields.year fields.month fields.day
  isNote : ∀ x ∈ notes, IsNote x

namespace TrackerName

variable (s : TrackerName)

/-- The studio as it is written. -/
def studio : Text := unwords s.studioWords

/-- What stands in the parentheses. -/
def inner : Text := unwords s.innerWords ++ [' '] ++ ('/' :: ' ' :: s.date)

/-- The name behind the studio and before the notes. -/
def body : Text := unwords s.titleWords ++ [' '] ++ '(' :: (s.inner ++ [')'])

/-- The name. -/
def text : Text := '[' :: (s.studio ++ ']' :: ([' '] ++ (s.body ++ s.notes.flatMap note)))

theorem plain {ws : List Text} (nonempty : ws ≠ []) (letters : ∀ w ∈ ws, IsLetterWord w) :
    IsPlain (unwords ws) :=
  isPlain_of_joinedBy ((Text.joinedBy_unwords nonempty).mono (by decide)) letters

/-- A character that is in no word, no gap and no date, and is none of a few others, is not in the
body. -/
theorem not_mem_body {c : Char} (letter : c.isAlpha = false) (digit : isDecimal c = false)
    (gap : c ∉ nameGaps) (gap' : c ∉ DateShape.dateGaps) (other : c ∉ ['(', ')', '/', ' ']) :
    c ∉ s.body := by
  have title := (plain s.title_ne_nil s.title_letters).not_mem letter gap
  have words := (plain s.inner_ne_nil s.inner_letters).not_mem letter gap
  have date := s.spells.not_mem digit gap'
  simp only [List.mem_cons, List.not_mem_nil, or_false, not_or] at other
  simp [body, inner, title, words, date, other]

theorem not_mem_inner {c : Char} (letter : c.isAlpha = false) (digit : isDecimal c = false)
    (gap : c ∉ nameGaps) (gap' : c ∉ DateShape.dateGaps) : c ∉ s.inner := by
  have words := (plain s.inner_ne_nil s.inner_letters).not_mem letter gap
  have date := s.spells.not_mem digit gap'
  have slash : c ≠ '/' := fun h => gap' (h ▸ by decide)
  have space : c ≠ ' ' := fun h => gap (h ▸ by decide)
  simp [inner, words, date, slash, space]

/-- A tracker's name ends in a bracket. -/
theorem exists_last : ∃ c ∈ [')', ']'], s.text.getLast? = some c := by
  cases h : s.notes using List.reverseRecOn with
  | nil =>
      refine ⟨')', by decide, ?_⟩
      have split : s.text = '[' :: (s.studio ++ ']' :: ' ' :: (unwords s.titleWords ++ [' '] ++
          '(' :: s.inner)) ++ [')'] := by simp [text, body, h]
      rw [split, List.getLast?_concat]
  | append_singleton notes x =>
      refine ⟨']', by decide, ?_⟩
      have split : s.text = '[' :: (s.studio ++ ']' :: ' ' :: (s.body ++ notes.flatMap note ++
          ' ' :: '[' :: x)) ++ [']'] := by simp [text, note, h]
      rw [split, List.getLast?_concat]

/-! ## How the name is prepared -/

theorem text_endsWithout : EndsWithout isBlank s.text := by
  constructor
  · rintro c hc
    rw [← Option.some.inj hc]
    decide
  · intro c hc
    obtain ⟨d, listed, last⟩ := s.exists_last
    obtain rfl := Option.some.inj (last.symm.trans hc)
    revert listed
    simp only [List.mem_cons, List.not_mem_nil, or_false]
    rintro (rfl | rfl)
    all_goals decide

theorem file : FileOf s.text s.text := by
  obtain ⟨c, listed, last⟩ := s.exists_last
  have other : ∀ c ∈ [')', ']'], ∀ e ∈ videoFileExtensions,
      e ≠ [] ∧ e.getLast? ≠ some (smallLetter c) := by decide
  exact .bare (no_extension_of_last last (other c listed))

theorem dropCounter_eq : dropCounter s.text = s.text := by
  obtain ⟨c, listed, last⟩ := s.exists_last
  have other : ∀ c ∈ [')', ']'], isDecimal c = false ∧ c ≠ '\n' := by decide
  exact dropCounter_eq_self last (other c listed).1 (other c listed).2

theorem studioAndRest_eq (noTag : isTechnicalTag s.studio = false) :
    studioAndRest s.text = (some s.studio, s.body ++ s.notes.flatMap note) := by
  have letters := plain s.studio_ne_nil s.studio_letters
  have joined : JoinedBy nameGaps s.studioWords s.studio :=
    (Text.joinedBy_unwords s.studio_ne_nil).mono (by decide)
  have spaced : Text.spacedWords s.studio = s.studio :=
    congrArg unwords (nameWords_eq joined s.studio_letters)
  have title : EndsWithout isBlank (unwords s.titleWords) :=
    endsWithout_isBlank ((Text.joinedBy_unwords s.title_ne_nil).mono (by decide)) s.title_letters
  have title_ne_nil : unwords s.titleWords ≠ [] :=
    joined_ne_nil (Text.joinedBy_unwords s.title_ne_nil) s.title_letters
  have oneLine : '\n' ∉ s.body ++ s.notes.flatMap note := by
    rw [List.mem_append, not_or]
    exact ⟨s.not_mem_body (by decide) (by decide) (by decide) (by decide) (by decide),
      one_line_of_notes s.isNote⟩
  have front : ∀ c ∈ (s.body ++ s.notes.flatMap note).head?, isBlank c = false := by
    unfold body
    rw [List.append_assoc, List.append_assoc, List.head?_append_of_ne_nil _ title_ne_nil]
    exact title.1
  have noYear : isYearOnly s.studio = false := isYearOnly_eq_false
    (letters.forall_eq_false Unicode.isDecimal_eq_false_of_isAlpha (by decide))
  have space : ∀ c ∈ [' '], isBlank c = true := by decide
  have found := studioAndRest_group (letters.not_mem (by decide) (by decide))
    (letters.not_mem (by decide) (by decide)) space oneLine (by simp [body]) front
  rw [← studio, spaced] at found
  exact found (joined_ne_nil (Text.joinedBy_unwords s.studio_ne_nil) s.studio_letters) noTag noYear

/-- The parentheses stay, since the slash in them is no tag. -/
theorem dropGroups_eq :
    dropGroups (s.body ++ s.notes.flatMap note) = s.body ++ noteGaps s.notes := by
  have slash : ['/'] ∈ Text.nameWords s.inner := by
    have word : Text.IsWord isSeparator ['/'] := ⟨List.cons_ne_nil _ _, by decide⟩
    unfold Text.nameWords inner
    rw [Text.words_append_run_append (by decide) (by decide),
      ← List.singleton_append (x := '/'), Text.words_append_separator (by decide),
      Text.words_of_isWord word]
    simp
  have title : '(' ∉ unwords s.titleWords ++ [' '] := by
    have absent := (plain s.title_ne_nil s.title_letters).not_mem (c := '(') (by decide) (by decide)
    simp [absent]
  have gaps : '(' ∉ noteGaps s.notes := fun member =>
    absurd (eq_space_of_mem_noteGaps _ member) (by decide)
  have split : s.body ++ noteGaps s.notes =
      unwords s.titleWords ++ [' '] ++ '(' :: (s.inner ++ ')' :: noteGaps s.notes) := by
    simp [body]
  rw [dropGroups_notes s.isNote
    (s.not_mem_body (by decide) (by decide) (by decide) (by decide) (by decide))
    (s.not_mem_body (by decide) (by decide) (by decide) (by decide) (by decide)), split]
  exact roundGroup_stays title (s.not_mem_inner (by decide) (by decide) (by decide) (by decide))
    (s.not_mem_inner (by decide) (by decide) (by decide) (by decide)) gaps (isTagList_eq_false slash)

/-- A tracker's name is prepared to its studio and its body. -/
theorem prepare_eq {parser : Parser} (standard : parser.IsStandard)
    (noTag : isTechnicalTag s.studio = false) :
    parser.prepare s.text = ⟨some s.studio, s.body ++ noteGaps s.notes⟩ := by
  have nonempty : s.text ≠ [] := List.cons_ne_nil _ _
  unfold Parser.prepare Text.trimBlank
  rw [Text.trim_eq_self s.text_endsWithout,
    dropExtension_eq standard.extensions nonempty s.file, s.dropCounter_eq,
    s.studioAndRest_eq noTag]
  show PreparedName.mk (some s.studio) (dropGroups (s.body ++ s.notes.flatMap note)) = _
  rw [s.dropGroups_eq]

/-! ## How the name is read -/

/-- What stands before the date. -/
def front : Text := unwords s.titleWords ++ [' '] ++ '(' :: (unwords s.innerWords ++ [' ', '/', ' '])

/-- What stands behind the date when the notes are blanked. -/
def back : Text := ')' :: noteGaps s.notes

theorem body_eq : s.body ++ noteGaps s.notes = s.front ++ s.date ++ s.back := by
  simp [body, inner, front, back]

theorem front_hasNoDigit : HasNoDigit s.front := by
  have digitless : ∀ {t : Text}, IsPlain t → HasNoDigit t := fun plain =>
    plain.forall_eq_false Unicode.isDecimal_eq_false_of_isAlpha (by decide)
  have title := digitless (plain s.title_ne_nil s.title_letters)
  have words := digitless (plain s.inner_ne_nil s.inner_letters)
  have others : HasNoDigit [' ', '(', '/'] := by unfold HasNoDigit; decide
  intro c hc
  simp only [front, List.mem_append, List.mem_cons, List.not_mem_nil, or_false] at hc
  rcases hc with (hc | rfl) | rfl | hc | rfl | rfl | rfl
  · exact title c hc
  · exact others _ (by decide)
  · exact others _ (by decide)
  · exact words c hc
  · exact others _ (by decide)
  · exact others _ (by decide)
  · exact others _ (by decide)

theorem back_hasNoDigit : HasNoDigit s.back := by
  intro c hc
  cases List.mem_cons.mp hc with
  | inl closing => rw [closing]; decide
  | inr gap => rw [eq_space_of_mem_noteGaps c gap]; decide

/-- The blanks behind the inner words of the title. -/
def trail : Text := [' ', ' ', ' ', ' ', ' '] ++ noteGaps s.notes

theorem trail_separators : ∀ c ∈ s.trail, isSeparator c = true := by
  have spaces : ∀ c ∈ [' ', ' ', ' ', ' ', ' '], isSeparator c = true := by decide
  intro c hc
  cases List.mem_append.mp hc with
  | inl five => exact spaces c five
  | inr gap => rw [eq_space_of_mem_noteGaps c gap]; decide

/-- Without its brackets and slash the title is its words and spaces. -/
theorem blankStray_title : blankStray (s.front ++ [' '] ++ s.back) =
    unwords s.titleWords ++ ' ' :: ' ' :: (unwords s.innerWords ++ s.trail) := by
  have gaps : blankStray (noteGaps s.notes) = noteGaps s.notes :=
    blankStray_eq_self fun c hc => by rw [eq_space_of_mem_noteGaps c hc]; decide
  have words : ∀ {ws : List Text}, ws ≠ [] → (∀ w ∈ ws, IsLetterWord w) →
      blankStray (unwords ws) = unwords ws := fun nonempty letters =>
    blankStray_eq_self_of_isPlain (plain nonempty letters)
  have split : s.front ++ [' '] ++ s.back = unwords s.titleWords ++ ([' ', '('] ++
      (unwords s.innerWords ++ ([' ', '/', ' ', ' ', ')'] ++ noteGaps s.notes))) := by
    simp [front, back]
  rw [split, blankStray_append, blankStray_append, blankStray_append, blankStray_append, gaps,
    words s.title_ne_nil s.title_letters, words s.inner_ne_nil s.inner_letters]
  rfl

theorem titleText_eq
    (untagged : (boundedTag technicalTag).occurrences (unwords (s.titleWords ++ s.innerWords)) = []) :
    titleText (s.front ++ [' '] ++ s.back) = unwords (s.titleWords ++ s.innerWords) := by
  have nonempty : s.titleWords ++ s.innerWords ≠ [] :=
    List.append_ne_nil_of_left_ne_nil s.title_ne_nil _
  have letters : ∀ w ∈ s.titleWords ++ s.innerWords, IsLetterWord w := by
    intro w hw
    cases List.mem_append.mp hw with
    | inl title => exact s.title_letters w title
    | inr inner => exact s.inner_letters w inner
  have words : ∀ {ws : List Text}, ws ≠ [] → (∀ w ∈ ws, IsLetterWord w) →
      Text.words isSeparator (unwords ws) = ws := fun nonempty letters =>
    nameWords_eq ((Text.joinedBy_unwords nonempty).mono (by decide)) letters
  refine titleText_eq_unwords ?_ ?_ nonempty (fun w hw => (letters w hw).isTitleWord)
    (blankMarkers_unwords nonempty letters)
  · rw [technicalTags_eq_nil_iff, Text.unwords_append s.title_ne_nil s.inner_ne_nil] at untagged
    rw [technicalTags_eq_nil_iff, blankStray_title]
    intro tagged
    cases tagged.of_gap (by decide) (by decide) with
    | inl title => exact untagged (title.append_separator (by decide) _)
    | inr inner =>
        exact untagged ((inner.of_append_run s.trail_separators).separator_append (by decide) _)
  · rw [blankStray_title, ← List.singleton_append, ← List.singleton_append (l := unwords _ ++ _),
      ← List.append_assoc [' '], ← List.append_assoc,
      Text.words_append_run_append (by decide) (by decide),
      Text.words_append_run s.trail_separators, words s.title_ne_nil s.title_letters,
      words s.inner_ne_nil s.inner_letters]

/-- A tracker's name is read as the scene that it writes, whatever its notes say, if its year is
accepted and neither its studio nor a part of its title is a technical tag. -/
theorem parse_tracker_roundtrip {parser : Parser} (standard : parser.IsStandard)
    (detection : Detection) (accepted : parser.years.Contains s.fields.year)
    (noTag : isTechnicalTag s.studio = false)
    (untagged : (boundedTag technicalTag).occurrences (unwords (s.titleWords ++ s.innerWords)) = []) :
    (parser.parse detection s.text).isScene = true ∧
      (parser.parse detection s.text).studioTitle = some (unwords s.studioWords) ∧
      (parser.parse detection s.text).releaseDate =
        normalizeDay parser.years s.fields.year s.fields.month s.fields.day ∧
      (parser.parse detection s.text).title = unwords (s.titleWords ++ s.innerWords) := by
  have named : normalizeDay parser.years s.fields.year s.fields.month s.fields.day =
      some (Calendar.writeDay s.fields.year s.fields.month s.fields.day) :=
    if_pos ⟨accepted, s.isDay⟩
  have dated : normalizeDay parser.years (s.fields.year + DateShape.dayFirst.style.century)
      s.fields.month s.fields.day =
        some (Calendar.writeDay s.fields.year s.fields.month s.fields.day) := by
    show normalizeDay parser.years ((s.fields.year : Int) + 0) _ _ = _
    rw [Int.add_zero, named]
  have prepared := s.prepare_eq standard noTag
  rw [body_eq] at prepared
  have recognised := Parser.recognise_eq_sceneAt standard prepared s.spells s.front_hasNoDigit
    s.back_hasNoDigit dated
  unfold Parser.parse
  rw [recognised, named, s.titleText_eq untagged]
  exact ⟨rfl, rfl, rfl, rfl⟩

/-- The name `[Quiet Studio] Quinn (Last Night / 08/01/2021) [2019-12-24 {1080p}] [(x264)]`. -/
def quinnNight : TrackerName where
  studioWords := ["Quiet".toList, "Studio".toList]
  titleWords := ["Quinn".toList]
  innerWords := ["Last".toList, "Night".toList]
  date := "08/01/2021".toList
  fields := ⟨2021, 1, 8⟩
  notes := ["2019-12-24 \x7b1080p\x7d".toList, "(x264)".toList]
  studio_ne_nil := List.cons_ne_nil _ _
  title_ne_nil := List.cons_ne_nil _ _
  inner_ne_nil := List.cons_ne_nil _ _
  studio_letters := by unfold IsLetterWord; decide
  title_letters := by unfold IsLetterWord; decide
  inner_letters := by unfold IsLetterWord; decide
  spells := .dayFirst (s := '/') (d := ['0', '8']) (m := ['0', '1']) (y := ['2', '0', '2', '1'])
    (by decide) ⟨rfl, by decide⟩ ⟨rfl, by decide⟩ ⟨rfl, by decide⟩
  isDay := by decide
  isNote x hx := by
    simp only [List.mem_cons, List.not_mem_nil, or_false] at hx
    rcases hx with rfl | rfl
    all_goals exact ⟨by decide, by decide, by decide, by decide⟩

theorem parse_quinn_night :
    let reading := ({} : Parser).parse .off
      "[Quiet Studio] Quinn (Last Night / 08/01/2021) [2019-12-24 \x7b1080p\x7d] [(x264)]".toList
    reading.isScene = true ∧ reading.studioTitle = some "Quiet Studio".toList ∧
      reading.releaseDate = some "2021-01-08".toList ∧
      reading.title = "Quinn Last Night".toList := by
  have raw : quinnNight.text =
      "[Quiet Studio] Quinn (Last Night / 08/01/2021) [2019-12-24 \x7b1080p\x7d] [(x264)]".toList := by
    decide
  rw [← raw]
  exact parse_tracker_roundtrip quinnNight ⟨rfl, .refl _⟩ .off (by decide) (by decide +kernel)
    (by decide +kernel)

end TrackerName

end ReleaseCatalog.Release
