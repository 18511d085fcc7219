import ReleaseCatalog.Proofs.Release.BracketGroups
import ReleaseCatalog.Proofs.Release.FilmYears
import ReleaseCatalog.Proofs.Release.SceneName

/-!
# Names that write a film

A `FilmName` writes a film: the words of a title, each of letters or a number of four
digits, and a year.  The year stands behind a run of separators, with an extension or a
quality tag and any text behind it, or in parentheses with any text behind it.  Both are
read as the film of that year and the whole title, whatever years the title and the text
behind have (`FilmName.parse_film`).

Dates are looked for before films, so what stands behind the year must have none.  It is
not enough that the text behind the tag has none: the end of a tag can be the first
number of one (`FilmName.date_from_tag`).
-/

namespace ReleaseCatalog.Release

open Text (EndsWithout IsRun IsWord JoinedBy unwords)
open Unicode (isBlank isDecimal numeral)

/-! ## Words of films -/

/-- A word of letters or a number of four digits. -/
def IsFilmWord (w : Text) : Prop := IsLetterWord w ∨ IsNumber 4 w

variable {ws : List Text} {w t : Text}

theorem IsFilmWord.isTitleWord (h : IsFilmWord w) : IsTitleWord w := by
  cases h with
  | inl letters => exact letters.isTitleWord
  | inr number => exact ⟨number.ne_nil, fun c hc => .inr (number.2 c hc)⟩

/-- The separators between the words of a film. -/
def filmGaps : Text := [' ', '.', '-']

theorem IsFilmWord.hasOnlyYears (h : IsFilmWord w) : HasOnlyYears w := by
  intro n hn
  cases h with
  | inl letters =>
      rw [numbers_of_hasNoDigit fun c hc =>
        Unicode.isDecimal_eq_false_of_isAlpha (letters.2 c hc)] at hn
      cases hn
  | inr number =>
      rw [numbers_of_isNumber number, List.mem_singleton] at hn
      rw [hn, number.1]

theorem hasOnlyYears_run_append {run y : Text} (years : HasOnlyYears t) (years' : HasOnlyYears y)
    (isRun : IsRun filmGaps run) : HasOnlyYears (t ++ run ++ y) := by
  have gaps : ∀ c ∈ filmGaps, isNoDigit c = true := by decide
  intro n hn
  unfold numbers at hn
  rw [Text.words_append_run_append isRun.1 fun c hc => gaps c (isRun.2 c hc)] at hn
  cases List.mem_append.mp hn with
  | inl before => exact years n before
  | inr behind => exact years' n behind

theorem hasOnlyYears_of_joinedBy (joined : JoinedBy filmGaps ws t) (word : ∀ w ∈ ws, IsFilmWord w) :
    HasOnlyYears t := by
  induction joined with
  | one w => exact (word w List.mem_cons_self).hasOnlyYears
  | more w isRun joined ih =>
      exact hasOnlyYears_run_append (word w List.mem_cons_self).hasOnlyYears
        (ih fun w' hw' => word w' (List.mem_cons_of_mem _ hw')) isRun

theorem map_tagForm_of_isNumber {width : Nat} (number : IsNumber width t) :
    t.map tagForm = List.replicate width '0' := by
  rw [List.eq_replicate_iff, List.length_map]
  refine ⟨number.1, fun c hc => ?_⟩
  obtain ⟨d, hd, rfl⟩ := List.mem_map.mp hc
  exact tagForm_of_isDecimal (number.2 d hd)

/-- A quality tag begins with no number of two digits. -/
theorem not_isNumber_of_isQualityTag {tag rest m more : Text} {c : Char}
    (quality : isQualityTag tag = true) (separator : isSeparator c = true)
    (split : m ++ c :: more = tag ++ rest) : ¬ IsNumber 2 m := by
  intro number
  have split' : m ++ c :: more = [] ++ tag ++ rest := split
  rcases Text.place_cases split' with ⟨back, rfl, -⟩ | ⟨front, -, before⟩ | ⟨front, back, rfl, rfl, -⟩
  · obtain ⟨d, hd, other⟩ := exists_solid_of_isQualityTag quality
    rw [number.2 d (by simp [hd])] at other
    cases other
  · cases front <;> simp at before
  · have word : IsWord isSeparator m :=
      ⟨number.ne_nil, fun d hd => isSeparator_eq_false_of_isDecimal (number.2 d hd)⟩
    refine not_mem_nameWords_of_reads (reads_of_isQualityTag quality) ?_
      (mem_nameWords [] (c :: back) word rfl separator)
    rw [map_tagForm_of_isNumber number]
    decide

/-! ## Films as names write them -/

/-- A film as a name writes it: the words of its title, joined by separators in any way, and its
year. -/
structure FilmName where
  words : List Text
  /-- The title as it is written. -/
  title : Text
  /-- The year as it is written. -/
  year : Text
  isWord : ∀ w ∈ words, IsFilmWord w
  joined : JoinedBy filmGaps words title
  isYear : IsNumber 4 year
  untagged : (boundedTag technicalTag).occurrences title = []
  unmarked : markerFinder.occurrences (Text.spacedWords title) = []

/-- The brackets. -/
def brackets : Text := ['(', ')', '[', ']', '\x7b', '\x7d']

/-- A text without brackets and dates. -/
structure IsQuiet (t : Text) : Prop where
  no_bracket : ∀ c ∈ t, c ∉ brackets
  dateless : HasNoDate t

/-- What may stand behind a year that has a separator before it: nothing, an extension, or a
quality tag and any text apart from it. -/
inductive YearTail : Text → Prop where
  | none : YearTail []
  | extension {ending : Text} : ending.map smallLetter ∈ videoFileExtensions → YearTail ending
  | tagged {gap : Char} {tag rest : Text} : isSeparator gap = true → isQualityTag tag = true →
      isTagBoundary rest.head? = true → IsQuiet (gap :: (tag ++ rest)) →
      YearTail (gap :: (tag ++ rest))

/-- What may stand behind a year in parentheses: any text apart from it. -/
structure GroupTail (t : Text) : Prop where
  apart : isTagBoundary t.head? = true
  quiet : IsQuiet t

namespace FilmName

variable (s : FilmName)

/-- A reading says the film, and neither a studio nor a date. -/
structure IsReadAs (reading : NameReading) : Prop where
  isFilm : reading.isFilm = true
  year : reading.year = some (numeral s.year : Int)
  title : reading.title = unwords s.words
  no_studio : reading.studioTitle = none
  no_date : reading.releaseDate = none

/-! ## The title -/

theorem title_not_mem {c : Char} (letter : c.isAlpha = false) (digit : isDecimal c = false)
    (gap : c ∉ filmGaps) : c ∉ s.title := by
  intro member
  rcases s.joined.mem_word_or_mem_gaps member with ⟨w, hw, inside⟩ | inside
  · cases (s.isWord w hw).isTitleWord.2 c inside with
    | inl alpha => rw [letter] at alpha; cases alpha
    | inr decimal => rw [digit] at decimal; cases decimal
  · exact gap inside

theorem year_not_mem {c : Char} (digit : isDecimal c = false) : c ∉ s.year := by
  intro member
  rw [s.isYear.2 c member] at digit
  cases digit

theorem isWord_of_mem {p : Char → Bool} (letter : ∀ {c : Char}, c.isAlpha = true → p c = false)
    (digit : ∀ {c : Char}, isDecimal c = true → p c = false) : ∀ w ∈ s.words, IsWord p w :=
  fun w hw => (s.isWord w hw).isTitleWord.isWord letter digit

theorem title_ne_nil : s.title ≠ [] := s.joined.ne_nil fun w hw => (s.isWord w hw).isTitleWord.1

theorem nameWords_title : Text.words isSeparator s.title = s.words := by
  have gaps : ∀ c ∈ filmGaps, isSeparator c = true := by decide
  exact s.joined.words_eq gaps
    (s.isWord_of_mem isSeparator_eq_false_of_isAlpha isSeparator_eq_false_of_isDecimal)

theorem title_endsWithout : EndsWithout isBlank s.title :=
  s.joined.endsWithout
    (s.isWord_of_mem Unicode.isBlank_eq_false_of_isAlpha Unicode.isBlank_eq_false_of_isDecimal)

theorem words_ne_nil : s.words ≠ [] := joinedBy_ne_nil (s.joined.mono (by decide))

theorem unwords_ne_nil : unwords s.words ≠ [] :=
  (Text.joinedBy_unwords s.words_ne_nil).ne_nil fun w hw => (s.isWord w hw).isTitleWord.1

variable {run : Text}

theorem not_hasTag (isRun : IsRun filmGaps run) : ¬ HasTag technicalTag (s.title ++ run) := by
  have gaps : ∀ c ∈ filmGaps, isSeparator c = true := by decide
  intro tagged
  exact technicalTags_eq_nil_iff.mp s.untagged
    (tagged.of_append_run fun c hc => gaps c (isRun.2 c hc))

/-- The title and a run of separators behind it come out as the words of the title. -/
theorem titleText_eq (isRun : IsRun filmGaps run) : titleText (s.title ++ run) = unwords s.words := by
  have gaps : ∀ c ∈ filmGaps, isSeparator c = true ∧ isStray c = false := by decide
  have clean : blankStray (s.title ++ run) = s.title ++ run := by
    have solid := s.isWord_of_mem isStray_eq_false_of_isAlpha isStray_eq_false_of_isDecimal
    refine blankStray_eq_self fun c hc => ?_
    cases List.mem_append.mp hc with
    | inr behind => exact (gaps c (isRun.2 c behind)).2
    | inl inside =>
        rcases s.joined.mem_word_or_mem_gaps inside with ⟨w, hw, member⟩ | between
        · exact (solid w hw).2 c member
        · exact (gaps c between).2
  have line : Text.spacedWords s.title = unwords s.words := congrArg unwords s.nameWords_title
  refine titleText_eq_unwords ?_ ?_ s.words_ne_nil (fun w hw => (s.isWord w hw).isTitleWord) ?_
  · rw [clean, technicalTags_eq_nil_iff]
    exact s.not_hasTag isRun
  · rw [clean, Text.words_append_run fun c hc => (gaps c (isRun.2 c hc)).1, s.nameWords_title]
  · have unmarked := s.unmarked
    rw [line] at unmarked
    exact Finder.replaceAll_eq_self unmarked

/-! ## The year behind a separator -/

/-- The title and the year with separators between them. -/
def plain (run : Text) : Text := s.title ++ (run ++ s.year)

theorem year_foreign : s.year.map tagForm ∈ foreignForms := by
  rw [map_tagForm_of_isNumber s.isYear]
  decide

theorem year_isWord : IsWord isSeparator s.year :=
  ⟨s.isYear.ne_nil, fun c hc => isSeparator_eq_false_of_isDecimal (s.isYear.2 c hc)⟩

theorem run_opens (isRun : IsRun filmGaps run) : isTagBoundary (s.title ++ run).getLast? = true := by
  have gaps : ∀ c ∈ filmGaps, isSeparator c = true := by decide
  rw [List.getLast?_append_of_ne_nil _ isRun.1, List.getLast?_eq_some_getLast isRun.1]
  exact gaps _ (isRun.2 _ (List.getLast_mem isRun.1))

theorem not_mem_plain {c : Char} (isRun : IsRun filmGaps run) (letter : c.isAlpha = false)
    (digit : isDecimal c = false) (gap : c ∉ filmGaps) : c ∉ s.plain run := by
  have title := s.title_not_mem letter digit gap
  have between : c ∉ run := fun member => gap (isRun.2 c member)
  have year := s.year_not_mem digit
  simp [plain, title, between, year]

theorem plain_hasOnlyYears (isRun : IsRun filmGaps run) : HasOnlyYears (s.plain run) := by
  have year : HasOnlyYears s.year := IsFilmWord.hasOnlyYears (.inr s.isYear)
  unfold plain
  rw [← List.append_assoc]
  exact hasOnlyYears_run_append (hasOnlyYears_of_joinedBy s.joined s.isWord) year isRun

theorem plain_ne_nil (run : Text) : s.plain run ≠ [] :=
  List.append_ne_nil_of_left_ne_nil s.title_ne_nil _

theorem plain_head : ∀ c ∈ (s.plain run).head?, isBlank c = false := by
  unfold plain
  rw [List.head?_append_of_ne_nil _ s.title_ne_nil]
  exact s.title_endsWithout.1

theorem plain_getLast (run : Text) : ∃ c, (s.plain run).getLast? = some c ∧ isDecimal c = true := by
  refine ⟨s.year.getLast s.isYear.ne_nil, ?_, s.isYear.2 _ (List.getLast_mem s.isYear.ne_nil)⟩
  unfold plain
  rw [← List.append_assoc, List.getLast?_append_of_ne_nil _ s.isYear.ne_nil,
    List.getLast?_eq_some_getLast]

theorem plain_isClosed (isRun : IsRun filmGaps run) : IsClosed (s.plain run) where
  ne_nil := s.plain_ne_nil run
  ends := by
    refine ⟨s.plain_head, fun c hc => ?_⟩
    obtain ⟨d, last, digit⟩ := s.plain_getLast run
    rw [← Option.some.inj (last.symm.trans hc)]
    exact Unicode.isBlank_eq_false_of_isDecimal digit
  no_extension := by
    unfold plain
    rw [← List.append_assoc]
    exact no_extension_of_digits (by rw [s.isYear.1]; decide) s.isYear.2
  no_counter := by
    intro kept digits split
    have low := s.not_mem_plain (c := '_') isRun (by decide) (by decide) (by decide)
    rw [split] at low
    exact absurd (by simp) low

/-- If a name is kept up to the year and at most a separator, it is a film of the year. -/
theorem film?_eq {range : Calendar.YearRange} (accepted : range.Contains (numeral s.year))
    (isRun : IsRun filmGaps run) {name gap : Text}
    (head : beforeTail name = s.title ++ run ++ (s.year ++ gap))
    (separators : ∀ c ∈ gap, isSeparator c = true) (short : gap.length ≤ 1) :
    film? range name = some (unwords s.words, (numeral s.year : Int)) := by
  have closes : isTagBoundary gap.head? = true := by
    cases gap with
    | nil => rfl
    | cons c gap => exact separators c List.mem_cons_self
  have absent : ∀ {c : Char}, c.isAlpha = false → isDecimal c = false → isSeparator c = false →
      c ∉ filmGaps → c ∉ s.title ++ run ++ (s.year ++ gap) := by
    intro c letter digit separator between
    have front := s.not_mem_plain isRun letter digit between
    have behind : c ∉ gap := fun member => by
      rw [separators c member] at separator
      cases separator
    rw [plain, List.mem_append, List.mem_append, not_or, not_or] at front
    simp [front, behind]
  have title := s.titleText_eq isRun
  have dated := film?_standalone head s.isYear (s.run_opens isRun) closes short
    (absent (by decide) (by decide) (by decide) (by decide))
    (absent (by decide) (by decide) (by decide) (by decide)) accepted
    (by rw [title]; exact s.unwords_ne_nil)
  rwa [title] at dated

/-- A name that ends in the year is a film of the year. -/
theorem film?_plain {range : Calendar.YearRange} (accepted : range.Contains (numeral s.year))
    (isRun : IsRun filmGaps run) :
    film? range (s.plain run) = some (unwords s.words, (numeral s.year : Int)) := by
  obtain ⟨front, within, head⟩ := exists_beforeTail (z := []) s.year_isWord s.year_foreign
    (s.run_opens isRun) rfl (s.not_hasTag isRun)
  obtain rfl := List.prefix_nil.mp within
  refine s.film?_eq accepted isRun ?_ (fun c hc => absurd hc List.not_mem_nil) (Nat.zero_le 1)
  rwa [List.append_nil, List.append_assoc] at head ⊢

/-- A name with a quality tag behind the year is a film of the year. -/
theorem film?_tagged {range : Calendar.YearRange} {gap : Char} {tag rest : Text}
    (accepted : range.Contains (numeral s.year)) (isRun : IsRun filmGaps run)
    (separator : isSeparator gap = true) (quality : isQualityTag tag = true)
    (closes : isTagBoundary rest.head? = true) :
    film? range (s.plain run ++ gap :: (tag ++ rest)) =
      some (unwords s.words, (numeral s.year : Int)) := by
  have head := beforeTail_quality s.year_isWord s.year_foreign (s.run_opens isRun) separator closes
    (s.not_hasTag isRun) quality
  have split : s.plain run ++ gap :: (tag ++ rest) =
      s.title ++ run ++ (s.year ++ gap :: (tag ++ rest)) := by simp [plain]
  rw [← split] at head
  refine s.film?_eq accepted isRun head (fun c hc => ?_) (Nat.le_refl 1)
  rw [List.mem_singleton.mp hc]
  exact separator

theorem plain_hasNoDate (isRun : IsRun filmGaps run) : HasNoDate (s.plain run) := by
  have nothing : HasNoDate [] := fun _ _ _ stands => by
    obtain ⟨c, place, -⟩ := stands.exists_digit
    cases place
  rw [← List.append_nil (s.plain run)]
  exact hasNoDate_append (s.plain_hasOnlyYears isRun) rfl nothing
    fun _ _ _ _ split => absurd split (List.cons_ne_nil _ _).symm

theorem tagged_hasNoDate (isRun : IsRun filmGaps run) {gap : Char} {tag rest : Text}
    (separator : isSeparator gap = true) (quality : isQualityTag tag = true)
    (dateless : HasNoDate (gap :: (tag ++ rest))) :
    HasNoDate (s.plain run ++ gap :: (tag ++ rest)) := by
  refine hasNoDate_append (s.plain_hasOnlyYears isRun)
    (any_isDecimal_of_isTagBoundary (c := some gap) separator) dateless ?_
  intro _ c m more split
  obtain ⟨rfl, split'⟩ := List.cons.inj split
  exact not_isNumber_of_isQualityTag quality separator split'.symm

end FilmName

namespace Parser

/-- A prepared name without a date that has a title and a year is a film. -/
theorem recognise_eq_film {parser : Parser} (standard : parser.IsStandard) {raw body title : Text}
    {year : Int} {studio : Option Text} (prepared : parser.prepare raw = ⟨studio, body⟩)
    (dateless : HasNoDate body) (film : film? parser.years body = some (title, year)) :
    parser.recognise raw = .film title year := by
  have none : parser.dateIn body = none := by
    unfold dateIn
    rw [standard.styles]
    exact (firstDate_eq_none_iff parser.years).mpr dateless
  simp only [recognise, prepared, none, film]

end Parser

namespace FilmName

variable (s : FilmName) {run tail : Text}

theorem plain_no_bracket (isRun : IsRun filmGaps run) : ∀ c ∈ s.plain run, c ∉ openingBrackets := by
  have others : ∀ c ∈ openingBrackets, c.isAlpha = false ∧ isDecimal c = false ∧ c ∉ filmGaps := by
    decide
  intro c hc opening
  obtain ⟨letter, digit, gap⟩ := others c opening
  exact s.not_mem_plain isRun letter digit gap hc

/-- Nothing is dropped from a name that ends in the year, but perhaps an extension behind it. -/
theorem prepare_plain {parser : Parser} (standard : parser.IsStandard) (isRun : IsRun filmGaps run)
    {raw : Text} (file : FileOf (s.plain run) raw) : parser.prepare raw = ⟨none, s.plain run⟩ := by
  have closed := s.plain_isClosed isRun
  have prepared := Parser.prepare_eq standard.extensions closed.ne_nil closed.ends file
    (by rw [closed.dropCounter_eq]; exact s.plain_no_bracket isRun)
  rwa [closed.dropCounter_eq] at prepared

/-- What is dropped from a name with a quality tag behind the year is dropped behind the tag. -/
theorem prepare_tagged {parser : Parser} (standard : parser.IsStandard) (isRun : IsRun filmGaps run)
    {gap : Char} {tag rest : Text} (separator : isSeparator gap = true)
    (quality : isQualityTag tag = true) (closes : isTagBoundary rest.head? = true)
    (bare : ∀ c ∈ gap :: (tag ++ rest), c ∉ brackets) :
    ∃ left, Leaves rest left ∧
      parser.prepare (s.plain run ++ gap :: (tag ++ rest)) =
        ⟨none, s.plain run ++ gap :: (tag ++ left)⟩ := by
  have opening : ∀ c ∈ openingBrackets, c ∈ brackets := by decide
  have split : ∀ t, s.plain run ++ gap :: (tag ++ t) = s.plain run ++ gap :: tag ++ t := by simp
  have no_bracket : ∀ c ∈ s.plain run ++ gap :: (tag ++ rest), c ∉ openingBrackets := by
    intro c hc
    cases List.mem_append.mp hc with
    | inl front => exact s.plain_no_bracket isRun c front
    | inr behind => exact fun member => bare c behind (opening c member)
  have closed := isClosed_tag quality separator s.plain_head (s.plain_ne_nil run)
  obtain ⟨left, leaves, prepared⟩ := closed.prepare_append standard.extensions closes
    (fun member => no_bracket '[' (split rest ▸ member) (by decide))
  refine ⟨left, leaves, ?_⟩
  rw [split, split, prepared, dropGroups_eq_self fun c hc => ?_]
  rcases (leaves.append (s.plain run ++ gap :: tag)).mem hc with old | feed
  · exact no_bracket c (split rest ▸ old)
  · rw [feed]
    decide

/-- A name with the year behind a separator is read as the film. -/
theorem recognise_plain {parser : Parser} (standard : parser.IsStandard)
    (accepted : parser.years.Contains (numeral s.year)) (isRun : IsRun filmGaps run)
    (allowed : YearTail tail) :
    parser.recognise (s.plain run ++ tail) = .film (unwords s.words) (numeral s.year) := by
  have alone : ∀ {raw : Text}, FileOf (s.plain run) raw →
      parser.recognise raw = .film (unwords s.words) (numeral s.year) := fun file =>
    Parser.recognise_eq_film standard (s.prepare_plain standard isRun file)
      (s.plain_hasNoDate isRun) (s.film?_plain accepted isRun)
  cases allowed with
  | none =>
      rw [List.append_nil]
      exact alone (.bare (s.plain_isClosed isRun).no_extension)
  | extension listed => exact alone (.extended listed)
  | @tagged gap tag rest separator quality closes quiet =>
      obtain ⟨left, leaves, prepared⟩ :=
        s.prepare_tagged standard isRun separator quality closes quiet.no_bracket
      have dateless : HasNoDate (gap :: (tag ++ left)) := (leaves.append (gap :: tag)).hasNoDate
        quiet.dateless
      exact Parser.recognise_eq_film standard prepared
        (s.tagged_hasNoDate isRun separator quality dateless)
        (s.film?_tagged accepted isRun separator quality (leaves.isTagBoundary closes))

/-! ## The year in parentheses -/

/-- The year in parentheses. -/
def group : Text := '(' :: (s.year ++ [')'])

/-- The title and the year in parentheses behind a space. -/
def grouped : Text := s.title ++ [' '] ++ s.group

theorem space_isRun : IsRun filmGaps [' '] := ⟨List.cons_ne_nil _ _, by decide⟩

theorem group_foreign : s.group.map tagForm ∈ foreignForms := by
  unfold group
  rw [List.map_cons, List.map_append, map_tagForm_of_isNumber s.isYear]
  decide

theorem group_isWord : IsWord isSeparator s.group := by
  refine ⟨List.cons_ne_nil _ _, fun c hc => ?_⟩
  simp only [group, List.mem_cons, List.mem_append, List.not_mem_nil, or_false] at hc
  rcases hc with rfl | hc | rfl
  · decide
  · exact s.year_isWord.2 c hc
  · decide

theorem grouped_head : ∀ c ∈ (s.title ++ [' '] ++ '(' :: s.year).head?, isBlank c = false := by
  rw [List.append_assoc, List.head?_append_of_ne_nil _ s.title_ne_nil]
  exact s.title_endsWithout.1

theorem grouped_eq : s.grouped = s.title ++ [' '] ++ '(' :: s.year ++ [')'] := by
  simp [grouped, group]

theorem grouped_isClosed : IsClosed s.grouped := by
  have last : (s.title ++ [' '] ++ '(' :: s.year ++ [')']).getLast? = some ')' :=
    List.getLast?_concat
  rw [grouped_eq]
  have other : isBlank ')' = false ∧ isDecimal ')' = false ∧ '_' ∉ [')'] := by decide
  refine isClosed_append s.grouped_head (by simp) (fun c hc => ?_)
    ⟨')', List.mem_cons_self, other.2.1⟩ other.2.2 (no_extension_of_last last (by decide))
  rw [← Option.some.inj hc]
  exact other.1

theorem grouped_hasOnlyYears : HasOnlyYears s.grouped := by
  have year : HasOnlyYears s.group := by
    intro n hn
    unfold group at hn
    rw [← List.nil_append ('(' :: _), numbers_append_cons (by decide),
      numbers_append_cons (by decide), numbers_of_isNumber s.isYear] at hn
    obtain rfl : n = s.year := by simpa [numbers, Text.words_nil] using hn
    exact s.isYear.1
  exact hasOnlyYears_run_append (hasOnlyYears_of_joinedBy s.joined s.isWord) year space_isRun

theorem grouped_hasNoDate (apart : isTagBoundary tail.head? = true) (dateless : HasNoDate tail) :
    HasNoDate (s.grouped ++ tail) := by
  refine hasNoDate_append s.grouped_hasOnlyYears (any_isDecimal_of_isTagBoundary apart) dateless ?_
  intro digit
  rw [grouped_eq, List.getLast?_concat] at digit
  exact absurd digit (by decide)

/-- A name with the year in parentheses is a film of the year. -/
theorem film?_grouped {range : Calendar.YearRange} (accepted : range.Contains (numeral s.year))
    (apart : isTagBoundary tail.head? = true) (bare : ∀ c ∈ tail, c ∉ openingBrackets) :
    film? range (s.grouped ++ tail) = some (unwords s.words, (numeral s.year : Int)) := by
  obtain ⟨front, within, head⟩ := exists_beforeTail s.group_isWord s.group_foreign
    (s.run_opens space_isRun) apart (s.not_hasTag space_isRun)
  have absent : ∀ bracket ∈ openingBrackets, bracket ∉ s.title ++ [' '] ++ front := by
    have others : ∀ c ∈ openingBrackets,
        c.isAlpha = false ∧ isDecimal c = false ∧ c ∉ filmGaps ∧ c ≠ ' ' := by decide
    intro c opening
    obtain ⟨letter, digit, gap, space⟩ := others c opening
    have title := s.title_not_mem letter digit gap
    have behind : c ∉ front := fun member => bare c (within.subset member) opening
    simp [title, space, behind]
  have split : s.title ++ [' '] ++ (s.group ++ front) =
      s.title ++ [' '] ++ '(' :: (s.year ++ ')' :: front) := by simp [group]
  have title := s.titleText_eq space_isRun
  rw [split, ← List.append_assoc] at head
  have dated := film?_bracketed head s.isYear (absent '(' (by decide)) (absent '[' (by decide))
    accepted (by rw [title]; exact s.unwords_ne_nil)
  rwa [title] at dated

theorem isTagList_year : isTagList s.year = false := by
  have word : Text.nameWords s.year = [s.year] := Text.words_of_isWord s.year_isWord
  refine Bool.eq_false_iff.mpr fun tags => ?_
  simp only [isTagList, word, Bool.and_eq_true, List.all_cons, List.all_nil] at tags
  have reads := Reader.readsAll_iff.mp tags.2.1
  exact not_mem_nameWords_of_reads reads s.year_foreign (word ▸ List.mem_cons_self)

theorem not_mem_grouped {c : Char} (letter : c.isAlpha = false) (digit : isDecimal c = false)
    (gap : c ∉ filmGaps) (other : c ∉ [' ', '(', ')']) : c ∉ s.grouped := by
  have title := s.title_not_mem letter digit gap
  have year := s.year_not_mem digit
  simp only [List.mem_cons, List.not_mem_nil, or_false, not_or] at other
  simp [grouped, group, title, year, other]

/-- The parentheses stay, since a year is no tag. -/
theorem dropGroups_grouped (bare : ∀ c ∈ tail, c ∉ openingBrackets) :
    dropGroups (s.grouped ++ tail) = s.grouped ++ tail := by
  have absent : ∀ bracket ∈ openingBrackets, bracket ∉ tail := fun b opening member =>
    bare b member opening
  have square : '[' ∉ s.grouped ++ tail := List.not_mem_append
    (s.not_mem_grouped (by decide) (by decide) (by decide) (by decide)) (absent '[' (by decide))
  have curly : '\x7b' ∉ s.grouped ++ tail := List.not_mem_append
    (s.not_mem_grouped (by decide) (by decide) (by decide) (by decide)) (absent '\x7b' (by decide))
  have front : '(' ∉ s.title ++ [' '] := List.not_mem_append
    (s.title_not_mem (by decide) (by decide) (by decide)) (by decide)
  have split : s.grouped ++ tail = s.title ++ [' '] ++ '(' :: (s.year ++ ')' :: tail) := by
    simp [grouped, group]
  simp only [dropGroups]
  rw [Finder.replaceAll_eq_self (groups_eq_nil square),
    Finder.replaceAll_eq_self (groups_eq_nil curly), split]
  exact roundGroup_stays front (s.year_not_mem (by decide)) (s.year_not_mem (by decide))
    (absent '(' (by decide)) s.isTagList_year

/-- A name with the year in parentheses is read as the film. -/
theorem recognise_grouped {parser : Parser} (standard : parser.IsStandard)
    (accepted : parser.years.Contains (numeral s.year)) (allowed : GroupTail tail) :
    parser.recognise (s.grouped ++ tail) = .film (unwords s.words) (numeral s.year) := by
  have opening : ∀ c ∈ openingBrackets, c ∈ brackets := by decide
  have square : '[' ∉ s.grouped ++ tail := List.not_mem_append
    (s.not_mem_grouped (by decide) (by decide) (by decide) (by decide))
    fun member => allowed.quiet.no_bracket '[' member (by decide)
  obtain ⟨left, leaves, prepared⟩ :=
    s.grouped_isClosed.prepare_append standard.extensions allowed.apart square
  have bare : ∀ c ∈ left, c ∉ openingBrackets := by
    intro c hc
    rcases leaves.mem hc with old | feed
    · exact fun member => allowed.quiet.no_bracket c old (opening c member)
    · rw [feed]
      decide
  have apart := leaves.isTagBoundary allowed.apart
  rw [s.dropGroups_grouped bare] at prepared
  exact Parser.recognise_eq_film standard prepared
    (s.grouped_hasNoDate apart (leaves.hasNoDate allowed.quiet.dateless))
    (s.film?_grouped accepted apart bare)

/-! ## Films -/

theorem isReadAs {parser : Parser} (detection : Detection) {raw : Text}
    (film : parser.recognise raw = .film (unwords s.words) (numeral s.year)) :
    s.IsReadAs (parser.parse detection raw) := by
  unfold Parser.parse
  rw [film]
  exact ⟨rfl, rfl, rfl, rfl, rfl⟩

/-- A name that writes a film is read as the film, its year behind a separator or in parentheses,
whatever other years its title and what stands behind its year have. -/
theorem parse_film {parser : Parser} (standard : parser.IsStandard) (detection : Detection)
    (accepted : parser.years.Contains (numeral s.year)) :
    (∀ run tail, IsRun filmGaps run → YearTail tail →
        s.IsReadAs (parser.parse detection (s.title ++ run ++ s.year ++ tail))) ∧
      ∀ tail, GroupTail tail →
        s.IsReadAs (parser.parse detection (s.title ++ " (".toList ++ s.year ++ ")".toList ++ tail)) := by
  constructor
  · intro run tail isRun allowed
    have name : s.title ++ run ++ s.year ++ tail = s.plain run ++ tail := by simp [plain]
    rw [name]
    exact s.isReadAs detection (s.recognise_plain standard accepted isRun allowed)
  · intro tail allowed
    have name : s.title ++ " (".toList ++ s.year ++ ")".toList ++ tail = s.grouped ++ tail := by
      simp [grouped, group]
    rw [name]
    exact s.isReadAs detection (s.recognise_grouped standard accepted allowed)

/-- The film `2012 Doomsday` of 2009. -/
def doomsday : FilmName where
  words := ["2012".toList, "Doomsday".toList]
  title := "2012".toList ++ ['-', '.'] ++ "Doomsday".toList
  year := "2009".toList
  isWord := by unfold IsFilmWord IsLetterWord IsNumber; decide
  joined := .more _ ⟨by decide, by decide⟩ (.one _)
  isYear := ⟨rfl, by decide⟩
  untagged := by decide +kernel
  unmarked := by decide +kernel

theorem parse_doomsday :
    doomsday.IsReadAs
        (({} : Parser).parse .off "2012-.Doomsday.2009_720p.2011.x264-GRP.mkv".toList) ∧
      doomsday.IsReadAs (({} : Parser).parse .off "2012-.Doomsday (2009) 1999 2000".toList) := by
  have standard : ({} : Parser).IsStandard := ⟨rfl, .refl _⟩
  have film := parse_film doomsday standard .off (by decide)
  have name : doomsday.title ++ ['.'] ++ doomsday.year ++ '_' :: ("720p".toList ++
      ".2011.x264-GRP.mkv".toList) = "2012-.Doomsday.2009_720p.2011.x264-GRP.mkv".toList := by decide
  have name' : doomsday.title ++ " (".toList ++ doomsday.year ++ ")".toList ++ " 1999 2000".toList =
      "2012-.Doomsday (2009) 1999 2000".toList := by decide
  have tail : YearTail ('_' :: ("720p".toList ++ ".2011.x264-GRP.mkv".toList)) :=
    .tagged (by decide) (by decide +kernel) (by decide)
      ⟨by decide, (firstDate_eq_none_iff {}).mp (by decide +kernel)⟩
  have tail' : GroupTail " 1999 2000".toList :=
    ⟨by decide, by decide, (firstDate_eq_none_iff {}).mp (by decide +kernel)⟩
  rw [← name, ← name']
  exact ⟨film.1 ['.'] _ ⟨by decide, by decide⟩ tail, film.2 _ tail'⟩

/-- The film `Movie` of 2010. -/
def movie : FilmName where
  words := ["Movie".toList]
  title := "Movie".toList
  year := "2010".toList
  isWord := by unfold IsFilmWord IsLetterWord IsNumber; decide
  joined := .one _
  isYear := ⟨rfl, by decide⟩
  untagged := by decide +kernel
  unmarked := by decide +kernel

/-- Without a date in the text behind the tag, the tag can still begin one: the end of `HDR10` and
the numbers behind it are read as the date of a scene. -/
theorem date_from_tag :
    ({} : Parser).IsStandard ∧ ({} : Parser).years.Contains (numeral movie.year) ∧
      isQualityTag "HDR10".toList = true ∧ IsQuiet ".10.10".toList ∧
      ¬ movie.IsReadAs (({} : Parser).parse .off
        (movie.title ++ ['.'] ++ movie.year ++ '.' :: ("HDR10".toList ++ ".10.10".toList))) := by
  refine ⟨⟨rfl, .refl _⟩, by decide, by decide +kernel,
    ⟨by decide, (firstDate_eq_none_iff {}).mp (by decide +kernel)⟩, fun film => ?_⟩
  have scene : (({} : Parser).parse .off
      (movie.title ++ ['.'] ++ movie.year ++ '.' :: ("HDR10".toList ++ ".10.10".toList))).isFilm =
        false := by decide +kernel
  rw [film.isFilm] at scene
  cases scene

end FilmName

end ReleaseCatalog.Release
