import ReleaseCatalog.Proofs.Release.BracketGroups
import ReleaseCatalog.Proofs.Release.DatelessName
import ReleaseCatalog.Proofs.Text.Solid

/-!
# The ways of recognising a name

`Parser.Reads` lists the ways in which a name is recognised: as a scene whose studio
stands in brackets or before the date, as a film, or by its title alone, for a malformed
date or without any.  Each rule says where its studio, date, year and title are read.
Whatever a parser recognises is recognised in one of these ways (`Parser.reads_recognise`),
so what holds of every reading is proved by cases on them and needs no look at the parser.

The fields of a reading fit together (`NameReading.IsConsistent`), a malformed date
leaves nothing but a title (`Parser.recognise_of_hasMalformedDate`), and only a blank name
has a blank title (`isBlank_of_isBlank_wholeTitle`).
-/

namespace ReleaseCatalog.Release

open Calendar (YearRange normalizeDay)
open Unicode (isBlank)

variable {range : YearRange} {name title : Text} {year : Int}

/-! ## Titles that are not blank -/

/-- A title that is blank is empty. -/
theorem titleText_eq_nil_of_isBlank {t : Text} (blank : ∀ c ∈ titleText t, isBlank c = true) :
    titleText t = [] := by
  unfold titleText at blank ⊢
  have ends := Text.endsWithout_trim isTitleEdge
    (Text.collapse isBlank (blankMarkers (Text.spacedWords (beforeTail (blankStray t)))))
  have part := Text.trim_isInfix isTitleEdge
    (Text.collapse isBlank (blankMarkers (Text.spacedWords (beforeTail (blankStray t)))))
  refine List.head?_eq_none_iff.mp (Option.eq_none_iff_forall_ne_some.mpr fun c first => ?_)
  -- The first character is no space, and the other blanks were separators.
  have member := List.mem_of_head? first
  rcases Text.of_mem_collapse (part.subset member) with rfl | solid
  · have edge := ends.1 ' ' first
    revert edge
    decide
  · rw [blank c member] at solid
    cases solid

/-- Only a blank name has a blank title. -/
theorem isBlank_of_isBlank_wholeTitle {raw body : Text}
    (blank : ∀ c ∈ Parser.wholeTitle raw body, isBlank c = true) : ∀ c ∈ raw, isBlank c = true := by
  simp only [Parser.wholeTitle] at blank
  split at blank
  · next named => exact absurd (titleText_eq_nil_of_isBlank blank) named
  · split at blank
    · next words =>
        exact absurd (Text.collapse_eq_nil_of_isBlank (fun c => isSeparator_of_isBlank) blank) words
    · rwa [← Text.solid_eq_nil_iff, Text.solid_trimBlank, Text.solid_eq_nil_iff] at blank

/-! ## Films -/

theorem of_lastDated_eq_some {titleOf : Occurrence Nat → Text} {years : List (Occurrence Nat)}
    (h : lastDated range titleOf years = some (title, year)) :
    range.Contains year ∧ title ≠ [] ∧ ∃ o ∈ years, title = titleOf o := by
  obtain ⟨o, member, found⟩ := List.exists_of_findSome?_eq_some h
  split at found
  · next both =>
      cases found
      exact ⟨both.1, both.2, o, List.mem_reverse.mp member, rfl⟩
  · cases found

/-- The year of a film is in the range, and its title is read from a part of the name. -/
theorem of_film?_eq_some (h : film? range name = some (title, year)) :
    range.Contains year ∧ title ≠ [] ∧
      ∃ part, part <:+: beforeTail name ∧ title = titleText part := by
  rcases Option.or_eq_some_iff.mp h with bracketed | ⟨-, standalone⟩
  · obtain ⟨contained, nonempty, o, member, same⟩ := of_lastDated_eq_some bracketed
    refine ⟨contained, nonempty, ?_⟩
    unfold titleAround at same
    dsimp only at same
    split at same
    · exact ⟨o.after, (Finder.after_isSuffix member).isInfix, same⟩
    · exact ⟨o.before, (Finder.before_isPrefix member).isInfix, same⟩
  · obtain ⟨contained, nonempty, o, member, same⟩ := of_lastDated_eq_some standalone
    exact ⟨contained, nonempty, o.before, (Finder.before_isPrefix member).isInfix, same⟩

namespace Parser

variable {parser : Parser} {raw : Text}

/-! ## Dates -/

/-- A fragment in one of the styles of the parser names the day. -/
def Dates (parser : Parser) (fragment date : Text) : Prop :=
  ∃ style ∈ parser.styles, ∃ fields, style.shape.Spells fragment fields ∧
    style.dayOf parser.years fields = some date

/-- A text has a fragment in one of the styles of the parser, but no date is recognised. -/
def HasMalformedDate (parser : Parser) (body : Text) : Prop :=
  (∃ style ∈ parser.styles, ∃ position fields, style.shape.StandsAt body position fields) ∧
    ∀ m, parser.dateIn body = some m → m.isDay = false

/-- A date that is found stands between the text before and after it. -/
theorem exists_split_of_dateIn {body date : Text} {start stop : Nat}
    (h : parser.dateIn body = some ⟨start, stop, some date⟩) :
    ∃ before fragment after, body = before ++ fragment ++ after ∧ start = before.length ∧
      stop = (before ++ fragment).length ∧ parser.Dates fragment date := by
  obtain ⟨style, hs, o, member, same⟩ := exists_occurrence_of_firstDate h
  obtain ⟨rfl, rfl, day⟩ := FoundDate.mk.inj same
  exact ⟨o.before, o.fragment, o.after, (Finder.split_of_mem_occurrences member).symm, rfl,
    List.length_append.symm, style, hs, o.value,
    (DateShape.stands_of_mem_occurrences member).spells, day.symm⟩

/-! ## Ways of recognising a name -/

/-- How a name is recognised. -/
inductive Reads (parser : Parser) (raw : Text) : Recognition → Prop where
  /-- The studio is set apart, and the title stands around the date. -/
  | bracketed {studio before fragment after date : Text} :
      parser.prepare raw = ⟨some studio, before ++ fragment ++ after⟩ →
      parser.Dates fragment date →
      Reads parser raw (.scene (some studio) date (titleText (before ++ [' '] ++ after)))
  /-- The studio stands before the date and the title after it. -/
  | leading {before fragment after date : Text} :
      parser.prepare raw = ⟨none, before ++ fragment ++ after⟩ → studioText before ≠ [] →
      parser.Dates fragment date →
      Reads parser raw (.scene (some (studioText before)) date (titleText after))
  /-- No studio stands before the date. -/
  | unnamed {before fragment after date : Text} :
      parser.prepare raw = ⟨none, before ++ fragment ++ after⟩ → studioText before = [] →
      parser.Dates fragment date →
      Reads parser raw (.scene none date (titleText after))
  | film {title : Text} {year : Int} :
      film? parser.years (parser.prepare raw).body = some (title, year) →
      Reads parser raw (.film title year)
  | malformedDate : Reads parser raw (.malformedDate (wholeTitle raw (parser.prepare raw).body))
  | plain : Reads parser raw (.plain (wholeTitle raw (parser.prepare raw).body))

/-- A prepared name with a date is read around the date. -/
theorem reads_sceneAt {studio : Option Text} {before fragment after date : Text}
    (prepared : parser.prepare raw = ⟨studio, before ++ fragment ++ after⟩)
    (dates : parser.Dates fragment date) :
    Reads parser raw (sceneAt ⟨studio, before ++ fragment ++ after⟩ before.length
      (before ++ fragment).length date) := by
  unfold sceneAt
  simp only [List.drop_left]
  rw [List.append_assoc before, List.take_left]
  cases studio with
  | some studio => exact .bracketed prepared dates
  | none =>
      dsimp only
      split
      · next empty => exact .unnamed prepared empty dates
      · next named => exact .leading prepared named dates

theorem reads_recognise (parser : Parser) (raw : Text) :
    parser.Reads raw (parser.recognise raw) := by
  unfold recognise
  dsimp only
  split
  · next start stop date found =>
      obtain ⟨before, fragment, after, body, rfl, rfl, dates⟩ := exists_split_of_dateIn found
      have prepared : parser.prepare raw =
          ⟨(parser.prepare raw).bracketStudio, before ++ fragment ++ after⟩ := by rw [← body]
      rw [prepared]
      exact reads_sceneAt prepared dates
  · exact .malformedDate
  · split
    · next film => exact .film film
    · exact .plain

/-- A malformed date leaves a name nothing but a title. -/
theorem recognise_of_hasMalformedDate (h : parser.HasMalformedDate (parser.prepare raw).body) :
    parser.recognise raw = .malformedDate (wholeTitle raw (parser.prepare raw).body) := by
  obtain ⟨⟨style, hs, position, fields, stands⟩, noDay⟩ := h
  unfold recognise
  dsimp only
  split
  · next found => cases noDay _ found
  · rfl
  · next none =>
      exact absurd stands (firstDate_eq_none_iff_forall_style.mp none style hs position fields)

end Parser

/-! ## Readings -/

/-- The fields of a reading fit together. -/
structure NameReading.IsConsistent (range : YearRange) (r : NameReading) : Prop where
  isScene_iff : r.isScene = true ↔ r.releaseDate.isSome = true
  date : ∀ date ∈ r.releaseDate, ∃ year month day, range.Contains year ∧
    normalizeDay range year month day = some date
  studio : ∀ studio ∈ r.studioTitle, r.isScene = true ∧ studio ≠ []
  year : ∀ year ∈ r.year, r.isScene = false ∧ range.Contains year ∧ r.title ≠ []
  tokens : r.tokens = Title.tokens r.title

/-- A day of a style is a day in the accepted years. -/
theorem Parser.Dates.exists_normalizeDay {parser : Parser} {fragment date : Text}
    (h : parser.Dates fragment date) : ∃ year month day, parser.years.Contains year ∧
      normalizeDay parser.years year month day = some date := by
  obtain ⟨style, -, fields, -, day⟩ := h
  obtain ⟨contained, -⟩ := Calendar.normalizeDay_eq_some_iff.mp day
  exact ⟨fields.year + style.century, fields.month, fields.day, contained, day⟩

@[simp] theorem Recognition.title_toReading (raw : Text) (quality : Quality) (r : Recognition) :
    (r.toReading raw quality).title = r.title := by cases r <;> rfl

/-- The quality is noted beside the other fields. -/
theorem Recognition.toReading_setQuality (raw : Text) (quality quality' : Quality)
    (r : Recognition) :
    { r.toReading raw quality with quality := quality' } = r.toReading raw quality' := by
  cases r <;> rfl

section

variable {parser : Parser} {fragment date : Text} (raw : Text) (quality : Quality) (title : Text)

/-- A scene with a date is consistent, if its studio is not empty. -/
theorem isConsistent_scene {studio : Option Text} (dates : parser.Dates fragment date)
    (named : ∀ s ∈ studio, s ≠ []) :
    ((Recognition.scene studio date title).toReading raw quality).IsConsistent parser.years where
  isScene_iff := iff_of_true rfl rfl
  date _ h := Option.mem_some_iff.mp h ▸ dates.exists_normalizeDay
  studio s hs := ⟨rfl, named s hs⟩
  year _ h := absurd h (Option.not_mem_none _)
  tokens := rfl

/-- A film with a title is consistent, if its year is in the range. -/
theorem isConsistent_film (contained : range.Contains year) (named : title ≠ []) :
    ((Recognition.film title year).toReading raw quality).IsConsistent range where
  isScene_iff := iff_of_false Bool.false_ne_true Bool.false_ne_true
  date _ h := absurd h (Option.not_mem_none _)
  studio _ h := absurd h (Option.not_mem_none _)
  year _ h := Option.mem_some_iff.mp h ▸ ⟨rfl, contained, named⟩
  tokens := rfl

/-- A title alone is consistent. -/
theorem isConsistent_plain (range : YearRange) :
    ((Recognition.plain title).toReading raw quality).IsConsistent range where
  isScene_iff := iff_of_false Bool.false_ne_true Bool.false_ne_true
  date _ h := absurd h (Option.not_mem_none _)
  studio _ h := absurd h (Option.not_mem_none _)
  year _ h := absurd h (Option.not_mem_none _)
  tokens := rfl

end

theorem Parser.Reads.isConsistent {parser : Parser} {raw : Text} {r : Recognition}
    (reads : parser.Reads raw r) (quality : Quality) :
    (r.toReading raw quality).IsConsistent parser.years := by
  cases reads with
  | bracketed prepared dates =>
      obtain ⟨rest, leading, -⟩ := exists_rest_of_prepare prepared
      have named := (exists_opensWith_of_studioAndRest leading).1
      exact isConsistent_scene raw quality _ dates fun s hs => Option.mem_some_iff.mp hs ▸ named
  | leading prepared named dates =>
      exact isConsistent_scene raw quality _ dates fun s hs => Option.mem_some_iff.mp hs ▸ named
  | unnamed prepared empty dates =>
      exact isConsistent_scene raw quality _ dates fun s hs => absurd hs (Option.not_mem_none s)
  | film found =>
      obtain ⟨contained, named, -⟩ := of_film?_eq_some found
      exact isConsistent_film raw quality _ contained named
  | malformedDate => exact isConsistent_plain raw quality _ parser.years
  | plain => exact isConsistent_plain raw quality _ parser.years

/-- Only a blank name has a blank title, if it is no scene. -/
theorem Parser.Reads.isBlank_of_isBlank_title {parser : Parser} {raw : Text} {r : Recognition}
    (reads : parser.Reads raw r) {quality : Quality}
    (noScene : (r.toReading raw quality).isScene = false)
    (blank : ∀ c ∈ r.title, isBlank c = true) : ∀ c ∈ raw, isBlank c = true := by
  cases reads with
  | bracketed | leading | unnamed => exact absurd rfl (Bool.eq_false_iff.mp noScene)
  | film found =>
      obtain ⟨-, named, part, -, same⟩ := of_film?_eq_some found
      rw [Recognition.title, same] at blank
      exact absurd (same.trans (titleText_eq_nil_of_isBlank blank)) named
  | malformedDate | plain =>
      rw [Recognition.title] at blank
      exact isBlank_of_isBlank_wholeTitle blank

namespace Parser

/-- A name that is given or absent is read in one way, and the fields of the reading fit together.
A malformed date leaves it neither studio nor date nor year.  The title of a name that is no scene
is blank only if the name is.  What is detected changes nothing but the quality. -/
theorem parse_isConsistent (parser : Parser) (detection : Detection) (raw : Option Text) :
    (parser.parse detection (raw.getD [])).IsConsistent parser.years ∧
    (parser.HasMalformedDate (parser.prepare (raw.getD [])).body →
      (parser.parse detection (raw.getD [])).studioTitle = none ∧
      (parser.parse detection (raw.getD [])).releaseDate = none ∧
      (parser.parse detection (raw.getD [])).year = none) ∧
    ((parser.parse detection (raw.getD [])).isScene = false →
      (∀ c ∈ (parser.parse detection (raw.getD [])).title, isBlank c = true) →
      ∀ c ∈ raw.getD [], isBlank c = true) ∧
    ∀ detection', { parser.parse detection (raw.getD []) with quality := {} } =
      { parser.parse detection' (raw.getD []) with quality := {} } := by
  have reads := parser.reads_recognise (raw.getD [])
  unfold parse
  refine ⟨reads.isConsistent _, fun malformed => ?_, fun noScene blank => ?_, fun detection' => ?_⟩
  · rw [recognise_of_hasMalformedDate malformed]
    exact ⟨rfl, rfl, rfl⟩
  · rw [Recognition.title_toReading] at blank
    exact reads.isBlank_of_isBlank_title noScene blank
  · rw [Recognition.toReading_setQuality, Recognition.toReading_setQuality]

/-- A day 45 of a month 13 is malformed, and a name of blanks has a blank title. -/
theorem parse_malformed_and_blank :
    (({} : Parser).HasMalformedDate (({} : Parser).prepare "2020-13-45 Movie".toList).body ∧
      (({} : Parser).parse .off "2020-13-45 Movie".toList).studioTitle = none ∧
      (({} : Parser).parse .off "2020-13-45 Movie".toList).releaseDate = none ∧
      (({} : Parser).parse .off "2020-13-45 Movie".toList).year = none) ∧
    ((({} : Parser).parse .off "  ".toList).isScene = false ∧
      (∀ c ∈ (({} : Parser).parse .off "  ".toList).title, isBlank c = true) ∧
      ∀ c ∈ "  ".toList, isBlank c = true) := by
  have body : (({} : Parser).prepare "2020-13-45 Movie".toList).body =
      "2020-13-45 Movie".toList := by
    decide +kernel
  have found : ({} : Parser).dateIn "2020-13-45 Movie".toList = some ⟨0, 10, none⟩ := by
    decide +kernel
  have malformed :
      ({} : Parser).HasMalformedDate (({} : Parser).prepare "2020-13-45 Movie".toList).body := by
    rw [body]
    refine ⟨⟨DateShape.iso.style, by decide, 0, ⟨2020, 13, 45⟩, [], "2020-13-45".toList,
      " Movie".toList, by decide, rfl, ?_, by decide, by decide⟩, fun m hm => ?_⟩
    · exact .iso (s := '-') (y := "2020".toList) (m := "13".toList) (d := "45".toList) (by decide)
        ⟨rfl, by decide⟩ ⟨rfl, by decide⟩ ⟨rfl, by decide⟩
    · rw [found] at hm
      cases hm
      rfl
  have noScene : (({} : Parser).parse .off "  ".toList).isScene = false := by decide +kernel
  have blank : ∀ c ∈ (({} : Parser).parse .off "  ".toList).title, isBlank c = true := by
    decide +kernel
  exact ⟨⟨malformed, (parse_isConsistent {} .off (some "2020-13-45 Movie".toList)).2.1 malformed⟩,
    noScene, blank, (parse_isConsistent {} .off (some "  ".toList)).2.2.1 noScene blank⟩

end Parser

end ReleaseCatalog.Release
