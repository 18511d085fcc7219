import ReleaseCatalog.Proofs.Release.MarkerPlaces
import ReleaseCatalog.Proofs.Release.QualityWords
import ReleaseCatalog.Proofs.Release.Recognition
import ReleaseCatalog.Proofs.Release.TailCut
import ReleaseCatalog.Proofs.Text.WordPlaces

/-!
# Quality tags in titles

The technical tail is cut before a title is spaced, its episode markers are removed and its ends
are trimmed.  So what is kept of a name has no quality tag, and yet its title may have one.

A tag of one word comes into a title only where a mark stood beside it: a mark at the end that is
trimmed, or the colon of an episode marker (`hasMarkedTag_of_unmarkedLine`).  Going back from the
title to the name, a word stays in its place through each step.  Neither a separator nor a word
character can stand there, or the tag would have been cut, or no word of its own.

A tag of two words may have no low line between them and no more than one separator.  If it has,
it is *torn* in the name, and spacing mends it.  Without marks and markers this is the only way
(`hasTag_spacedWords_iff`).
-/

namespace ReleaseCatalog.Release

open Text (IsWord)
open Unicode (isBlank)

variable {t part before tag after : Text}

/-! ## Marks -/

/-- Whether a character is a mark that a title loses at its ends. -/
def isMark (c : Char) : Bool := c == ':' || c == ';' || c == ','

/-- Whether the character beside a place, if there is one, is a separator or a mark. -/
def isLooseBoundary (c : Option Char) : Bool := c.all fun c => isSeparator c || isMark c

theorem isLooseBoundary_of_isTitleEdge {c : Char} (h : isTitleEdge c = true) :
    (isSeparator c || isMark c) = true := by
  unfold isTitleEdge at h
  simp only [Bool.or_eq_true, beq_iff_eq] at h
  rcases h with ((rfl | rfl) | rfl) | rfl
  all_goals decide

/-- Where no mark stands, a separator or an end does. -/
theorem isTagBoundary_of_isLooseBoundary {c : Option Char} (loose : isLooseBoundary c = true)
    (unmarked : c.any isMark = false) : isTagBoundary c = true := by
  cases c with
  | none => rfl
  | some c => exact (Bool.or_eq_true_iff.mp loose).resolve_right (Bool.eq_false_iff.mp unmarked)

/-- A quality tag with a mark beside it, and nothing else beside it but marks, separators and
ends. -/
def HasMarkedTag (t : Text) : Prop :=
  ∃ before tag after, t = before ++ tag ++ after ∧ qualityTag.Reads tag ∧
    isLooseBoundary before.getLast? = true ∧ isLooseBoundary after.head? = true ∧
    (before.getLast?.any isMark = true ∨ after.head?.any isMark = true)

/-- A quality tag of two words with a space, and nothing beside it but marks, separators and
ends. -/
def HasSpacedTag (t : Text) : Prop :=
  ∃ before a b after, t = before ++ (a ++ ' ' :: b) ++ after ∧ qualityTag.Reads (a ++ ' ' :: b) ∧
    isLooseBoundary before.getLast? = true ∧ isLooseBoundary after.head? = true

/-- Two words that are a quality tag with a space between them.  Between them stand separators,
but not a single hyphen, dot or space. -/
def HasTornTag (t : Text) : Prop :=
  ∃ before a gap b after, t = before ++ a ++ gap ++ b ++ after ∧
    qualityTag.Reads (a ++ ' ' :: b) ∧ gap ≠ [] ∧ (∀ c ∈ gap, isSeparator c = true) ∧
    (∀ c ∈ ['-', '.', ' '], gap ≠ [c]) ∧
    isTagBoundary before.getLast? = true ∧ isTagBoundary after.head? = true

/-! ## From a title back to its part -/

/-- What a title keeps of a part of a name, as the part has it. -/
def keptPart (part : Text) : Text := beforeTail (blankStray part)

/-- The words of the kept part with single spaces, without episode markers. -/
def unmarkedLine (part : Text) : Text :=
  Text.collapse isBlank (blankMarkers (Text.spacedWords (keptPart part)))

theorem titleText_eq_trim (part : Text) :
    titleText part = Text.trim isTitleEdge (unmarkedLine part) := rfl

/-- A quality tag of a trimmed text stands in the text, perhaps beside marks that were trimmed. -/
theorem exists_place_of_trim (h : HasTag qualityTag (Text.trim isTitleEdge t)) :
    ∃ before tag after, t = before ++ tag ++ after ∧ qualityTag.Reads tag ∧
      isLooseBoundary before.getLast? = true ∧ isLooseBoundary after.head? = true := by
  obtain ⟨before, tag, after, kept, reads, opens, closes⟩ := h
  obtain ⟨front, back, split, edges, edges'⟩ := Text.exists_trim_split isTitleEdge t
  have loose : ∀ c, isSeparator c = true → (isSeparator c || isMark c) = true := by
    intro c separator
    rw [separator, Bool.true_or]
  rw [kept] at split
  refine ⟨front ++ before, tag, after ++ back, by rw [split]; simp, reads, ?_, ?_⟩
  · by_cases empty : before = []
    · rw [empty, List.append_nil]
      cases last : front.getLast? with
      | none => rfl
      | some c => exact isLooseBoundary_of_isTitleEdge (edges c (List.mem_of_getLast? last))
    · rw [List.getLast?_append_of_ne_nil _ empty]
      exact Text.all_mono loose opens
  · by_cases empty : after = []
    · rw [empty, List.nil_append]
      cases first : back.head? with
      | none => rfl
      | some c => exact isLooseBoundary_of_isTitleEdge (edges' c (List.mem_of_head? first))
    · rw [List.head?_append_of_ne_nil _ empty]
      exact Text.all_mono loose closes

/-- A line without markers has spaces and characters of the kept part that are no separators. -/
theorem eq_space_or_of_mem_unmarkedLine {c : Char} (h : c ∈ unmarkedLine part) :
    c = ' ' ∨ c ∈ keptPart part ∧ isSeparator c = false := by
  rcases Text.eq_space_or_of_mem_collapse h with space | ⟨blanked, -⟩
  · exact .inl space
  rcases eq_space_or_mem_of_mem_blankMarkers blanked with space | spaced
  · exact .inl space
  · exact Text.eq_space_or_of_mem_collapse spaced

/-- A separator in a line without markers is a space. -/
theorem eq_space_of_mem_unmarkedLine {c : Char} (h : c ∈ unmarkedLine part)
    (separator : isSeparator c = true) : c = ' ' :=
  (eq_space_or_of_mem_unmarkedLine h).resolve_right fun kept =>
    Bool.eq_false_iff.mp kept.2 separator

/-- A quality tag of one word that stands in the line without markers stands in the kept part. -/
theorem exists_place_of_unmarkedLine (line : unmarkedLine part = before ++ tag ++ after)
    (reads : qualityTag.Reads tag) (word : IsWord isSeparator tag)
    (opens : isLooseBoundary before.getLast? = true)
    (closes : isLooseBoundary after.head? = true) :
    ∃ before after, keptPart part = before ++ tag ++ after ∧
      isLooseBoundary before.getLast? = true ∧ isLooseBoundary after.head? = true := by
  have wordBlank : IsWord isBlank tag := word.mono fun _ => isSeparator_of_isBlank
  have space : ' ' ∉ tag := fun member => Bool.eq_false_iff.mp (word.2 ' ' member) (by decide)
  obtain ⟨head, last⟩ := any_isWordChar_of_reads reads
  obtain ⟨x, y, blanked, opens, closes⟩ := Text.exists_place_of_collapse (by decide)
    (fun c blank => by rw [isSeparator_of_isBlank blank, Bool.true_or]) wordBlank line opens closes
  obtain ⟨x', y', spaced, edge, edge'⟩ := exists_place_of_blankMarkers blanked space head last
  have opens' : isLooseBoundary x'.getLast? = true := by
    rcases edge with same | colon
    · rw [same]
      exact opens
    · rw [colon]
      decide
  have closes' : isLooseBoundary y'.head? = true := by
    rw [edge']
    exact closes
  exact Text.exists_place_of_collapse (by decide)
    (fun c separator => by rw [separator, Bool.true_or]) word spaced opens' closes'

/-- A mark stands beside such a tag in the kept part, or it would have been cut with the tail. -/
theorem hasMarkedTag_of_unmarkedLine (line : unmarkedLine part = before ++ tag ++ after)
    (reads : qualityTag.Reads tag) (word : IsWord isSeparator tag)
    (opens : isLooseBoundary before.getLast? = true)
    (closes : isLooseBoundary after.head? = true) : HasMarkedTag (keptPart part) := by
  obtain ⟨before, after, kept, opens, closes⟩ :=
    exists_place_of_unmarkedLine line reads word opens closes
  refine ⟨before, tag, after, kept, reads, opens, closes, ?_⟩
  by_contra unmarked
  rw [not_or, Bool.not_eq_true, Bool.not_eq_true] at unmarked
  refine not_hasTag_beforeTail (blankStray part) ⟨before, tag, after, kept, reads, ?_, ?_⟩
  · exact isTagBoundary_of_isLooseBoundary opens unmarked.1
  · exact isTagBoundary_of_isLooseBoundary closes unmarked.2

/-- A quality tag comes into a title in two ways: beside a mark, or of two words with a space. -/
theorem hasMarkedTag_or_hasSpacedTag (h : HasTag qualityTag (titleText part)) :
    HasMarkedTag (keptPart part) ∨ HasSpacedTag (unmarkedLine part) := by
  rw [titleText_eq_trim] at h
  obtain ⟨before, tag, after, line, reads, opens, closes⟩ := exists_place_of_trim h
  have spaces : ∀ c ∈ tag, isSeparator c = true → c = ' ' := by
    intro c hc
    exact eq_space_of_mem_unmarkedLine (by rw [line]; simp [hc])
  rcases isWord_or_exists_space_of_reads reads spaces with word | ⟨a, b, rfl⟩
  · exact .inl (hasMarkedTag_of_unmarkedLine line reads word opens closes)
  · exact .inr ⟨before, a, b, after, line, reads, opens, closes⟩

/-! ## Torn tags -/

/-- A quality tag that a text without quality tags gets by spacing its words is torn in it. -/
theorem hasTornTag_of_spacedWords (untagged : ¬ HasTag qualityTag t)
    (tagged : HasTag qualityTag (Text.spacedWords t)) : HasTornTag t := by
  have cut : Text.words isSeparator (Text.spacedWords t) = Text.words isSeparator t :=
    Text.words_collapse (by decide) t
  obtain ⟨before, tag, after, line, reads, opens, closes⟩ := tagged
  have spaces : ∀ c ∈ tag, isSeparator c = true → c = ' ' := by
    intro c hc separator
    have member : c ∈ Text.spacedWords t := by
      rw [line]
      simp [hc]
    rcases Text.eq_space_or_of_mem_collapse member with space | ⟨-, other⟩
    · exact space
    · rw [separator] at other
      cases other
  rcases isWord_or_exists_space_of_reads reads spaces with word | ⟨a, b, rfl⟩
  · rw [line, Text.words_place word opens closes] at cut
    obtain ⟨x, y, rfl, -, -, opens, closes⟩ := Text.exists_place_of_words_eq cut.symm
    exact absurd ⟨x, tag, y, rfl, reads, opens, closes⟩ untagged
  · obtain ⟨word, word'⟩ := isWord_of_reads_append reads (by decide)
    have space : ∀ c ∈ [' '], isSeparator c = true := by decide
    rw [line, show before ++ (a ++ ' ' :: b) ++ after = before ++ a ++ [' '] ++ b ++ after by simp,
      Text.words_places word word' (List.cons_ne_nil _ _) space opens closes] at cut
    obtain ⟨x, gap, y, rfl, nonempty, separators, opens, closes⟩ :=
      Text.exists_places_of_words_eq cut.symm
    refine ⟨x, a, gap, b, y, rfl, reads, nonempty, separators, fun c hc single => ?_, opens, closes⟩
    refine untagged ⟨x, a ++ c :: b, y, ?_, reads_append_of_space reads hc, opens, closes⟩
    rw [single]
    simp

/-- Spacing the words mends a torn tag. -/
theorem HasTornTag.hasTag_spacedWords (torn : HasTornTag t) :
    HasTag qualityTag (Text.spacedWords t) := by
  obtain ⟨x, a, gap, b, y, rfl, reads, nonempty, separators, -, opens, closes⟩ := torn
  obtain ⟨word, word'⟩ := isWord_of_reads_append reads (by decide)
  have spaced : Text.unwords [a, b] = a ++ ' ' :: b := by
    simp [Text.unwords, Text.join, List.intercalate_cons_cons]
  obtain ⟨before, after, line, opens', closes'⟩ := Text.exists_place_of_unwords
    (Text.words isSeparator x) (Text.words isSeparator y) (List.cons_ne_nil a [b])
  have space : ∀ c : Char, (c == ' ') = true → isSeparator c = true := by
    intro c same
    rw [beq_iff_eq.mp same]
    decide
  refine ⟨before, a ++ ' ' :: b, after, ?_, reads, Text.all_mono space opens',
    Text.all_mono space closes'⟩
  rw [← spaced, ← line, Text.spacedWords, Text.collapse,
    Text.words_places word word' nonempty separators opens closes]
  simp

/-- A text without quality tags gets one by spacing its words exactly if one is torn in it. -/
theorem hasTag_spacedWords_iff (untagged : ¬ HasTag qualityTag t) :
    HasTag qualityTag (Text.spacedWords t) ↔ HasTornTag t :=
  ⟨hasTornTag_of_spacedWords untagged, HasTornTag.hasTag_spacedWords⟩

/-- Without marks and markers a title is the line of its words. -/
theorem titleText_eq_spacedWords (unmarked : ∀ c ∈ keptPart part, isMark c = false)
    (noMarkers : blankMarkers (Text.spacedWords (keptPart part)) =
      Text.spacedWords (keptPart part)) :
    titleText part = Text.spacedWords (keptPart part) := by
  rw [titleText_eq_trim, unmarkedLine, noMarkers]
  unfold Text.spacedWords Text.collapse
  by_cases none : Text.words isSeparator (keptPart part) = []
  · rw [none]
    rfl
  · have joined := Text.joinedBy_unwords none
    have solid : ∀ {p : Char → Bool}, (∀ c, p c = true → isSeparator c = true ∨ isMark c = true) →
        ∀ w ∈ Text.words isSeparator (keptPart part), IsWord p w := by
      intro p excluded w hw
      refine ⟨Text.ne_nil_of_mem_words hw, fun c hc => Bool.eq_false_iff.mpr fun holds => ?_⟩
      obtain ⟨member, other⟩ := Text.of_mem_word hw hc
      cases excluded c holds with
      | inl separator => exact Bool.eq_false_iff.mp other separator
      | inr mark => exact Bool.eq_false_iff.mp (unmarked c member) mark
    rw [joined.words_eq (by decide) (solid fun c blank => .inl (isSeparator_of_isBlank blank))]
    exact Text.trim_eq_self (joined.endsWithout
      (solid fun c edge => Bool.or_eq_true_iff.mp (isLooseBoundary_of_isTitleEdge edge)))

/-! ## Titles of names -/

/-- The parts of a prepared name that a title is read from: what stands behind a date or around it,
or a part of what stands before the technical tail. -/
inductive TitlePart (body : Text) : Text → Prop where
  | behind {front back : Text} : body = front ++ back → TitlePart body back
  | around {front date back : Text} : body = front ++ date ++ back →
      TitlePart body (front ++ [' '] ++ back)
  | inside {part : Text} : part <:+: beforeTail body → TitlePart body part

/-- The title of a scene or a film is read from a part of the prepared name. -/
theorem Parser.Reads.exists_titlePart {parser : Parser} {raw : Text} {r : Recognition}
    (reads : parser.Reads raw r) {quality : Quality}
    (said : (r.toReading raw quality).isScene = true ∨ (r.toReading raw quality).isFilm = true) :
    ∃ part, TitlePart (parser.prepare raw).body part ∧ r.title = titleText part := by
  cases reads with
  | @bracketed studio before fragment after date prepared dates =>
      refine ⟨before ++ [' '] ++ after, ?_, by rw [Recognition.title]⟩
      rw [prepared]
      exact .around rfl
  | @leading before fragment after date prepared named dates =>
      refine ⟨after, ?_, by rw [Recognition.title]⟩
      rw [prepared]
      exact .behind rfl
  | @unnamed before fragment after date prepared empty dates =>
      refine ⟨after, ?_, by rw [Recognition.title]⟩
      rw [prepared]
      exact .behind rfl
  | film found =>
      obtain ⟨-, -, part, inside, same⟩ := of_film?_eq_some found
      exact ⟨part, .inside inside, same⟩
  | malformedDate | plain =>
      rcases said with scene | film
      · cases scene
      · cases film

namespace Parser

variable {parser : Parser} {raw : Text}

/-- The title of a scene or a film is read from a part of the prepared name.  What is kept of a part
has no quality tag.  A quality tag of its title stood beside a mark in what is kept, or it is of two
words with a space in the line without episode markers.  If there are no marks and no markers, the
title has a quality tag exactly if one is torn in what is kept. -/
theorem quality_tags_of_title (detection : Detection)
    (said : (parser.parse detection raw).isScene = true ∨
      (parser.parse detection raw).isFilm = true) :
    (∃ part, TitlePart (parser.prepare raw).body part ∧
      (parser.parse detection raw).title = titleText part) ∧
    ∀ part, ¬ HasTag qualityTag (keptPart part) ∧
      (HasTag qualityTag (titleText part) →
        HasMarkedTag (keptPart part) ∨ HasSpacedTag (unmarkedLine part)) ∧
      ((∀ c ∈ keptPart part, isMark c = false) →
        blankMarkers (Text.spacedWords (keptPart part)) = Text.spacedWords (keptPart part) →
        (HasTag qualityTag (titleText part) ↔ HasTornTag (keptPart part))) := by
  constructor
  · unfold parse at said ⊢
    rw [Recognition.title_toReading]
    exact (parser.reads_recognise raw).exists_titlePart said
  · intro part
    have untagged := not_hasTag_beforeTail (blankStray part)
    refine ⟨untagged, hasMarkedTag_or_hasSpacedTag, fun unmarked noMarkers => ?_⟩
    rw [titleText_eq_spacedWords unmarked noMarkers]
    exact hasTag_spacedWords_iff untagged

/-- A low line tears a quality tag, which the title has. -/
theorem quality_tags_of_web_dl :
    let reading := ({} : Parser).parse .off "Studio_2021_01_08_Title_WEB_DL".toList
    let part := "_Title_WEB_DL".toList
    reading.isScene = true ∧ reading.title = titleText part ∧
      (∀ c ∈ keptPart part, isMark c = false) ∧
      blankMarkers (Text.spacedWords (keptPart part)) = Text.spacedWords (keptPart part) ∧
      HasTornTag (keptPart part) ∧ HasTag qualityTag (titleText part) := by
  intro reading part
  have scene : reading.isScene = true := by decide +kernel
  have unmarked : ∀ c ∈ keptPart part, isMark c = false := by decide +kernel
  have noMarkers : blankMarkers (Text.spacedWords (keptPart part)) =
      Text.spacedWords (keptPart part) := by decide +kernel
  have kept : keptPart part = "_Title_WEB_DL".toList := by decide +kernel
  have torn : HasTornTag (keptPart part) := by
    rw [kept]
    have reads : qualityTag.Reads ("WEB".toList ++ ' ' :: "DL".toList) :=
      Reader.readsAll_iff.mp (by decide +kernel)
    exact ⟨"_Title_".toList, "WEB".toList, ['_'], "DL".toList, [], by decide, reads, by decide,
      by decide, by decide, by decide, by decide⟩
  obtain ⟨-, titles⟩ := quality_tags_of_title .off (.inl scene)
  exact ⟨scene, by decide +kernel, unmarked, noMarkers, torn,
    ((titles part).2.2 unmarked noMarkers).mpr torn⟩

/-- Quality tags stay in titles behind a low line, before a comma and behind the colon of an episode
marker. -/
theorem quality_tag_in_title :
    let read (raw : String) := ({} : Parser).parse .off raw.toList
    let torn := read "Studio_2021_01_08_Title_WEB_DL"
    let trimmed := read "Studio.2021.01.08.Title.1080p,"
    let unmarked := read "Studio.2021.01.08.Title.E2:1080p"
    (torn.isScene = true ∧ torn.title = "Title WEB DL".toList ∧
      HasTag qualityTag torn.title) ∧
    (trimmed.isScene = true ∧ trimmed.title = "Title 1080p".toList ∧
      HasTag qualityTag trimmed.title) ∧
    (unmarked.isScene = true ∧ unmarked.title = "Title 1080p".toList ∧
      HasTag qualityTag unmarked.title) := by
  intro read torn trimmed unmarked
  have behind : ∀ {title tag : Text}, title = "Title ".toList ++ tag →
      qualityTag.readsAll tag = true → HasTag qualityTag title := by
    intro title tag split reads
    refine ⟨"Title ".toList, tag, [], ?_, Reader.readsAll_iff.mp reads, by decide, rfl⟩
    rw [split, List.append_nil]
  have tornTitle : torn.title = "Title WEB DL".toList := by decide +kernel
  have trimmedTitle : trimmed.title = "Title 1080p".toList := by decide +kernel
  have unmarkedTitle : unmarked.title = "Title 1080p".toList := by decide +kernel
  have resolution : qualityTag.readsAll "1080p".toList = true := by decide +kernel
  have source : qualityTag.readsAll "WEB DL".toList = true := by decide +kernel
  exact ⟨⟨by decide +kernel, tornTitle, behind tornTitle source⟩,
    ⟨by decide +kernel, trimmedTitle, behind trimmedTitle resolution⟩,
    ⟨by decide +kernel, unmarkedTitle, behind unmarkedTitle resolution⟩⟩

end Parser

end ReleaseCatalog.Release
