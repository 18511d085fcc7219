import ReleaseCatalog.Proofs.Release.TagFragment
import ReleaseCatalog.Proofs.Text.Joining
import ReleaseCatalog.Proofs.Text.Needs
import ReleaseCatalog.Proofs.Unicode.Classes
import ReleaseCatalog.Release.TitleText

/-!
# Titles and studios of plain words

The words of most names are made of ASCII letters, joined by spaces, dots,
hyphens and low lines.  No step of the cleaning takes anything from such words
but the gaps between them: they have no brackets, they have no digits, which
every episode marker needs, and letters are never trimmed.  Only a technical
tag could be cut off.  So a title without one (`titleText_run_append`), and a
studio in any case (`studioText_append_run`), comes out as its words with single
spaces, however they were joined.
-/

namespace ReleaseCatalog.Release

open Text (IsWord IsRun JoinedBy unwords words_run_append words_append_run)
open Unicode (isBlank isDecimal isPunctuation)

/-! ## Plain words -/

/-- A word of ASCII letters. -/
def IsLetterWord (w : Text) : Prop := w ≠ [] ∧ ∀ c ∈ w, c.isAlpha = true

/-- The separators that join the words of a name. -/
def nameGaps : Text := [' ', '.', '-', '_']

theorem IsLetterWord.isWord {p : Char → Bool} (letter : ∀ {c : Char}, c.isAlpha = true → p c = false)
    {w : Text} (h : IsLetterWord w) : IsWord p w :=
  ⟨h.1, fun c hc => letter (h.2 c hc)⟩

theorem isSeparator_of_mem_nameGaps : ∀ c ∈ nameGaps, isSeparator c = true := by decide

/-- A text of nothing but letters and gaps. -/
def IsPlain (t : Text) : Prop := ∀ c ∈ t, c.isAlpha = true ∨ c ∈ nameGaps

theorem IsPlain.append {s t : Text} (hs : IsPlain s) (ht : IsPlain t) : IsPlain (s ++ t) := by
  intro c hc
  cases List.mem_append.mp hc with
  | inl h => exact hs c h
  | inr h => exact ht c h

theorem IsPlain.forall_eq_false {p : Char → Bool} {t : Text} (h : IsPlain t)
    (letter : ∀ {c : Char}, c.isAlpha = true → p c = false) (gap : ∀ c ∈ nameGaps, p c = false) :
    ∀ c ∈ t, p c = false := by
  intro c hc
  cases h c hc with
  | inl alpha => exact letter alpha
  | inr mem => exact gap c mem

theorem isPlain_of_isRun {run : Text} (h : IsRun nameGaps run) : IsPlain run :=
  fun c hc => .inr (h.2 c hc)

/-- Letter words are plain, however they are joined by gaps. -/
theorem isPlain_of_joinedBy {ws : List Text} {t : Text} (joined : JoinedBy nameGaps ws t)
    (letters : ∀ w ∈ ws, IsLetterWord w) : IsPlain t := by
  intro c hc
  rcases joined.mem_word_or_mem_gaps hc with ⟨w, hw, hc⟩ | hc
  · exact .inl ((letters w hw).2 c hc)
  · exact .inr hc

theorem isStray_eq_false_of_isAlpha {c : Char} (h : c.isAlpha = true) : isStray c = false := by
  refine Bool.eq_false_iff.mpr fun stray => ?_
  simp only [isStray, Bool.or_eq_true, beq_iff_eq] at stray
  rcases stray with (((((((rfl | rfl) | rfl) | rfl) | rfl) | rfl) | rfl) | rfl) | rfl
  all_goals revert h; decide

theorem isTitleEdge_eq_false_of_isAlpha {c : Char} (h : c.isAlpha = true) :
    isTitleEdge c = false := by
  refine Bool.eq_false_iff.mpr fun edge => ?_
  simp only [isTitleEdge, Bool.or_eq_true, beq_iff_eq] at edge
  rcases edge with ((rfl | rfl) | rfl) | rfl
  all_goals revert h; decide

theorem isStray_eq_false_of_isDecimal {c : Char} (h : isDecimal c = true) : isStray c = false := by
  refine Bool.eq_false_iff.mpr fun stray => ?_
  simp only [isStray, Bool.or_eq_true, beq_iff_eq] at stray
  rcases stray with (((((((rfl | rfl) | rfl) | rfl) | rfl) | rfl) | rfl) | rfl) | rfl
  all_goals revert h; decide

theorem isTitleEdge_eq_false_of_isDecimal {c : Char} (h : isDecimal c = true) :
    isTitleEdge c = false := by
  refine Bool.eq_false_iff.mpr fun edge => ?_
  simp only [isTitleEdge, Bool.or_eq_true, beq_iff_eq] at edge
  rcases edge with ((rfl | rfl) | rfl) | rfl
  all_goals revert h; decide

/-- A word of ASCII letters and decimal digits. -/
def IsTitleWord (w : Text) : Prop := w ≠ [] ∧ ∀ c ∈ w, c.isAlpha = true ∨ isDecimal c = true

theorem IsLetterWord.isTitleWord {w : Text} (h : IsLetterWord w) : IsTitleWord w :=
  ⟨h.1, fun c hc => .inl (h.2 c hc)⟩

theorem IsTitleWord.isWord {p : Char → Bool} (letter : ∀ {c : Char}, c.isAlpha = true → p c = false)
    (digit : ∀ {c : Char}, isDecimal c = true → p c = false) {w : Text} (h : IsTitleWord w) :
    IsWord p w := by
  refine ⟨h.1, fun c hc => ?_⟩
  cases h.2 c hc with
  | inl alpha => exact letter alpha
  | inr decimal => exact digit decimal

/-! ## Steps that leave plain words alone -/

theorem blankStray_eq_self {t : Text} (h : ∀ c ∈ t, isStray c = false) : blankStray t = t := by
  unfold blankStray
  refine (List.map_congr_left fun c hc => ?_).trans (List.map_id t)
  rw [if_neg (Bool.eq_false_iff.mp (h c hc)), id]

theorem needs_volumeMarker : Reader.Needs isDecimal volumeMarker := by
  refine Reader.Needs.all [_, _, _] ?_ (Reader.needs_many1 isDecimal)
  intro f hf
  simp only [List.mem_cons, List.not_mem_nil, or_false] at hf
  rcases hf with rfl | rfl | rfl
  · exact Reader.shortens_word _
  · exact (Reader.shortens_word _).optional
  · exact Reader.shortens_many _

theorem needs_seasonMarker : Reader.Needs isDecimal seasonMarker := by
  refine Reader.Needs.all [_] ?_ (Reader.needs_between isDecimal 0 2)
  intro f hf
  rw [List.mem_singleton.mp hf]
  exact Reader.shortens_word _

theorem needs_episodeMarker : Reader.Needs isDecimal episodeMarker := by
  refine Reader.Needs.all [_, _] ?_ (Reader.needs_many1 isDecimal)
  intro f hf
  simp only [List.mem_cons, List.not_mem_nil, or_false] at hf
  rcases hf with rfl | rfl
  · refine Reader.Shortens.choice fun r hr => ?_
    simp only [List.mem_cons, List.not_mem_nil, or_false] at hr
    rcases hr with rfl | rfl | rfl
    all_goals exact Reader.shortens_word _
  · exact Reader.shortens_many _

/-- Every episode marker has a number, so a text without digits has none. -/
theorem blankMarkers_eq_self {t : Text} (h : ∀ c ∈ t, isDecimal c = false) :
    blankMarkers t = t := by
  refine Finder.replaceAll_eq_self (Reader.Needs.occurrences_eq_nil ?_ isWordEdge h)
  refine Reader.Needs.seq_left (Reader.Needs.choice fun r hr => ?_)
  simp only [List.mem_cons, List.not_mem_nil, or_false] at hr
  rcases hr with rfl | rfl | rfl
  · exact needs_volumeMarker
  · exact needs_seasonMarker
  · exact needs_episodeMarker

theorem beforeTail_eq_self {t : Text} (h : (boundedTag technicalTag).occurrences t = []) :
    beforeTail t = t := by
  unfold beforeTail
  rw [h]
  rfl

/-! ## Titles and studios -/

variable {ws : List Text} {t run : Text}

theorem nameWords_eq (joined : JoinedBy nameGaps ws t) (letters : ∀ w ∈ ws, IsLetterWord w) :
    Text.words isSeparator t = ws :=
  joined.words_eq isSeparator_of_mem_nameGaps fun w hw =>
    (letters w hw).isWord isSeparator_eq_false_of_isAlpha

theorem blankStray_eq_self_of_isPlain (h : IsPlain t) : blankStray t = t :=
  blankStray_eq_self (h.forall_eq_false isStray_eq_false_of_isAlpha (by decide))

theorem joinedBy_ne_nil (joined : JoinedBy nameGaps ws t) : ws ≠ [] := by
  cases joined
  all_goals exact List.cons_ne_nil _ _

/-- A title without technical tags and episode markers comes out as its words with single spaces,
whatever else stood between them. -/
theorem titleText_eq_unwords (untagged : (boundedTag technicalTag).occurrences (blankStray t) = [])
    (cut : Text.words isSeparator (blankStray t) = ws) (nonempty : ws ≠ [])
    (title : ∀ w ∈ ws, IsTitleWord w) (unmarked : blankMarkers (unwords ws) = unwords ws) :
    titleText t = unwords ws := by
  have spaced : JoinedBy [' '] ws (unwords ws) := Text.joinedBy_unwords nonempty
  have line : Text.spacedWords (blankStray t) = unwords ws := congrArg unwords cut
  have collapsed : Text.collapse isBlank (unwords ws) = unwords ws := by
    unfold Text.collapse
    rw [spaced.words_eq (by decide) fun w hw => (title w hw).isWord
      Unicode.isBlank_eq_false_of_isAlpha Unicode.isBlank_eq_false_of_isDecimal]
  simp only [titleText]
  rw [beforeTail_eq_self untagged, line, unmarked, collapsed]
  exact Text.trim_eq_self (spaced.endsWithout fun w hw => (title w hw).isWord
    isTitleEdge_eq_false_of_isAlpha isTitleEdge_eq_false_of_isDecimal)

/-- Words of letters have no episode markers. -/
theorem blankMarkers_unwords (nonempty : ws ≠ []) (letters : ∀ w ∈ ws, IsLetterWord w) :
    blankMarkers (unwords ws) = unwords ws := by
  have plain : IsPlain (unwords ws) :=
    isPlain_of_joinedBy ((Text.joinedBy_unwords nonempty).mono (by decide)) letters
  exact blankMarkers_eq_self
    (plain.forall_eq_false Unicode.isDecimal_eq_false_of_isAlpha (by decide))

/-- A title of letter words without a technical tag comes out as its words with
single spaces, whatever gaps join them or stand in front. -/
theorem titleText_run_append (isRun : IsRun nameGaps run) (joined : JoinedBy nameGaps ws t)
    (letters : ∀ w ∈ ws, IsLetterWord w)
    (untagged : (boundedTag technicalTag).occurrences t = []) :
    titleText (run ++ t) = unwords ws := by
  have plain : IsPlain (run ++ t) :=
    (isPlain_of_isRun isRun).append (isPlain_of_joinedBy joined letters)
  have clean : blankStray (run ++ t) = run ++ t := blankStray_eq_self_of_isPlain plain
  refine titleText_eq_unwords ?_ ?_ (joinedBy_ne_nil joined)
    (fun w hw => (letters w hw).isTitleWord)
    (blankMarkers_unwords (joinedBy_ne_nil joined) letters)
  · rw [clean, technicalTags_eq_nil_iff]
    exact fun tagged => technicalTags_eq_nil_iff.mp untagged
      (tagged.of_run_append fun c hc => isSeparator_of_mem_nameGaps c (isRun.2 c hc))
  · rw [clean, words_run_append fun c hc => isSeparator_of_mem_nameGaps c (isRun.2 c hc),
      nameWords_eq joined letters]

/-- A studio of letter words comes out as its words with single spaces. -/
theorem studioText_append_run (isRun : IsRun nameGaps run) (joined : JoinedBy nameGaps ws t)
    (letters : ∀ w ∈ ws, IsLetterWord w) : studioText (t ++ run) = unwords ws := by
  have plain : IsPlain (t ++ run) :=
    (isPlain_of_joinedBy joined letters).append (isPlain_of_isRun isRun)
  have line : Text.spacedWords (t ++ run) = unwords ws := by
    unfold Text.spacedWords Text.collapse
    rw [words_append_run fun c hc => isSeparator_of_mem_nameGaps c (isRun.2 c hc),
      nameWords_eq joined letters]
  have spaced : JoinedBy [' '] ws (unwords ws) := Text.joinedBy_unwords (joinedBy_ne_nil joined)
  unfold studioText Title.trimPunctuation Text.trimBlank
  rw [blankStray_eq_self_of_isPlain plain, line,
    Text.trim_eq_self (spaced.endsWithout fun w hw =>
      (letters w hw).isWord Unicode.isPunctuation_eq_false_of_isAlpha)]
  exact Text.trim_eq_self (spaced.endsWithout fun w hw =>
    (letters w hw).isWord Unicode.isBlank_eq_false_of_isAlpha)

/-- Letter words, however they are joined, do not begin or end with a blank. -/
theorem endsWithout_isBlank (joined : JoinedBy nameGaps ws t)
    (letters : ∀ w ∈ ws, IsLetterWord w) : Text.EndsWithout isBlank t :=
  joined.endsWithout fun w hw => (letters w hw).isWord Unicode.isBlank_eq_false_of_isAlpha

theorem joined_ne_nil {gaps : Text} (joined : JoinedBy gaps ws t)
    (letters : ∀ w ∈ ws, IsLetterWord w) : t ≠ [] :=
  joined.ne_nil fun w hw => (letters w hw).1

end ReleaseCatalog.Release
