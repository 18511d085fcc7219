import Mathlib.Data.List.Chain
import ReleaseCatalog.Proofs.Release.Provenance
import ReleaseCatalog.Proofs.Release.TitleTags

/-!
# Tidy titles and studios

A line of words has no blank characters but single spaces, and a part of it whose ends were
trimmed has none but between other characters (`isSpaced_of_isInfix`).  Titles and studios are
such parts: brackets, slashes, tags and episode markers leave spaces behind, and the words are
spaced after that.

So a title that was cleaned is *tidy* wherever it stood in the name (`isTidyTitle_titleText`),
and so is a studio, before the date as well as in brackets.  An untidy title is that of a name
of which cleaning leaves nothing, and which is its own title.
-/

namespace ReleaseCatalog.Release

open Text (EndsWithout IsWord)
open Unicode (isBlank)

variable {separator : Char → Bool} {part s t : Text}

/-! ## Single spaces -/

/-- At most one of two characters is blank. -/
def Apart (c d : Char) : Prop := isBlank c = false ∨ isBlank d = false

/-- The blank characters of a text are single spaces between other characters. -/
structure IsSpaced (t : Text) : Prop where
  space : ∀ c ∈ t, isBlank c = true → c = ' '
  apart : t.IsChain Apart
  ends : EndsWithout isBlank t

/-- No two of the blank characters in a line of words stand side by side. -/
theorem isChain_unwords {ws : List Text} (word : ∀ w ∈ ws, IsWord isBlank w) :
    (Text.unwords ws).IsChain Apart := by
  induction ws with
  | nil => exact .nil
  | cons w ws ih =>
      have solid := (word w List.mem_cons_self).2
      have others : ∀ v ∈ ws, IsWord isBlank v := fun v hv => word v (List.mem_cons_of_mem w hv)
      have first : w.IsChain Apart :=
        (List.pairwise_iff_forall_sublist.mpr fun pair =>
          .inl (solid _ (pair.subset List.mem_cons_self))).isChain
      by_cases last : ws = []
      · rwa [last, Text.unwords, Text.join, List.intercalate_singleton]
      · rw [← List.singleton_append, Text.unwords_append (List.cons_ne_nil w []) last,
          Text.unwords, Text.join, List.intercalate_singleton]
        -- On both sides of the space stands a character of a word.
        have behind := ((Text.joinedBy_unwords last).endsWithout others).1
        refine first.append ((ih others).cons fun d hd => .inr (behind d hd)) fun c hc _ _ => ?_
        exact .inl (solid c (List.mem_of_mem_getLast? hc))

/-- What is left of spaced words, once its ends are no blanks, is spaced. -/
theorem isSpaced_of_isInfix (separates : ∀ c, isBlank c = true → separator c = true)
    (inside : s <:+: Text.collapse separator t) (ends : EndsWithout isBlank s) : IsSpaced s where
  space c hc blank :=
    (Text.eq_space_or_of_mem_collapse (inside.subset hc)).resolve_right fun other =>
      Bool.eq_false_iff.mp other.2 (separates c blank)
  apart := by
    have line : (Text.collapse separator t).IsChain Apart :=
      isChain_unwords fun w hw => (Text.isWord_of_mem_words hw).mono separates
    obtain ⟨front, back, split⟩ := inside
    rw [← split] at line
    exact line.left_of_append.right_of_append
  ends := ends

/-! ## Titles -/

/-- A title in normal form. -/
structure IsTidyTitle (t : Text) : Prop where
  spaced : IsSpaced t
  /-- No brackets, slashes and separators of names are left. -/
  unmarked : ∀ c ∈ t, c ∉ "()[]\x7b\x7d/|\\._-".toList
  /-- Nor are marks at the ends. -/
  ends : ∀ c ∈ [' ', ':', ';', ','], t.head? ≠ some c ∧ t.getLast? ≠ some c

theorem isStray_eq_false_of_mem_blankStray {c : Char} (h : c ∈ blankStray t) :
    isStray c = false := by
  obtain ⟨d, -, rfl⟩ := List.mem_map.mp h
  split
  · decide
  · next other => exact Bool.eq_false_iff.mpr other

/-- A character that no title keeps is a bracket, a slash or a separator. -/
theorem isStray_or_isSeparator_of_mem {c : Char} (h : c ∈ "()[]\x7b\x7d/|\\._-".toList) :
    isStray c = true ∨ isSeparator c = true := by
  revert c
  decide

/-- No character that is trimmed is left at the ends of a title. -/
theorem isTitleEdge_of_mem {c : Char} (h : c ∈ [' ', ':', ';', ',']) : isTitleEdge c = true := by
  revert c
  decide

/-- A title that was cleaned is tidy. -/
theorem isTidyTitle_titleText (part : Text) : IsTidyTitle (titleText part) := by
  rw [titleText_eq_trim]
  have inside := Text.trim_isInfix isTitleEdge (unmarkedLine part)
  have ends := Text.endsWithout_trim isTitleEdge (unmarkedLine part)
  constructor
  case spaced =>
    -- A blank character is a space, and no space is left at the ends.
    have solid : ∀ c ∈ Text.trim isTitleEdge (unmarkedLine part), isTitleEdge c = false →
        isBlank c = false := by
      refine fun c hc other => Bool.eq_false_iff.mpr fun blank => ?_
      rw [eq_space_of_mem_unmarkedLine (inside.subset hc) (isSeparator_of_isBlank blank)] at other
      exact Bool.eq_false_iff.mp other (isTitleEdge_of_mem List.mem_cons_self)
    exact isSpaced_of_isInfix (fun _ blank => blank) inside
      ⟨fun c hc => solid c (List.mem_of_mem_head? hc) (ends.1 c hc),
        fun c hc => solid c (List.mem_of_mem_getLast? hc) (ends.2 c hc)⟩
  case unmarked =>
    intro c hc mark
    rcases eq_space_or_of_mem_unmarkedLine (inside.subset hc) with rfl | ⟨kept, undivided⟩
    · exact absurd mark (by decide)
    · have whole := isStray_eq_false_of_mem_blankStray ((beforeTail_isPrefix _).subset kept)
      rcases isStray_or_isSeparator_of_mem mark with stray | separator
      · exact Bool.eq_false_iff.mp whole stray
      · exact Bool.eq_false_iff.mp undivided separator
  case ends =>
    intro c mark
    have edge := isTitleEdge_of_mem mark
    exact ⟨fun first => Bool.eq_false_iff.mp (ends.1 c first) edge,
      fun last => Bool.eq_false_iff.mp (ends.2 c last) edge⟩

/-! ## Studios -/

/-- A studio in normal form. -/
structure IsTidyStudio (s : Text) : Prop where
  nonempty : s ≠ []
  spaced : IsSpaced s
  /-- No separators of names but blanks are left. -/
  undivided : ∀ c ∈ s, c ∉ ['.', '_', '-']

/-- What is left of the words of a name, once its ends are no blanks, is a tidy studio. -/
theorem isTidyStudio_of_isInfix (nonempty : s ≠ []) (inside : s <:+: Text.spacedWords t)
    (ends : EndsWithout isBlank s) : IsTidyStudio s where
  nonempty := nonempty
  spaced := isSpaced_of_isInfix (fun _ => isSeparator_of_isBlank) inside ends
  undivided c hc mark := by
    rcases Text.eq_space_or_of_mem_collapse (inside.subset hc) with rfl | ⟨-, other⟩
    · exact absurd mark (by decide)
    · have separator : ∀ c ∈ ['.', '_', '-'], isSeparator c = true := by decide
      exact Bool.eq_false_iff.mp other (separator c mark)

/-- A studio before the date is tidy, if there is one. -/
theorem isTidyStudio_studioText (named : studioText part ≠ []) :
    IsTidyStudio (studioText part) :=
  isTidyStudio_of_isInfix named ((Text.trim_isInfix _ _).trans (Text.trim_isInfix _ _))
    (Text.endsWithout_trim isBlank _)

/-- A studio in brackets is tidy. -/
theorem isTidyStudio_spacedWords (named : Text.spacedWords t ≠ []) :
    IsTidyStudio (Text.spacedWords t) :=
  isTidyStudio_of_isInfix named List.infix_rfl
    (Text.endsWithout_collapse (fun _ => isSeparator_of_isBlank) t)

/-! ## Readings -/

namespace Parser

variable {parser : Parser} {raw : Text} {r : Recognition} {quality : Quality}

/-- The title of a scene or film is tidy, and so is any other that cleaning leaves something of. -/
theorem Reads.isTidyTitle (reads : parser.Reads raw r)
    (cleaned : (r.toReading raw quality).isScene = true ∨ (r.toReading raw quality).isFilm = true ∨
      titleText (parser.prepare raw).body ≠ []) : IsTidyTitle r.title := by
  by_cases said : (r.toReading raw quality).isScene = true ∨ (r.toReading raw quality).isFilm = true
  · obtain ⟨part, -, same⟩ := reads.exists_titlePart said
    rw [same]
    exact isTidyTitle_titleText part
  · have named := (or_assoc.mpr cleaned).resolve_left said
    cases reads with
    | bracketed | leading | unnamed => exact absurd (.inl rfl) said
    | film => exact absurd (.inr rfl) said
    | malformedDate | plain =>
        rw [Recognition.title, wholeTitle, if_pos named]
        exact isTidyTitle_titleText _

/-- The studio of a scene is tidy. -/
theorem Reads.isTidyStudio (reads : parser.Reads raw r)
    (studio : s ∈ (r.toReading raw quality).studioTitle) : IsTidyStudio s := by
  cases reads with
  | bracketed prepared =>
      rw [← Option.mem_some_iff.mp studio]
      obtain ⟨rest, leading, -⟩ := exists_rest_of_prepare prepared
      obtain ⟨named, behind, ⟨front, content, -, -, -, -, rfl⟩, -⟩ :=
        exists_opensWith_of_studioAndRest leading
      exact isTidyStudio_spacedWords named
  | leading prepared named =>
      rw [← Option.mem_some_iff.mp studio]
      exact isTidyStudio_studioText named
  | unnamed | film | malformedDate | plain => exact absurd studio (Option.not_mem_none s)

/-- Titles that were cleaned are in normal form: those of scenes and films, and the others of
which cleaning leaves something.  Studios always are. -/
theorem parse_isTidy (parser : Parser) (detection : Detection) (raw : Text) :
    ((parser.parse detection raw).isScene = true ∨ (parser.parse detection raw).isFilm = true ∨
        titleText (parser.prepare raw).body ≠ [] →
      IsTidyTitle (parser.parse detection raw).title) ∧
    ∀ s ∈ (parser.parse detection raw).studioTitle, IsTidyStudio s := by
  have reads := parser.reads_recognise raw
  unfold parse
  refine ⟨fun cleaned => ?_, fun s => reads.isTidyStudio⟩
  rw [Recognition.title_toReading]
  exact reads.isTidyTitle cleaned

/-- A scene with brackets, a marker and runs of separators around its words. -/
theorem isTidy_quinn_waters :
    (({} : Parser).parse .off
        "Studio.A - 21.01.08 - Quinn_(Waters]: E2: - 1080p.mp4".toList).isScene = true ∧
      IsTidyTitle "Quinn Waters".toList ∧ IsTidyStudio "Studio A".toList := by
  have scene : (({} : Parser).parse .off
      "Studio.A - 21.01.08 - Quinn_(Waters]: E2: - 1080p.mp4".toList).isScene = true := by
    decide +kernel
  have title : (({} : Parser).parse .off
      "Studio.A - 21.01.08 - Quinn_(Waters]: E2: - 1080p.mp4".toList).title =
      "Quinn Waters".toList := by
    decide +kernel
  have studio : (({} : Parser).parse .off
      "Studio.A - 21.01.08 - Quinn_(Waters]: E2: - 1080p.mp4".toList).studioTitle =
      some "Studio A".toList := by
    decide +kernel
  have tidy := parse_isTidy {} .off "Studio.A - 21.01.08 - Quinn_(Waters]: E2: - 1080p.mp4".toList
  rw [title] at tidy
  exact ⟨scene, tidy.1 (.inl scene), tidy.2 _ studio⟩

/-- Of an episode marker in brackets cleaning leaves nothing. -/
example : (({} : Parser).parse .off "(E2)".toList).title = "(E2)".toList := by decide +kernel

end Parser

end ReleaseCatalog.Release
