import Mathlib.Data.List.Find
import ReleaseCatalog.Proofs.Release.BracketGroups
import ReleaseCatalog.Proofs.Release.FileEndings

/-!
# A group of notes inside a name

A group in square brackets inside a name, between two parts that are not blank, is read as a
space, whatever it contains but a year (`Parser.prepare_group`).  The closing bracket and the space
are both *barriers*: no ending of a file name reaches over them, so trimming, the extension and the
counter leave of the name what they leave of the part behind the barrier
(`exists_endings_behind`).  No studio is set apart, since something stands before the group.

Names that are prepared alike are recognised alike, but for the title of a name in which nothing
is left, which falls back on the name as it was given (`Parser.recognise_congr`).
-/

namespace ReleaseCatalog.Release

open Unicode (isBlank isDecimal)

/-! ## Barriers -/

/-- A character over which no ending of a file name reaches. -/
structure IsBarrier (c : Char) : Prop where
  noDigit : isDecimal c = false
  noLowLine : c ≠ '_'
  noFeed : c ≠ '\n'
  noExtension : ∀ e ∈ videoFileExtensions, smallLetter c ∉ e

theorem isBarrier_space : IsBarrier ' ' := ⟨by decide, by decide, by decide, by decide⟩

theorem isBarrier_closing : IsBarrier ']' := ⟨by decide, by decide, by decide, by decide⟩

variable {c : Char}

/-- An extension of a name is one of the part behind the barrier. -/
theorem IsBarrier.hasExtension_append (barrier : IsBarrier c) (front rest : Text) {e : Text}
    (listed : e ∈ videoFileExtensions) :
    hasExtension (front ++ c :: rest) e = Text.endsWith (rest.map smallLetter) e := by
  refine Bool.eq_iff_iff.mpr ?_
  unfold Text.endsWith
  rw [hasExtension_iff, List.isSuffixOf_iff_suffix, List.map_append, List.map_cons]
  constructor
  · rintro ⟨ends, -⟩
    rcases List.suffix_or_suffix_of_suffix ends (List.suffix_append _ _) with short | long
    · rcases List.suffix_cons_iff.mp short with whole | inside
      · exact absurd (whole ▸ List.mem_cons_self) (barrier.noExtension e listed)
      · exact inside
    · exact absurd (long.subset List.mem_cons_self) (barrier.noExtension e listed)
  · intro ends
    refine ⟨(ends.trans (List.suffix_cons _ _)).trans (List.suffix_append _ _), ?_⟩
    have := ends.length_le
    rw [List.length_map] at this
    rw [List.length_append, List.length_cons]
    omega

/-- The extension leaves the same beginning of the part behind any barrier. -/
theorem exists_dropExtension_behind {extensions : List Text}
    (known : extensions.Perm videoFileExtensions) (rest : Text) :
    ∃ kept, kept <+: rest ∧ ∀ front c, IsBarrier c →
      dropExtension extensions (front ++ c :: rest) = front ++ c :: kept := by
  have same : ∀ front c, IsBarrier c → extensions.find? (hasExtension (front ++ c :: rest)) =
      extensions.find? (Text.endsWith (rest.map smallLetter)) := by
    intro front c barrier
    exact List.find?_congr fun e he =>
      barrier.hasExtension_append front rest (known.mem_iff.mp he)
  unfold dropExtension
  cases found : extensions.find? (Text.endsWith (rest.map smallLetter)) with
  | none =>
      refine ⟨rest, List.prefix_rfl, fun front c barrier => ?_⟩
      rw [same front c barrier, found]
  | some e =>
      have short : e.length ≤ rest.length := by
        have ends : Text.endsWith (rest.map smallLetter) e = true := List.find?_some found
        have := (List.isSuffixOf_iff_suffix.mp ends).length_le
        rwa [List.length_map] at this
      refine ⟨rest.take (rest.length - e.length), List.take_prefix _ _, fun front c barrier => ?_⟩
      rw [same front c barrier, found]
      dsimp only
      have length : (front ++ c :: rest).length - e.length =
          (front ++ [c]).length + (rest.length - e.length) := by
        simp only [List.length_append, List.length_cons, List.length_nil]
        omega
      rw [length, List.append_cons front c rest, List.take_length_add_append, ← List.append_cons]

/-- A text of digits has no counter. -/
theorem beforeCounter?_digits {digits : Text} (decimal : ∀ d ∈ digits, isDecimal d = true) :
    beforeCounter? digits = none := by
  unfold beforeCounter?
  rw [List.dropWhile_eq_nil_iff.mpr decimal]

/-- A text that begins with a digit begins with a run of digits that ends before no digit. -/
theorem exists_digits_split {t : Text} (h : t.head?.any isDecimal = true) :
    ∃ digits rest, t = digits ++ rest ∧ digits ≠ [] ∧ (∀ d ∈ digits, isDecimal d = true) ∧
      ∀ d ∈ rest.head?, isDecimal d = false := by
  refine ⟨t.takeWhile isDecimal, t.dropWhile isDecimal, List.takeWhile_append_dropWhile.symm, ?_,
    fun d hd => List.mem_takeWhile_imp hd, fun d hd => Text.eq_false_of_head?_dropWhile hd⟩
  cases t with
  | nil => cases h
  | cons d t =>
      have digit : isDecimal d = true := h
      rw [List.takeWhile_cons_of_pos digit]
      exact List.cons_ne_nil _ _

/-- What is before a counter is looked for in front of the barrier, from the end backwards. -/
theorem IsBarrier.beforeCounter?_append (barrier : IsBarrier c) (reversed behind : Text) :
    beforeCounter? (reversed ++ c :: behind) =
      (beforeCounter? reversed).map (· ++ c :: behind) := by
  have first : ∀ t : Text, (t ++ c :: behind).head?.any isDecimal = t.head?.any isDecimal := by
    intro t
    cases t with
    | nil => exact barrier.noDigit
    | cons d t => rfl
  by_cases digit : reversed.head?.any isDecimal = true
  · obtain ⟨digits, rest, rfl, nonempty, decimal, stop⟩ := exists_digits_split digit
    cases rest with
    | nil =>
        rw [List.append_nil, beforeCounter?_digits decimal,
          beforeCounter?_digits_append nonempty decimal barrier.noDigit,
          if_neg fun both => barrier.noLowLine both.1]
        rfl
    | cons d front =>
        have other : isDecimal d = false := stop d rfl
        rw [List.append_assoc, List.cons_append, beforeCounter?_digits_append nonempty decimal other,
          beforeCounter?_digits_append nonempty decimal other, first]
        split
        · rfl
        · rfl
  · have digit' := Bool.eq_false_iff.mpr digit
    rw [beforeCounter?_eq_none digit', beforeCounter?_eq_none ((first reversed).trans digit')]
    rfl

/-- A text without the counter at its very end. -/
def cutCounter (t : Text) : Text := ((beforeCounter? t.reverse).getD t.reverse).reverse

theorem dropCounter_feed (t : Text) : dropCounter (t ++ ['\n']) = cutCounter t ++ ['\n'] := by
  unfold dropCounter cutCounter
  rw [List.reverse_concat]
  simp only
  cases beforeCounter? t.reverse with
  | none => simp
  | some kept => simp

theorem dropCounter_eq_cutCounter {t : Text} (h : t.getLast? ≠ some '\n') :
    dropCounter t = cutCounter t := by
  unfold dropCounter
  split
  · next reversed feed =>
      refine absurd ?_ h
      rw [← List.head?_reverse, feed]
      rfl
  · rfl

theorem IsBarrier.cutCounter_append (barrier : IsBarrier c) (front rest : Text) :
    cutCounter (front ++ c :: rest) = front ++ c :: cutCounter rest := by
  have reversed : (front ++ c :: rest).reverse = rest.reverse ++ c :: front.reverse := by simp
  unfold cutCounter
  rw [reversed, barrier.beforeCounter?_append]
  cases beforeCounter? rest.reverse with
  | none => simp
  | some kept => simp

/-- A counter of a name is one of the part behind the barrier. -/
theorem IsBarrier.dropCounter_append (barrier : IsBarrier c) (front rest : Text) :
    dropCounter (front ++ c :: rest) = front ++ c :: dropCounter rest := by
  cases rest using List.reverseRecOn with
  | nil =>
      have last : (front ++ [c]).getLast? ≠ some '\n' := by
        rw [List.getLast?_concat, ne_eq, Option.some.injEq]
        exact barrier.noFeed
      rw [dropCounter_eq_cutCounter last, barrier.cutCounter_append]
      rfl
  | append_singleton rest d =>
      by_cases feed : d = '\n'
      · rw [feed, ← List.cons_append, ← List.append_assoc, dropCounter_feed, dropCounter_feed,
          barrier.cutCounter_append, List.append_assoc, List.cons_append]
      · have last : ∀ t : Text, (t ++ [d]).getLast? ≠ some '\n' := by
          intro t
          rw [List.getLast?_concat, ne_eq, Option.some.injEq]
          exact feed
        have whole := last (front ++ c :: rest)
        rw [List.append_assoc, List.cons_append] at whole
        rw [dropCounter_eq_cutCounter whole, dropCounter_eq_cutCounter (last rest),
          barrier.cutCounter_append]

/-- The endings of a file name leave the same of the part behind any barrier. -/
theorem exists_endings_behind {extensions : List Text}
    (known : extensions.Perm videoFileExtensions) (rest : Text) :
    ∃ left, (∀ d ∈ left, d ∈ rest) ∧ ∀ front c, IsBarrier c →
      dropCounter (dropExtension extensions (front ++ c :: rest)) = front ++ c :: left := by
  obtain ⟨kept, beginning, extension⟩ := exists_dropExtension_behind known rest
  refine ⟨dropCounter kept, fun d hd => beginning.subset ?_, fun front c barrier => ?_⟩
  · rcases dropCounter_cases kept with same | ⟨before, digits, line, split, -, -, eq⟩
    · rwa [same] at hd
    · rw [eq] at hd
      rw [split]
      cases List.mem_append.mp hd with
      | inl old => exact List.mem_append_left _ old
      | inr feed => exact List.mem_append_right _ (List.mem_cons_of_mem _ (List.mem_append_right _ feed))
  · rw [extension front c barrier, barrier.dropCounter_append]

/-! ## The group -/

variable {a b x : Text}

/-- A group that is no year, the only one in square brackets, is removed like a space. -/
theorem dropGroups_group (before : '[' ∉ a) (opening : '[' ∉ x) (closing : ']' ∉ x)
    (behind : '[' ∉ b) (noYear : isYearOnly x = false) :
    dropGroups (a ++ '[' :: (x ++ ']' :: b)) = dropGroups (a ++ ' ' :: b) := by
  have spaced : '[' ∉ a ++ ' ' :: b := by
    rw [List.mem_append, List.mem_cons]
    rintro (old | space | old)
    · exact before old
    · cases space
    · exact behind old
  unfold dropGroups
  rw [replaceAll_append before, replaceAll_group opening closing, noYear,
    if_neg Bool.false_ne_true, Finder.replaceAll_eq_self (groups_eq_nil behind),
    Finder.replaceAll_eq_self (groups_eq_nil spaced), List.singleton_append]

/-- No studio is set apart from a name that begins with more than blanks before any square
bracket. -/
theorem studioAndRest_append (solid : ∃ c ∈ a, isBlank c = false) (square : '[' ∉ a) (rest : Text) :
    studioAndRest (a ++ rest) = (none, a ++ rest) := by
  refine studioAndRest_eq_self_of_head fun first => ?_
  obtain ⟨c, hc, -⟩ := Text.exists_mem_dropWhile solid
  rw [Text.dropWhile_append_of_exists solid,
    List.head?_append_of_ne_nil _ (List.ne_nil_of_mem hc)] at first
  exact square ((List.dropWhile_suffix _).subset (List.mem_of_head? first))

namespace Parser

variable {parser : Parser}

/-- A group of notes between two parts of a name that are not blank is prepared like a space. -/
theorem prepare_group (known : parser.extensions.Perm videoFileExtensions) (before : '[' ∉ a)
    (opening : '[' ∉ x) (closing : ']' ∉ x) (behind : '[' ∉ b) (noYear : isYearOnly x = false)
    (solid : ∃ c ∈ a, isBlank c = false) (solid' : ∃ c ∈ b, isBlank c = false) :
    parser.prepare (a ++ '[' :: (x ++ ']' :: b)) = parser.prepare (a ++ ' ' :: b) := by
  have trimmed : ∀ middle, Text.trimBlank (a ++ middle ++ b) =
      a.dropWhile isBlank ++ middle ++ b.rdropWhile isBlank :=
    fun middle => Text.trim_append solid solid' middle
  obtain ⟨left, members, endings⟩ := exists_endings_behind known (b.rdropWhile isBlank)
  have behind' : '[' ∉ left := fun member =>
    behind ((List.rdropWhile_prefix isBlank b).subset (members _ member))
  have before' : '[' ∉ a.dropWhile isBlank := fun member =>
    before ((List.dropWhile_suffix _).subset member)
  have noStudio := studioAndRest_append (Text.exists_mem_dropWhile solid) before'
  have grouped : dropCounter (dropExtension parser.extensions
      (Text.trimBlank (a ++ '[' :: (x ++ ']' :: b)))) =
        a.dropWhile isBlank ++ '[' :: (x ++ ']' :: left) := by
    have parts := trimmed ('[' :: (x ++ [']']))
    simp only [List.append_assoc, List.cons_append, List.nil_append] at parts
    have cut := endings (a.dropWhile isBlank ++ '[' :: x) ']' isBarrier_closing
    simp only [List.append_assoc, List.cons_append] at cut
    rw [parts, cut]
  have spaced : dropCounter (dropExtension parser.extensions (Text.trimBlank (a ++ ' ' :: b))) =
      a.dropWhile isBlank ++ ' ' :: left := by
    have parts := trimmed [' ']
    simp only [List.append_assoc, List.cons_append, List.nil_append] at parts
    rw [parts, endings _ _ isBarrier_space]
  unfold prepare
  rw [grouped, spaced, noStudio, noStudio]
  dsimp only
  rw [dropGroups_group before' opening closing behind' noYear]

/-- Names that are prepared alike are recognised alike.  Only a title that falls back on the name
as it was given may differ. -/
theorem recognise_congr {raw raw' : Text} (same : parser.prepare raw = parser.prepare raw') :
    parser.recognise raw = parser.recognise raw' ∨
      titleText (parser.prepare raw').body = [] ∧ ∃ title title',
        parser.recognise raw = .malformedDate title ∧ parser.recognise raw' = .malformedDate title' ∨
        parser.recognise raw = .plain title ∧ parser.recognise raw' = .plain title' := by
  have whole : titleText (parser.prepare raw').body ≠ [] →
      wholeTitle raw (parser.prepare raw').body = wholeTitle raw' (parser.prepare raw').body := by
    intro named
    simp only [wholeTitle, named, ne_eq, not_false_eq_true, if_true]
  unfold recognise
  rw [same]
  dsimp only
  by_cases named : titleText (parser.prepare raw').body = []
  · split
    · exact .inl rfl
    · exact .inr ⟨named, _, _, .inl ⟨rfl, rfl⟩⟩
    · split
      · exact .inl rfl
      · exact .inr ⟨named, _, _, .inr ⟨rfl, rfl⟩⟩
  · rw [whole named]
    exact .inl rfl

/-- A group in square brackets between two parts of a name, in which no other group in square
brackets opens, and which is no year, is invisible: the name is prepared as with a space for the
group, and it is recognised as a scene or not, with the studio, the date and the year of that name.
It has the title and the tokens of that name too, if it is a scene or a film or if anything is left
for a title of the prepared name.  Quality is detected apart. -/
theorem parse_group_eq_space (known : parser.extensions.Perm videoFileExtensions)
    (before : '[' ∉ a) (opening : '[' ∉ x) (closing : ']' ∉ x) (behind : '[' ∉ b)
    (noYear : isYearOnly x = false) (solid : ∃ c ∈ a, isBlank c = false)
    (solid' : ∃ c ∈ b, isBlank c = false) (detection detection' : Detection) :
    let grouped := parser.parse detection (a ++ '[' :: (x ++ ']' :: b))
    let spaced := parser.parse detection' (a ++ ' ' :: b)
    parser.prepare (a ++ '[' :: (x ++ ']' :: b)) = parser.prepare (a ++ ' ' :: b) ∧
    grouped.isScene = spaced.isScene ∧ grouped.studioTitle = spaced.studioTitle ∧
    grouped.releaseDate = spaced.releaseDate ∧ grouped.year = spaced.year ∧
    ((grouped.isScene = true ∨ grouped.isFilm = true ∨
        titleText (parser.prepare (a ++ ' ' :: b)).body ≠ []) →
      grouped.title = spaced.title ∧ grouped.tokens = spaced.tokens) := by
  intro grouped spaced
  have same := prepare_group known before opening closing behind noYear solid solid'
  refine ⟨same, ?_⟩
  subst grouped spaced
  unfold parse
  rcases recognise_congr same with alike | ⟨empty, title, title', ⟨eq, eq'⟩ | ⟨eq, eq'⟩⟩
  · rw [alike]
    cases parser.recognise (a ++ ' ' :: b) <;> exact ⟨rfl, rfl, rfl, rfl, fun _ => ⟨rfl, rfl⟩⟩
  all_goals
    rw [eq, eq']
    refine ⟨rfl, rfl, rfl, rfl, fun said => ?_⟩
    rcases said with scene | film | named
    · cases scene
    · cases film
    · exact absurd empty named

/-- A group with another day, a counter, an extension and a bracket that nothing closes, between a
word and a counter with an extension. -/
theorem parse_quinn_with_group :
    let before := "Studio.21.01.08.Quinn".toList
    let group := "2010-05-06 (x264_1.mkv\x7d".toList
    let behind := "_1.mkv".toList
    let grouped := ({} : Parser).parse .off (before ++ '[' :: (group ++ ']' :: behind))
    isYearOnly group = false ∧ grouped.isScene = true ∧
      grouped.studioTitle = some "Studio".toList ∧ grouped.releaseDate = some "2021-01-08".toList ∧
      grouped.year = none ∧ grouped.title = "Quinn 1".toList := by
  intro before group behind grouped
  have known : ({} : Parser).extensions.Perm videoFileExtensions := .refl _
  have square : '[' ∉ before ∧ '[' ∉ group ∧ ']' ∉ group ∧ '[' ∉ behind := by decide +kernel
  have noYear : isYearOnly group = false := by decide +kernel
  have solid : ∃ c ∈ before, isBlank c = false := ⟨'S', by decide, by decide⟩
  have solid' : ∃ c ∈ behind, isBlank c = false := ⟨'_', by decide, by decide⟩
  obtain ⟨-, scene, studio, date, year, title⟩ := parse_group_eq_space known square.1 square.2.1
    square.2.2.1 square.2.2.2 noYear solid solid' .off .off
  have isScene := scene.trans (show _ = true by decide +kernel)
  refine ⟨noYear, isScene, studio.trans ?_, date.trans ?_, year.trans ?_,
    (title (.inl isScene)).1.trans ?_⟩
  all_goals decide +kernel

end Parser

end ReleaseCatalog.Release
