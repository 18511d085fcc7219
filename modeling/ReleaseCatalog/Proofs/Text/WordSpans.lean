import Mathlib.Order.Interval.Basic
import Mathlib.Order.Minimal
import ReleaseCatalog.Proofs.Text.WordPlaces

/-!
# Words as maximal spans

A *span* is an interval of positions, so it is never empty.  It is *unbroken* in a text if a
character that is no separator stands at each of its positions.  A maximal run of such
characters is an unbroken span that no other unbroken span contains.  Nothing in this speaks of
splitting, of a direction, or of what stands beside a span.

The words of a text are what stands in its maximal unbroken spans, from left to right
(`exists_listsSpans`).  The proof takes the words one by one from the end.  Before the last word
stands a text that is empty or ends in a separator, so no unbroken span reaches over its end
(`IsUnbroken.snd_lt_of_opens`), and its maximal spans are those of the whole text that begin in
it (`maximal_append_iff`).  Behind the last word stand separators only, so it contains every
unbroken span that begins with it or later (`IsUnbroken.le_wordSpan`).
-/

namespace ReleaseCatalog.Text

variable {separator : Char → Bool} {t w x y : Text} {span : NonemptyInterval ℕ}

/-- At each position of the span stands a character that is no separator. -/
def IsUnbroken (separator : Char → Bool) (t : Text) (span : NonemptyInterval ℕ) : Prop :=
  ∀ i ∈ span, ∃ c ∈ t[i]?, separator c = false

/-- The characters at the positions of a span. -/
def spanText (t : Text) (span : NonemptyInterval ℕ) : Text := t.extract span.fst (span.snd + 1)

/-- The maximal unbroken spans of a text, none missing, from left to right. -/
structure ListsSpans (separator : Char → Bool) (t : Text) (spans : List (NonemptyInterval ℕ)) :
    Prop where
  mem_iff : ∀ span, span ∈ spans ↔ Maximal (IsUnbroken separator t) span
  ordered : spans.Pairwise fun span next => span.snd < next.fst

/-! ## Unbroken spans -/

theorem IsUnbroken.snd_lt_length (unbroken : IsUnbroken separator t span) :
    span.snd < t.length := by
  obtain ⟨c, stands, -⟩ := unbroken span.snd ⟨span.fst_le_snd, le_rfl⟩
  exact (List.getElem?_eq_some_iff.mp stands).1

/-- A span that ends in the first of two texts is unbroken in both of them or in neither. -/
theorem isUnbroken_append_iff (ends : span.snd < x.length) (y : Text) :
    IsUnbroken separator (x ++ y) span ↔ IsUnbroken separator x span := by
  refine forall₂_congr fun i inside => ?_
  rw [List.getElem?_append_left (inside.2.trans_lt ends)]

/-- No unbroken span reaches over the end of a text that is empty or ends in a separator. -/
theorem IsUnbroken.snd_lt_of_opens (unbroken : IsUnbroken separator (x ++ y) span)
    (opens : x.getLast?.all separator = true) (starts : span.fst < x.length) :
    span.snd < x.length := by
  by_contra beyond
  have last : x.length - 1 ∈ span := ⟨by omega, by omega⟩
  obtain ⟨c, stands, other⟩ := unbroken _ last
  rw [List.getElem?_append_left (by omega), ← List.getLast?_eq_getElem?] at stands
  rw [Option.mem_def.mp stands] at opens
  exact Bool.eq_false_iff.mp other opens

/-- The maximal spans that begin before a cut behind a separator are those of the text there. -/
theorem maximal_append_iff (opens : x.getLast?.all separator = true) (y : Text) :
    Maximal (IsUnbroken separator (x ++ y)) span ∧ span.fst < x.length ↔
      Maximal (IsUnbroken separator x) span := by
  constructor
  · rintro ⟨⟨unbroken, longest⟩, starts⟩
    have ends := unbroken.snd_lt_of_opens opens starts
    refine ⟨(isUnbroken_append_iff ends y).mp unbroken, fun other unbroken' => longest ?_⟩
    exact (isUnbroken_append_iff unbroken'.snd_lt_length y).mpr unbroken'
  · rintro ⟨unbroken, longest⟩
    have ends := unbroken.snd_lt_length
    have starts : span.fst < x.length := span.fst_le_snd.trans_lt ends
    refine ⟨⟨(isUnbroken_append_iff ends y).mpr unbroken, fun other unbroken' contains => ?_⟩,
      starts⟩
    have ends' := unbroken'.snd_lt_of_opens opens (contains.1.trans_lt starts)
    exact longest ((isUnbroken_append_iff ends' y).mp unbroken') contains

/-! ## The last word -/

/-- The positions of a word that stands behind a text. -/
def wordSpan (x w : Text) (nonempty : w ≠ []) : NonemptyInterval ℕ where
  fst := x.length
  snd := x.length + w.length - 1
  fst_le_snd := by
    have := List.length_pos_iff.mpr nonempty
    omega

theorem isUnbroken_wordSpan (word : IsWord separator w) (x y : Text) :
    IsUnbroken separator (x ++ w ++ y) (wordSpan x w word.1) := by
  rintro i ⟨first, last⟩
  have positive := List.length_pos_iff.mpr word.1
  simp only [wordSpan] at first last
  refine ⟨w[i - x.length], ?_, word.2 _ (List.getElem_mem _)⟩
  rw [List.append_assoc, List.getElem?_append_right first, List.getElem?_append_left (by omega)]
  exact List.getElem?_eq_getElem _

/-- If separators only stand behind a word, it contains every unbroken span that begins with it or
later. -/
theorem IsUnbroken.le_wordSpan (unbroken : IsUnbroken separator (x ++ w ++ y) span)
    (nonempty : w ≠ []) (separators : ∀ c ∈ y, separator c = true)
    (starts : x.length ≤ span.fst) : span ≤ wordSpan x w nonempty := by
  refine ⟨starts, ?_⟩
  show span.snd ≤ x.length + w.length - 1
  by_contra beyond
  obtain ⟨c, stands, other⟩ := unbroken span.snd ⟨span.fst_le_snd, le_rfl⟩
  rw [List.getElem?_append_right (by rw [List.length_append]; omega)] at stands
  exact Bool.eq_false_iff.mp other (separators c (List.mem_of_getElem? stands))

/-- The last word is a maximal span, and the only one that does not begin before it. -/
theorem maximal_iff_wordSpan (word : IsWord separator w) (opens : x.getLast?.all separator = true)
    (separators : ∀ c ∈ y, separator c = true) :
    Maximal (IsUnbroken separator (x ++ w ++ y)) span ∧ x.length ≤ span.fst ↔
      span = wordSpan x w word.1 := by
  have unbroken := isUnbroken_wordSpan word x y
  constructor
  · rintro ⟨longest, starts⟩
    exact longest.eq_of_le unbroken (longest.prop.le_wordSpan word.1 separators starts)
  · rintro rfl
    refine ⟨⟨unbroken, fun other unbroken' contains => ?_⟩, le_rfl⟩
    refine unbroken'.le_wordSpan word.1 separators (Nat.le_of_not_lt fun before => ?_)
    -- A span that contains the word and begins before it would hold the separator between.
    rw [List.append_assoc] at unbroken'
    have ends := unbroken'.snd_lt_of_opens opens before
    have inside : x.length ≤ other.snd := (wordSpan x w word.1).fst_le_snd.trans contains.2
    omega

theorem spanText_wordSpan (x y : Text) (nonempty : w ≠ []) :
    spanText (x ++ w ++ y) (wordSpan x w nonempty) = w := by
  have positive := List.length_pos_iff.mpr nonempty
  have length : x.length + w.length - 1 + 1 - x.length = w.length := by omega
  simp [spanText, wordSpan, List.extract, length]

theorem spanText_append (ends : span.snd < x.length) (y : Text) :
    spanText (x ++ y) span = spanText x span := by
  have starts := span.fst_le_snd
  simp only [spanText, List.extract]
  rw [List.drop_append_of_le_length (by omega), List.take_append_of_le_length]
  rw [List.length_drop]
  omega

/-! ## All words -/

/-- A text of separators has no spans. -/
theorem listsSpans_nil (separators : ∀ c ∈ t, separator c = true) :
    ListsSpans separator t [] where
  mem_iff span := by
    refine ⟨fun member => absurd member List.not_mem_nil, fun longest => ?_⟩
    obtain ⟨c, stands, other⟩ := longest.prop span.fst ⟨le_rfl, span.fst_le_snd⟩
    exact absurd (separators c (List.mem_of_getElem? stands)) (Bool.eq_false_iff.mp other)
  ordered := .nil

/-- The maximal spans of a text are those before the last word, and the last word. -/
theorem ListsSpans.concat {spans : List (NonemptyInterval ℕ)}
    (listed : ListsSpans separator x spans) (word : IsWord separator w)
    (opens : x.getLast?.all separator = true) (separators : ∀ c ∈ y, separator c = true) :
    ListsSpans separator (x ++ w ++ y) (spans ++ [wordSpan x w word.1]) where
  mem_iff span := by
    rw [List.mem_append, List.mem_singleton, listed.mem_iff, ← maximal_append_iff opens (w ++ y),
      ← maximal_iff_wordSpan word opens separators, ← List.append_assoc, ← and_or_left]
    exact and_iff_left (lt_or_ge _ _)
  ordered := by
    rw [List.pairwise_append]
    refine ⟨listed.ordered, List.pairwise_singleton _ _, fun span member last last' => ?_⟩
    rw [List.mem_singleton.mp last']
    exact ((listed.mem_iff span).mp member).prop.snd_lt_length

/-- The words of a text are what stands in its maximal unbroken spans. -/
theorem exists_listsSpans (separator : Char → Bool) (t : Text) :
    ∃ spans, ListsSpans separator t spans ∧ words separator t = spans.map (spanText t) := by
  obtain ⟨ws, cut⟩ : ∃ ws, words separator t = ws := ⟨_, rfl⟩
  rw [cut]
  induction ws using List.reverseRecOn generalizing t with
  | nil => exact ⟨[], listsSpans_nil (words_eq_nil_iff.mp cut), rfl⟩
  | append_singleton front w ih =>
      have member : w ∈ words separator t := by rw [cut]; exact List.mem_concat_self
      have word := isWord_of_mem_words member
      obtain ⟨x, y, rfl, before, behind, opens, -⟩ := exists_place_of_words_eq cut
      obtain ⟨spans, listed, texts⟩ := ih x before
      refine ⟨_, listed.concat word opens (words_eq_nil_iff.mp behind), ?_⟩
      rw [List.map_append, List.map_singleton, spanText_wordSpan, texts]
      refine congrArg (· ++ [w]) (List.map_congr_left fun span member => ?_)
      rw [List.append_assoc]
      exact (spanText_append ((listed.mem_iff span).mp member).prop.snd_lt_length _).symm

end ReleaseCatalog.Text
