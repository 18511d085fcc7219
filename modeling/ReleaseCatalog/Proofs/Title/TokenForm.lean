import ReleaseCatalog.Proofs.Text.Solid
import ReleaseCatalog.Proofs.Title.TokenSet

/-!
# The form of a token

A token is not empty, has neither blanks nor ampersands, neither begins nor ends with punctuation,
is its own folding and is no joiner (`isTokenForm_of_mem_tokens`).  Most of that is kept by
stripping a word, since a stripped word is a part of it whose ends were trimmed last.  An ampersand
links what stands on both sides of it, so a title may be cut at its ampersands before it is looked
at, and no piece has one.
-/

namespace ReleaseCatalog.Title

open Unicode (foldCase foldChar isBlank isPunctuation)

variable {w word owner : Text}

/-! ## Stripping a word -/

theorem length_of_mem_possessiveEndings : ∀ ending ∈ possessiveEndings, ending.length = 2 := by
  decide

theorem possessor?_eq_some_iff : possessor? word = some owner ↔
    owner ≠ [] ∧ ∃ ending ∈ possessiveEndings, word = owner ++ ending := by
  unfold possessor?
  constructor
  · intro found
    split at found
    · next ends =>
        obtain rfl := Option.some.inj found
        refine ⟨fun empty => ?_, _, ends.2, (List.take_append_drop _ word).symm⟩
        rw [List.take_eq_nil_iff] at empty
        rcases empty with short | none
        · omega
        · rw [none] at ends
          exact absurd ends.1 (Nat.not_lt_zero 2)
    · cases found
  · rintro ⟨nonempty, ending, member, rfl⟩
    have length : (owner ++ ending).length = owner.length + 2 := by
      rw [List.length_append, length_of_mem_possessiveEndings ending member]
    have long : 2 < (owner ++ ending).length := by
      have := List.length_pos_iff.mpr nonempty
      omega
    rw [length, Nat.add_sub_cancel, List.drop_left, List.take_left, if_pos ⟨length ▸ long, member⟩]

theorem bareWord_of_some (found : possessor? (trimPunctuation word) = some owner) :
    bareWord word = trimPunctuation owner := by
  unfold bareWord
  dsimp only
  rw [found]

theorem bareWord_of_none (none : possessor? (trimPunctuation word) = none) :
    bareWord word = trimPunctuation word := by
  unfold bareWord
  dsimp only
  rw [none]

theorem trimPunctuation_isInfix (word : Text) : trimPunctuation word <:+: word :=
  Text.trim_isInfix isPunctuation word

/-- What is left of a word is a part of it. -/
theorem bareWord_isInfix (word : Text) : bareWord word <:+: word := by
  cases found : possessor? (trimPunctuation word) with
  | none =>
      rw [bareWord_of_none found]
      exact trimPunctuation_isInfix word
  | some owner =>
      obtain ⟨-, ending, -, split⟩ := possessor?_eq_some_iff.mp found
      have part : owner <:+: trimPunctuation word := ⟨[], ending, split.symm⟩
      rw [bareWord_of_some found]
      exact (trimPunctuation_isInfix owner).trans (part.trans (trimPunctuation_isInfix word))

theorem endsWithout_bareWord (word : Text) : Text.EndsWithout isPunctuation (bareWord word) := by
  cases found : possessor? (trimPunctuation word) with
  | none =>
      rw [bareWord_of_none found]
      exact Text.endsWithout_trim isPunctuation word
  | some owner =>
      rw [bareWord_of_some found]
      exact Text.endsWithout_trim isPunctuation owner

/-! ## Tokens -/

/-- The form that every token has. -/
structure IsTokenForm (w : Text) : Prop where
  nonempty : w ≠ []
  folded : foldCase w = w
  unbroken : ∀ c ∈ w, isBlank c = false
  unlinked : '&' ∉ w
  ends : Text.EndsWithout isPunctuation w
  no_joiner : w ≠ "and".toList ∧ w ≠ "+".toList

theorem isToken_iff : isToken w = true ↔ w ≠ [] ∧ w ∉ joiners := by
  unfold isToken
  rw [Bool.and_eq_true, decide_eq_true_eq, Bool.not_eq_true', List.contains_eq_mem,
    decide_eq_false_iff_not]

theorem isTokenForm_of_mem_tokens {title : Text} (member : w ∈ tokens title) : IsTokenForm w := by
  obtain ⟨piece, listed, member⟩ := (mem_tokens_iff_exists_piece .ampersand).mp member
  have unlinked : '&' ∉ piece := by
    intro linked
    have other := (Text.of_mem_word listed linked).2
    revert other
    decide
  obtain ⟨bare, token⟩ := mem_tokens.mp member
  obtain ⟨nonempty, no_joiner⟩ := isToken_iff.mp token
  obtain ⟨word, cut, rfl⟩ := List.mem_map.mp bare
  rw [← foldedLine, foldedLine_eq_foldCase unlinked] at cut
  have solid : ∀ c ∈ bareWord word, isBlank c = false ∧ ∃ d ∈ piece, c ∈ foldChar d := by
    intro c hc
    obtain ⟨line, other⟩ := Text.of_mem_word cut ((bareWord_isInfix word).subset hc)
    exact ⟨other, List.mem_flatMap.mp line⟩
  constructor
  · exact nonempty
  · refine Unicode.foldCase_eq_self fun c hc => ?_
    obtain ⟨-, d, -, folded⟩ := solid c hc
    exact Unicode.foldChar_of_mem_foldChar folded
  · exact fun c hc => (solid c hc).1
  · intro linked
    obtain ⟨-, d, hd, folded⟩ := solid '&' linked
    rw [← Unicode.eq_of_mem_foldChar folded (by decide)] at hd
    exact unlinked hd
  · exact endsWithout_bareWord word
  · constructor
    · rintro same
      rw [same] at no_joiner
      revert no_joiner
      decide
    · rintro same
      rw [same] at no_joiner
      revert no_joiner
      decide

end ReleaseCatalog.Title
