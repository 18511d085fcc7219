import Mathlib.Data.Finset.Max
import ReleaseCatalog.Proofs.Title.TokenForm

/-!
# Tokens of tokens

A word loses one possessive ending.  If a second one stands before it, with nothing but punctuation
between them, the token that is left still has an ending, and as a title of its own it loses that
one too.  Such endings are *stacked* (`IsStacked`).  Every other token is its own only token.

So a listing of the tokens of a title has the tokens of the title exactly if no word of the title
has stacked endings (`toFinset_tokens_unwords_iff`).  In one direction each token stays.  In the
other, take a longest token with an ending: it cannot come from a token without one, nor from a
shorter one, so the listing has lost it.
-/

namespace ReleaseCatalog.Title

open Unicode (isBlank isPunctuation)

variable {w word title : Text}

/-! ## Stacked endings -/

/-- Whether a word ends in a possessive ending behind something else. -/
def isPossessive (word : Text) : Bool := (possessor? word).isSome

/-- A word has two possessive endings one behind the other, with an owner before them and nothing
but punctuation between and behind them. -/
def IsStacked (word : Text) : Prop :=
  ∃ owner ending gap ending' edge, word = owner ++ ending ++ gap ++ ending' ++ edge ∧
    ending ∈ possessiveEndings ∧ ending' ∈ possessiveEndings ∧
    (∃ c ∈ owner, isPunctuation c = false) ∧ (∀ c ∈ gap, isPunctuation c = true) ∧
    ∀ c ∈ edge, isPunctuation c = true

theorem isPossessive_iff : isPossessive word = true ↔
    ∃ owner, owner ≠ [] ∧ ∃ ending ∈ possessiveEndings, word = owner ++ ending := by
  unfold isPossessive
  rw [Option.isSome_iff_exists]
  simp only [possessor?_eq_some_iff]

/-- No punctuation stands at the end of a word with a possessive ending. -/
theorem endsWithout_of_ending {owner ending : Text} (member : ending ∈ possessiveEndings)
    (nonempty : owner ≠ []) (head : ∀ c ∈ owner.head?, isPunctuation c = false) :
    Text.EndsWithout isPunctuation (owner ++ ending) := by
  have last : ∀ ending ∈ possessiveEndings, ending.getLast? = some 's' := by decide
  have letter : isPunctuation 's' = false := by decide +kernel
  constructor
  · rw [List.head?_append_of_ne_nil _ nonempty]
    exact head
  · rw [List.getLast?_append, last ending member]
    exact fun c hc => Option.mem_some_iff.mp hc ▸ letter

/-- A word that keeps a possessive ending has stacked ones: the one it lost, and the one that is
left. -/
theorem isStacked_of_isPossessive_bareWord (possessive : isPossessive (bareWord word) = true) :
    IsStacked word := by
  cases found : possessor? (trimPunctuation word) with
  | none =>
      rw [bareWord_of_none found, isPossessive, found] at possessive
      cases possessive
  | some rest =>
      obtain ⟨owner, nonempty, ending, member, kept⟩ := isPossessive_iff.mp possessive
      obtain ⟨-, ending', member', trimmed⟩ := possessor?_eq_some_iff.mp found
      obtain ⟨front, edge, split, -, hedge⟩ := Text.exists_trim_split isPunctuation word
      obtain ⟨front', gap, split', -, hgap⟩ := Text.exists_trim_split isPunctuation rest
      rw [← trimPunctuation, trimmed] at split
      rw [← trimPunctuation, ← bareWord_of_some found, kept] at split'
      have whole : word = front ++ front' ++ owner ++ ending ++ gap ++ ending' ++ edge := by
        rw [split, split']
        simp
      have audible : ∃ c ∈ front ++ front' ++ owner, isPunctuation c = false := by
        have stripped := (endsWithout_bareWord word).1
        rw [kept, List.head?_append_of_ne_nil _ nonempty] at stripped
        obtain ⟨c, back, rfl⟩ := List.exists_cons_of_ne_nil nonempty
        exact ⟨c, List.mem_append_right _ List.mem_cons_self, stripped c rfl⟩
      exact ⟨front ++ front' ++ owner, ending, gap, ending', edge, whole, member, member', audible,
        hgap, hedge⟩

/-- Of stacked endings a word loses the last one. -/
theorem IsStacked.isPossessive_bareWord (stacked : IsStacked word) :
    isPossessive (bareWord word) = true := by
  obtain ⟨owner, ending, gap, ending', edge, rfl, member, member', audible, hgap, hedge⟩ := stacked
  obtain ⟨front, name, rfl, hfront, nonempty, head⟩ := Text.exists_split_of_exists audible
  have head' : ∀ c ∈ (name ++ ending ++ gap).head?, isPunctuation c = false := by
    rw [List.append_assoc, List.head?_append_of_ne_nil _ nonempty]
    exact head
  have nonempty' : name ++ ending ++ gap ≠ [] := by simp [nonempty]
  -- The second ending is at the end of the trimmed word, and the first at the end of what is left.
  have trimmed : trimPunctuation (front ++ name ++ ending ++ gap ++ ending' ++ edge) =
      name ++ ending ++ gap ++ ending' := by
    have kept := Text.trim_eq_of_split hfront hedge (by simp [nonempty])
      (endsWithout_of_ending member' nonempty' head')
    rw [← kept, trimPunctuation]
    simp
  have left : trimPunctuation (name ++ ending ++ gap) = name ++ ending :=
    Text.trim_eq_of_split (List.forall_mem_nil _) hgap (by simp [nonempty])
      (endsWithout_of_ending member nonempty head)
  have found : possessor? (name ++ ending ++ gap ++ ending') = some (name ++ ending ++ gap) :=
    possessor?_eq_some_iff.mpr ⟨nonempty', ending', member', rfl⟩
  rw [← trimmed] at found
  rw [bareWord_of_some found, left, isPossessive_iff]
  exact ⟨name, nonempty, ending, member, rfl⟩

/-! ## Tokens of a token -/

/-- A token is a word of its own, which is stripped once more. -/
theorem mem_tokens_of_token {token : Text} (member : token ∈ tokens title) :
    w ∈ tokens token ↔ w = bareWord token ∧ isToken w = true := by
  have form := isTokenForm_of_mem_tokens member
  have alone : bareWords token = [bareWord token] := by
    unfold bareWords
    rw [← foldedLine, foldedLine_eq_foldCase form.unlinked, form.folded,
      Text.words_of_isWord ⟨form.nonempty, form.unbroken⟩, List.map_singleton]
  rw [mem_tokens, alone, List.mem_singleton]

theorem isToken_of_mem_tokens (member : w ∈ tokens title) : isToken w = true :=
  (mem_tokens.mp member).2

/-- A token without a possessive ending is its own only token. -/
theorem mem_tokens_of_settled {token : Text} (member : token ∈ tokens title)
    (settled : isPossessive token = false) : w ∈ tokens token ↔ w = token := by
  have trimmed : trimPunctuation token = token :=
    Text.trim_eq_self (isTokenForm_of_mem_tokens member).ends
  have same : bareWord token = token := by
    rw [bareWord_of_none, trimmed]
    rw [trimmed]
    exact Option.not_isSome_iff_eq_none.mp (Bool.eq_false_iff.mp settled)
  rw [mem_tokens_of_token member, same, and_iff_left_of_imp]
  rintro rfl
  exact isToken_of_mem_tokens member

/-- A token with a possessive ending leaves a shorter one. -/
theorem length_lt_of_possessive {token : Text} (member : token ∈ tokens title)
    (possessive : isPossessive token = true) (left : w ∈ tokens token) :
    w.length < token.length := by
  obtain ⟨owner, nonempty, ending, ends, rfl⟩ := isPossessive_iff.mp possessive
  have trimmed : trimPunctuation (owner ++ ending) = owner ++ ending :=
    Text.trim_eq_self (isTokenForm_of_mem_tokens member).ends
  have found : possessor? (trimPunctuation (owner ++ ending)) = some owner := by
    rw [trimmed]
    exact possessor?_eq_some_iff.mpr ⟨nonempty, ending, ends, rfl⟩
  rw [((mem_tokens_of_token member).mp left).1, bareWord_of_some found, List.length_append,
    length_of_mem_possessiveEndings ending ends]
  have shorter := (trimPunctuation_isInfix owner).length_le
  omega

/-! ## Tokens of a listing -/

/-- A word of a title has stacked endings. -/
def HasStackedEndings (title : Text) : Prop :=
  ∃ word ∈ Text.words isBlank (foldedLine title), IsStacked word

theorem hasStackedEndings_iff :
    HasStackedEndings title ↔ ∃ w ∈ tokens title, isPossessive w = true := by
  constructor
  · rintro ⟨word, cut, stacked⟩
    have possessive := stacked.isPossessive_bareWord
    refine ⟨bareWord word, mem_tokens.mpr ⟨List.mem_map_of_mem cut, ?_⟩, possessive⟩
    refine isToken_iff.mpr ⟨fun empty => ?_, fun joiner => ?_⟩
    · rw [empty] at possessive
      cases possessive
    · have plain : ∀ joiner ∈ joiners, isPossessive joiner = false := by decide
      rw [plain _ joiner] at possessive
      cases possessive
  · rintro ⟨w, member, possessive⟩
    obtain ⟨word, cut, rfl⟩ := List.mem_map.mp (mem_tokens.mp member).1
    exact ⟨word, cut, isStacked_of_isPossessive_bareWord possessive⟩

/-- If every token is a token of a token, none has a possessive ending: a longest one that has
would come from a longer one. -/
theorem not_hasStackedEndings (kept : ∀ w ∈ tokens title, ∃ token ∈ tokens title, w ∈ tokens token) :
    ¬ HasStackedEndings title := by
  rw [hasStackedEndings_iff]
  rintro ⟨w, member, possessive⟩
  have some : ((tokens title).toFinset.filter fun w => isPossessive w = true).Nonempty :=
    ⟨w, Finset.mem_filter.mpr ⟨List.mem_toFinset.mpr member, possessive⟩⟩
  obtain ⟨longest, found, longer⟩ := Finset.exists_max_image _ List.length some
  obtain ⟨listed, possessive⟩ := Finset.mem_filter.mp found
  obtain ⟨token, member, left⟩ := kept longest (List.mem_toFinset.mp listed)
  cases ending : isPossessive token with
  | false =>
      rw [(mem_tokens_of_settled member ending).mp left, ending] at possessive
      cases possessive
  | true =>
      have below := length_lt_of_possessive member ending left
      have above := longer token (Finset.mem_filter.mpr ⟨List.mem_toFinset.mpr member, ending⟩)
      omega

/-- A list of the tokens of a title, in any order and with any repetition. -/
def Lists (listing : List Text) (title : Text) : Prop := ∀ w, w ∈ listing ↔ w ∈ tokens title

variable {listing : List Text}

/-- A token without a possessive ending is a token of every listing that has it. -/
theorem mem_tokens_unwords_of_settled {token : Text} (lists : Lists listing title)
    (member : token ∈ tokens title) (settled : isPossessive token = false) :
    token ∈ tokens (Text.unwords listing) :=
  mem_tokens_unwords.mpr
    ⟨token, (lists token).mpr member, (mem_tokens_of_settled member settled).mpr rfl⟩

/-- A listing has all the tokens exactly if no endings are stacked. -/
theorem subset_tokens_unwords_iff (lists : Lists listing title) :
    (∀ w ∈ tokens title, w ∈ tokens (Text.unwords listing)) ↔ ¬ HasStackedEndings title := by
  constructor
  · intro kept
    refine not_hasStackedEndings fun w member => ?_
    obtain ⟨token, listed, left⟩ := mem_tokens_unwords.mp (kept w member)
    exact ⟨token, (lists token).mp listed, left⟩
  · intro unstacked w member
    refine mem_tokens_unwords_of_settled lists member (Bool.eq_false_iff.mpr fun possessive => ?_)
    exact unstacked (hasStackedEndings_iff.mpr ⟨w, member, possessive⟩)

/-- A listing of the tokens of a title has these tokens and no others exactly if no endings are
stacked. -/
theorem toFinset_tokens_unwords_iff (lists : Lists listing title) :
    (tokens (Text.unwords listing)).toFinset = (tokens title).toFinset ↔
      ¬ HasStackedEndings title := by
  rw [← subset_tokens_unwords_iff lists]
  constructor
  · intro same w member
    rwa [← List.mem_toFinset, same, List.mem_toFinset]
  · intro kept
    have unstacked := (subset_tokens_unwords_iff lists).mp kept
    ext w
    rw [List.mem_toFinset, List.mem_toFinset]
    refine ⟨fun left => ?_, kept w⟩
    obtain ⟨token, listed, left⟩ := mem_tokens_unwords.mp left
    have member := (lists token).mp listed
    cases ending : isPossessive token with
    | false => rwa [(mem_tokens_of_settled member ending).mp left]
    | true => exact absurd (hasStackedEndings_iff.mpr ⟨token, member, ending⟩) unstacked

end ReleaseCatalog.Title
