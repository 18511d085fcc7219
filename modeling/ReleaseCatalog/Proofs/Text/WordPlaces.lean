import ReleaseCatalog.Proofs.Text.Solid

/-!
# Where words stand

A word of a text stands between separators or ends of it, and the words before it and behind it
are those of the text there (`words_place`, `exists_place_of_words_eq`).  So what a collapsed
text says about its words goes for the text that was collapsed, except for the separators
between them.

A text without separators may also stand inside a word, and then it stands there in both
(`exists_place_of_collapse`).  The characters beside it are the same in both, as long as
separators are not told from one another or from an end.
-/

namespace ReleaseCatalog.Text

variable {separator p : Char → Bool} {t w : Text} {front back : List Text}

/-! ## Characters beside a place -/

/-- A text is cut before its first character of a class. -/
theorem exists_split_head (p : Char → Bool) (t : Text) :
    ∃ x y, t = x ++ y ∧ (∀ c ∈ x, p c = false) ∧ y.head?.all p = true := by
  refine ⟨t.takeWhile fun c => !p c, t.dropWhile fun c => !p c,
    List.takeWhile_append_dropWhile.symm, fun c hc => ?_, ?_⟩
  · simpa using List.mem_takeWhile_imp hc
  · cases first : (t.dropWhile fun c => !p c).head? with
    | none => rfl
    | some c => simpa using eq_false_of_head?_dropWhile first

/-- A text is cut behind its last character of a class. -/
theorem exists_split_getLast (p : Char → Bool) (t : Text) :
    ∃ x y, t = x ++ y ∧ x.getLast?.all p = true ∧ ∀ c ∈ y, p c = false := by
  obtain ⟨y, x, split, without, first⟩ := exists_split_head p t.reverse
  refine ⟨x.reverse, y.reverse, ?_, ?_, fun c hc => without c (List.mem_reverse.mp hc)⟩
  · rw [← List.reverse_append, ← split, List.reverse_reverse]
  · rwa [List.getLast?_reverse]

theorem all_mono {c : Option Char} (h : ∀ c, separator c = true → p c = true)
    (all : c.all separator = true) : c.all p = true := by
  cases c with
  | none => rfl
  | some c => exact h c all

/-! ## Words and their places -/

/-- The words around a word that stands between separators or ends. -/
theorem words_place {x y : Text} (word : IsWord separator w)
    (opens : x.getLast?.all separator = true) (closes : y.head?.all separator = true) :
    words separator (x ++ w ++ y) = words separator x ++ w :: words separator y := by
  rw [List.append_assoc, words_append_of_getLast opens, words_append_of_head closes,
    words_of_isWord word, List.singleton_append]

/-- The words around two words with separators between them. -/
theorem words_places {x v gap y : Text} (word : IsWord separator v) (word' : IsWord separator w)
    (nonempty : gap ≠ []) (separators : ∀ c ∈ gap, separator c = true)
    (opens : x.getLast?.all separator = true) (closes : y.head?.all separator = true) :
    words separator (x ++ v ++ gap ++ w ++ y) =
      words separator x ++ v :: w :: words separator y := by
  have before := words_place (y := []) word opens rfl
  have behind := words_place (x := []) word' rfl closes
  rw [List.append_nil, words_nil] at before
  rw [List.nil_append, words_nil, List.nil_append] at behind
  rw [List.append_assoc _ w y, words_append_run_append nonempty separators, before, behind,
    List.append_assoc, List.singleton_append]

theorem isWord_of_mem_words (h : w ∈ words separator t) : IsWord separator w :=
  ⟨ne_nil_of_mem_words h, fun _ hc => (of_mem_word h hc).2⟩

/-- A word without separators is one without some of them. -/
theorem IsWord.mono (word : IsWord separator w) (h : ∀ c, p c = true → separator c = true) :
    IsWord p w :=
  ⟨word.1, fun c hc => Bool.eq_false_iff.mpr fun other =>
    Bool.eq_false_iff.mp (word.2 c hc) (h c other)⟩

/-- A word begins with no separator. -/
theorem IsWord.all_head?_append (word : IsWord separator w) (rest : Text) :
    (w ++ rest).head?.all separator = false := by
  cases w with
  | nil => exact absurd rfl word.1
  | cons c w => exact word.2 c List.mem_cons_self

theorem IsWord.any_head?_append (word : IsWord separator w) (rest : Text) :
    (w ++ rest).head?.any separator = false := by
  cases w with
  | nil => exact absurd rfl word.1
  | cons c w => exact word.2 c List.mem_cons_self

/-- The first word stands behind separators only. -/
theorem exists_place_of_words_eq_cons (h : words separator t = w :: back) :
    ∃ run y, t = run ++ w ++ y ∧ (∀ c ∈ run, separator c = true) ∧
      words separator y = back ∧ y.head?.all separator = true := by
  obtain ⟨run, rest, rfl, separators, first⟩ := exists_split_head (fun c => !separator c) t
  obtain ⟨v, y, rfl, solid, closes⟩ := exists_split_head separator rest
  have separators : ∀ c ∈ run, separator c = true := fun c hc => by simpa using separators c hc
  rw [words_run_append separators, words_append_of_head closes] at h
  have nonempty : v ≠ [] := by
    rintro rfl
    -- Without a word, no separator and no other character can follow.
    cases y with
    | nil => cases h
    | cons c y =>
        have other : (!separator c) = true := first
        rw [show separator c = true from closes] at other
        cases other
  rw [words_of_isWord ⟨nonempty, solid⟩, List.singleton_append] at h
  obtain ⟨rfl, rfl⟩ := List.cons.inj h
  exact ⟨run, y, (List.append_assoc ..).symm, separators, rfl, closes⟩

/-- A word stands between separators or ends, and the other words before it and behind it. -/
theorem exists_place_of_words_eq (h : words separator t = front ++ w :: back) :
    ∃ x y, t = x ++ w ++ y ∧ words separator x = front ∧ words separator y = back ∧
      x.getLast?.all separator = true ∧ y.head?.all separator = true := by
  induction front generalizing t with
  | nil =>
      obtain ⟨run, y, rfl, separators, behind, closes⟩ := exists_place_of_words_eq_cons h
      refine ⟨run, y, rfl, words_eq_nil_iff.mpr separators, behind, ?_, closes⟩
      cases last : run.getLast? with
      | none => rfl
      | some c => exact separators c (List.mem_of_getLast? last)
  | cons v front ih =>
      have first : v ∈ words separator t := by rw [h]; exact List.mem_cons_self
      obtain ⟨run, rest, rfl, separators, behind, closes⟩ := exists_place_of_words_eq_cons h
      have listed : w ∈ words separator rest := by rw [behind]; simp
      obtain ⟨x, y, rfl, before, behind, opens, closes'⟩ := ih behind
      -- Before the word stands a separator, since one stands behind the first word.
      have nonempty : x ≠ [] := by
        rintro rfl
        rw [List.nil_append, (isWord_of_mem_words listed).all_head?_append y] at closes
        cases closes
      refine ⟨run ++ v ++ x, y, by simp, ?_, behind, ?_, closes'⟩
      · rw [List.append_assoc, List.head?_append_of_ne_nil _ nonempty] at closes
        rw [List.append_assoc, words_run_append separators, words_append_of_head closes,
          words_of_isWord (isWord_of_mem_words first), before, List.singleton_append]
      · rwa [List.getLast?_append_of_ne_nil _ nonempty]

/-- Two words in a row have separators between them. -/
theorem exists_places_of_words_eq {v : Text} (h : words separator t = front ++ v :: w :: back) :
    ∃ x gap y, t = x ++ v ++ gap ++ w ++ y ∧ gap ≠ [] ∧ (∀ c ∈ gap, separator c = true) ∧
      x.getLast?.all separator = true ∧ y.head?.all separator = true := by
  obtain ⟨x, rest, rfl, -, behind, opens, first⟩ := exists_place_of_words_eq h
  have listed : w ∈ words separator rest := by rw [behind]; exact List.mem_cons_self
  obtain ⟨gap, y, rfl, separators, -, closes⟩ := exists_place_of_words_eq_cons behind
  refine ⟨x, gap, y, by simp, ?_, separators, opens, closes⟩
  rintro rfl
  rw [List.nil_append, (isWord_of_mem_words listed).all_head?_append y] at first
  cases first

/-! ## Collapsed texts -/

/-- Collapsing keeps the words. -/
theorem words_collapse (space : separator ' ' = true) (t : Text) :
    words separator (collapse separator t) = words separator t := by
  unfold collapse
  cases listed : words separator t with
  | nil => exact words_nil
  | cons v ws =>
      refine (joinedBy_unwords (List.cons_ne_nil v ws)).words_eq ?_ fun u hu => ?_
      · intro c hc
        rw [List.mem_singleton.mp hc]
        exact space
      · rw [← listed] at hu
        exact isWord_of_mem_words hu

/-- A collapsed text has no separators at its ends. -/
theorem endsWithout_collapse (separates : ∀ c, p c = true → separator c = true) (t : Text) :
    EndsWithout p (collapse separator t) := by
  unfold collapse
  by_cases none : words separator t = []
  · rw [none]
    constructor <;> rintro c ⟨⟩
  · exact (joinedBy_unwords none).endsWithout fun w hw => (isWord_of_mem_words hw).mono separates

/-- A collapsed text has spaces and characters of the text that are no separators. -/
theorem eq_space_or_of_mem_collapse {c : Char} (h : c ∈ collapse separator t) :
    c = ' ' ∨ c ∈ t ∧ separator c = false := by
  unfold collapse at h
  by_cases none : words separator t = []
  · rw [none] at h
    cases h
  · rcases (joinedBy_unwords none).mem_word_or_mem_gaps h with ⟨v, hv, hc⟩ | gap
    · exact .inr (of_mem_word hv hc)
    · exact .inl (List.mem_singleton.mp gap)

/-- Some of the words of a line stand between spaces or ends. -/
theorem exists_place_of_unwords (front : List Text) {ws : List Text} (back : List Text)
    (nonempty : ws ≠ []) : ∃ x y, unwords (front ++ ws ++ back) = x ++ unwords ws ++ y ∧
      x.getLast?.all (· == ' ') = true ∧ y.head?.all (· == ' ') = true := by
  have behind : ∃ y, unwords (ws ++ back) = unwords ws ++ y ∧ y.head?.all (· == ' ') = true := by
    by_cases last : back = []
    · exact ⟨[], by rw [last, List.append_nil, List.append_nil], rfl⟩
    · exact ⟨' ' :: unwords back, unwords_append nonempty last, rfl⟩
  obtain ⟨y, line, closes⟩ := behind
  by_cases first : front = []
  · exact ⟨[], y, by rw [first, List.nil_append, line, List.nil_append], rfl, closes⟩
  · refine ⟨unwords front ++ [' '], y, ?_, ?_, closes⟩
    · rw [List.append_assoc, unwords_append first (List.append_ne_nil_of_left_ne_nil nonempty back),
        line]
      simp
    · rw [List.getLast?_concat]
      rfl

/-- What stands in a collapsed text and has no separator stands in the text too, beside the same
characters, separators and ends apart. -/
theorem exists_place_of_collapse {x y : Text} (space : separator ' ' = true)
    (separates : ∀ c, separator c = true → p c = true) (word : IsWord separator w)
    (collapsed : collapse separator t = x ++ w ++ y) (opens : x.getLast?.all p = true)
    (closes : y.head?.all p = true) :
    ∃ x' y', t = x' ++ w ++ y' ∧ x'.getLast?.all p = true ∧ y'.head?.all p = true := by
  obtain ⟨front, head, rfl, before, solid⟩ := exists_split_getLast separator x
  obtain ⟨tail, back, rfl, solid', behind⟩ := exists_split_head separator y
  have whole : IsWord separator (head ++ w ++ tail) := by
    refine ⟨by simp [word.1], fun c hc => ?_⟩
    rw [List.mem_append, List.mem_append] at hc
    rcases hc with (hc | hc) | hc
    · exact solid c hc
    · exact word.2 c hc
    · exact solid' c hc
  have listed := words_collapse space t
  rw [collapsed, show front ++ head ++ w ++ (tail ++ back) = front ++ (head ++ w ++ tail) ++ back
    by simp, words_place whole before behind] at listed
  obtain ⟨x', y', rfl, -, -, opens', closes'⟩ := exists_place_of_words_eq listed.symm
  refine ⟨x' ++ head, tail ++ y', by simp, ?_, ?_⟩
  · by_cases inside : head = []
    · rw [inside, List.append_nil]
      exact all_mono separates opens'
    · rw [List.getLast?_append_of_ne_nil _ inside] at opens ⊢
      exact opens
  · by_cases inside : tail = []
    · rw [inside, List.nil_append]
      exact all_mono separates closes'
    · rw [List.head?_append_of_ne_nil _ inside] at closes ⊢
      exact closes

end ReleaseCatalog.Text
