import ReleaseCatalog.Proofs.Text.Scanning
import ReleaseCatalog.Proofs.Text.WordSpans
import ReleaseCatalog.Proofs.Unicode.Classes

/-!
# Spacing a text in one pass

A text can be collapsed without being taken apart.  A scan puts one space for each run of
separators (`spaceRuns`), and the spaces at the ends are trimmed.  The scan reads a run to its
end, where a word begins or the text ends (`spaceRuns_run_append`), and it leaves words alone
(`spaceRuns_word_append`).  So behind a word it writes a space before each word to come, and
perhaps one more at the end (`exists_spaceRuns_behind`).  A line of words is written in the same
way (`unwords_cons`).

Trimming takes blank characters, which need not be all the separators.  Here it takes the spaces
at the ends and nothing else, since every blank character is a separator and none stands in a
word (`trimBlank_spaceRuns`).

`spacedWords_joins_maximal_spans` puts together what collapsing the separators of a name does.
It is this one pass, and it writes the maximal unbroken spans of the name with single spaces.
Done twice it changes nothing, and it leaves nothing exactly of separators.  Of two parts with
separators between them only the collapsed forms matter.
-/

namespace ReleaseCatalog.Text

open Unicode (isBlank)

variable {separator : Char → Bool} {run t w y : Text}

/-! ## The scan -/

/-- Finds a run of separators, as long as possible. -/
def runFinder (separator : Char → Bool) : Finder Unit :=
  Finder.ofReader (fun _ => true) (Reader.many1 separator)

/-- A text with one space for each run of separators. -/
def spaceRuns (separator : Char → Bool) (t : Text) : Text :=
  (runFinder separator).replaceAll (fun _ _ => [' ']) t

theorem runFinder_neverLooksBack (separator : Char → Bool) :
    (runFinder separator).NeverLooksBack := fun _ _ _ => rfl

/-- A run is read to its end. -/
theorem head?_many (separators : ∀ c ∈ run, separator c = true)
    (ends : t.head?.any separator = false) :
    (Reader.many separator (run ++ t)).head? = some t := by
  induction run with
  | nil =>
      cases t with
      | nil => rfl
      | cons d t =>
          have other : separator d = false := ends
          rw [List.nil_append, Reader.many, if_neg (Bool.eq_false_iff.mp other)]
          rfl
  | cons c run ih =>
      rw [List.cons_append, Reader.many, if_pos (separators c List.mem_cons_self),
        List.head?_append, ih fun d hd => separators d (List.mem_cons_of_mem _ hd)]
      rfl

theorem runFinder_run (nonempty : run ≠ []) (separators : ∀ c ∈ run, separator c = true)
    (ends : t.head?.any separator = false) (previous : Option Char) :
    runFinder separator previous (run ++ t) = some ((), run.length) := by
  cases run with
  | nil => exact absurd rfl nonempty
  | cons c run =>
      have first : Reader.one separator (c :: (run ++ t)) = [run ++ t] :=
        if_pos (separators c List.mem_cons_self)
      have rest := head?_many (fun d hd => separators d (List.mem_cons_of_mem _ hd)) ends
      unfold runFinder Finder.ofReader Reader.many1 Reader.seq
      rw [if_pos rfl, List.cons_append, first, List.flatMap_singleton, rest, Option.map_some,
        ← List.cons_append, List.length_append, Nat.add_sub_cancel]

/-- A run of separators becomes one space. -/
theorem spaceRuns_run_append (nonempty : run ≠ []) (separators : ∀ c ∈ run, separator c = true)
    (ends : t.head?.any separator = false) :
    spaceRuns separator (run ++ t) = ' ' :: spaceRuns separator t :=
  (runFinder_neverLooksBack separator).replaceAll_hit nonempty
    (runFinder_run nonempty separators ends none)

/-- What has no separator is left alone. -/
theorem spaceRuns_word_append (word : ∀ c ∈ w, separator c = false) (t : Text) :
    spaceRuns separator (w ++ t) = w ++ spaceRuns separator t := by
  induction w with
  | nil => rfl
  | cons c w ih =>
      have nothing : (runFinder separator).FindsNothing none (c :: (w ++ t)) := by
        intro value length found
        have other : Reader.one separator (c :: (w ++ t)) = [] :=
          if_neg (Bool.eq_false_iff.mp (word c List.mem_cons_self))
        unfold runFinder Finder.ofReader Reader.many1 Reader.seq at found
        rw [if_pos rfl, other] at found
        cases found
      rw [List.cons_append, spaceRuns,
        (runFinder_neverLooksBack separator).replaceAll_cons nothing, ← spaceRuns,
        ih fun d hd => word d (List.mem_cons_of_mem _ hd), List.cons_append]

/-- Of separators nothing is left but spaces. -/
theorem spaceRuns_of_separators (separators : ∀ c ∈ t, separator c = true) :
    ∀ c ∈ spaceRuns separator t, c = ' ' := by
  by_cases nonempty : t = []
  · subst nonempty
    exact List.forall_mem_nil _
  · have whole := spaceRuns_run_append (t := []) nonempty separators rfl
    rw [List.append_nil] at whole
    rw [whole]
    exact fun c hc => List.mem_singleton.mp hc

/-! ## The words and the spaces between them -/

/-- Behind a word, the scan writes each word to come behind a space. -/
theorem exists_spaceRuns_behind (closes : y.head?.all separator = true) :
    ∃ back, spaceRuns separator y = (words separator y).flatMap (' ' :: ·) ++ back ∧
      ∀ c ∈ back, c = ' ' := by
  obtain ⟨ws, cut⟩ : ∃ ws, words separator y = ws := ⟨_, rfl⟩
  rw [cut]
  induction ws generalizing y with
  | nil => exact ⟨_, rfl, spaceRuns_of_separators (words_eq_nil_iff.mp cut)⟩
  | cons w ws ih =>
      have word : IsWord separator w :=
        isWord_of_mem_words (by rw [cut]; exact List.mem_cons_self)
      obtain ⟨run, rest, rfl, separators, behind, closes'⟩ := exists_place_of_words_eq_cons cut
      obtain ⟨back, written, spaces⟩ := ih closes' behind
      have nonempty : run ≠ [] := by
        rintro rfl
        rw [List.nil_append, word.all_head?_append] at closes
        cases closes
      refine ⟨back, ?_, spaces⟩
      rw [List.append_assoc, spaceRuns_run_append nonempty separators (word.any_head?_append rest),
        spaceRuns_word_append word.2, written, List.flatMap_cons]
      simp

/-- The scan writes the collapsed text and perhaps spaces at its ends. -/
theorem exists_spaceRuns_eq (separator : Char → Bool) (t : Text) :
    ∃ front back, spaceRuns separator t = front ++ collapse separator t ++ back ∧
      (∀ c ∈ front, c = ' ') ∧ ∀ c ∈ back, c = ' ' := by
  unfold collapse
  cases cut : words separator t with
  | nil =>
      refine ⟨_, [], ?_, spaceRuns_of_separators (words_eq_nil_iff.mp cut), List.forall_mem_nil _⟩
      rw [List.append_nil]
      exact (List.append_nil _).symm
  | cons w ws =>
      have word : IsWord separator w :=
        isWord_of_mem_words (by rw [cut]; exact List.mem_cons_self)
      obtain ⟨run, rest, rfl, separators, behind, closes⟩ := exists_place_of_words_eq_cons cut
      obtain ⟨back, written, spaces⟩ := exists_spaceRuns_behind closes
      have line : spaceRuns separator (w ++ rest) = unwords (w :: ws) ++ back := by
        rw [spaceRuns_word_append word.2, written, behind, unwords_cons, List.append_assoc]
      by_cases nonempty : run = []
      · exact ⟨[], back, by rw [nonempty, List.nil_append, List.nil_append, line],
          List.forall_mem_nil _, spaces⟩
      · refine ⟨[' '], back, ?_, fun c hc => List.mem_singleton.mp hc, spaces⟩
        rw [List.append_assoc,
          spaceRuns_run_append nonempty separators (word.any_head?_append rest), line]
        rfl

/-- Spacing the runs of separators and trimming the ends collapses a text. -/
theorem trimBlank_spaceRuns (separates : ∀ c, isBlank c = true → separator c = true) (t : Text) :
    trimBlank (spaceRuns separator t) = collapse separator t := by
  have blank : ∀ c, c = ' ' → isBlank c = true := by
    rintro c rfl
    decide
  by_cases empty : collapse separator t = []
  · have spaces := spaceRuns_of_separators (collapse_eq_nil_iff.mp empty)
    rw [empty]
    exact trim_eq_nil fun c hc => blank c (spaces c hc)
  · obtain ⟨front, back, written, first, last⟩ := exists_spaceRuns_eq separator t
    rw [written]
    exact trim_eq_of_split (fun c hc => blank c (first c hc)) (fun c hc => blank c (last c hc))
      empty (endsWithout_collapse separates t)

/-! ## Collapsing -/

/-- A collapsed text is collapsed already. -/
theorem collapse_collapse (space : separator ' ' = true) (t : Text) :
    collapse separator (collapse separator t) = collapse separator t :=
  congrArg unwords (words_collapse space t)

/-- Two texts with separators between them collapse to their collapsed forms with a space
between, where both are there. -/
theorem collapse_append_run_append (nonempty : run ≠ [])
    (separators : ∀ c ∈ run, separator c = true) (a b : Text) :
    collapse separator (a ++ run ++ b) =
      unwords ([collapse separator a, collapse separator b].filter (· ≠ [])) := by
  have line : collapse separator (a ++ run ++ b) = unwords (words separator a ++ words separator b) :=
    congrArg unwords (words_append_run_append nonempty separators a b)
  have empty_iff : ∀ t, collapse separator t = [] ↔ words separator t = [] := fun t =>
    collapse_eq_nil_iff.trans words_eq_nil_iff.symm
  by_cases first : words separator a = []
  · have whole : collapse separator (a ++ run ++ b) = collapse separator b := by
      rw [line, first, List.nil_append]
      rfl
    rw [whole, (empty_iff a).mpr first]
    by_cases second : collapse separator b = []
    · simp [second, unwords, join]
    · simp [second, unwords_cons]
  · have kept := mt (empty_iff a).mp first
    by_cases second : words separator b = []
    · have whole : collapse separator (a ++ run ++ b) = collapse separator a := by
        rw [line, second, List.append_nil]
        rfl
      rw [whole, (empty_iff b).mpr second]
      simp [kept, unwords_cons]
    · have kept' := mt (empty_iff b).mp second
      have whole : collapse separator (a ++ run ++ b) =
          collapse separator a ++ ' ' :: collapse separator b := by
        rw [line, unwords_append first second]
        rfl
      rw [whole]
      simp [kept, kept', unwords_cons]

/-- A name whose separators are collapsed has one space for each run of them and none at the
ends.  It is the longest parts without separators, from left to right, with single spaces. -/
theorem spacedWords_joins_maximal_spans (t : Text) :
    trimBlank (spaceRuns isSeparator t) = spacedWords t ∧
    (∃ spans, ListsSpans isSeparator t spans ∧ spacedWords t = unwords (spans.map (spanText t))) ∧
    spacedWords (spacedWords t) = spacedWords t ∧
    (spacedWords t = [] ↔ ∀ c ∈ t, isBlank c = true ∨ c ∈ "._-".toList) ∧
    ∀ a run b, t = a ++ run ++ b → run ≠ [] →
      (∀ c ∈ run, isBlank c = true ∨ c ∈ "._-".toList) →
      spacedWords t = unwords ([spacedWords a, spacedWords b].filter (· ≠ [])) := by
  refine ⟨trimBlank_spaceRuns (fun _ => isSeparator_of_isBlank) t, ?_,
    collapse_collapse (by decide) t, ?_, ?_⟩
  · obtain ⟨spans, listed, texts⟩ := exists_listsSpans isSeparator t
    exact ⟨spans, listed, congrArg unwords texts⟩
  · exact collapse_eq_nil_iff.trans (forall₂_congr fun _ _ => isSeparator_iff)
  · rintro a run b rfl nonempty separators
    exact collapse_append_run_append nonempty (fun c hc => isSeparator_iff.mpr (separators c hc))
      a b

/-- A dash between low lines is one run. -/
theorem spacedWords_quinn_waters :
    "Quinn.Waters_-_Title ".toList =
      "Quinn.Waters".toList ++ "_-_".toList ++ "Title ".toList ∧
    "_-_".toList ≠ [] ∧ (∀ c ∈ "_-_".toList, isBlank c = true ∨ c ∈ "._-".toList) ∧
    spacedWords "Quinn.Waters_-_Title ".toList = "Quinn Waters Title".toList := by
  have split : "Quinn.Waters_-_Title ".toList =
      "Quinn.Waters".toList ++ "_-_".toList ++ "Title ".toList := by decide
  have separators : ∀ c ∈ "_-_".toList, isBlank c = true ∨ c ∈ "._-".toList := by decide
  refine ⟨split, by decide, separators, ?_⟩
  obtain ⟨-, -, -, -, joins⟩ := spacedWords_joins_maximal_spans "Quinn.Waters_-_Title ".toList
  rw [joins _ _ _ split (by decide) separators]
  decide

end ReleaseCatalog.Text
