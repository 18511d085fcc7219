import ReleaseCatalog.Proofs.Release.TagScan

/-!
# Quality tags as words

A quality tag is one word or two.  It begins and ends with a word character, so no word and no
marker runs into it, and it has at most one separator (`isWord_of_reads_append`).  If the separator
is a space, the tag is one of seven pairs of words, and a hyphen or a dot may stand for the space
(`reads_append_of_space`).  No other separator may, and the low line is one.
-/

namespace ReleaseCatalog.Release

open Unicode (isWordChar)
open Reader (Local Reads all optional one word)
open Text (IsWord)

variable {tag a b : Text} {c : Char}

/-! ## Ends of a quality tag -/

theorem isWordChar_tagForm (c : Char) : isWordChar (tagForm c) = isWordChar c := by
  unfold tagForm
  split
  · next digit =>
      have zero : isWordChar '0' = true := by decide
      exact zero.trans (Unicode.isWordChar_of_isDecimal digit).symm
  · exact apply_caselessLetter (by decide +kernel) (by decide +kernel) c

/-- A quality tag begins and ends with a word character. -/
theorem any_isWordChar_of_reads (h : qualityTag.Reads tag) :
    tag.head?.any isWordChar = true ∧ tag.getLast?.any isWordChar = true := by
  have ends : ∀ form ∈ qualityForms.flatten,
      form.head?.any isWordChar = true ∧ form.getLast?.any isWordChar = true := by decide +kernel
  obtain ⟨head, last⟩ := ends _ (hasForms_qualityTag.mem_forms tag h)
  rw [List.head?_map, any_map isWordChar_tagForm] at head
  rw [List.getLast?_map, any_map isWordChar_tagForm] at last
  exact ⟨head, last⟩

/-! ## Separators in a quality tag -/

/-- A quality tag has at most one separator, with a word on each side. -/
theorem isWord_of_reads_append (h : qualityTag.Reads (a ++ c :: b))
    (separator : isSeparator c = true) : IsWord isSeparator a ∧ IsWord isSeparator b := by
  have sole : ∀ form ∈ qualityForms.flatten, (form.filter isSeparator).length ≤ 1 := by
    decide +kernel
  have short := sole _ (hasForms_qualityTag.mem_forms _ h)
  have reads := reads_technicalTag.mpr (.inl h)
  rw [List.filter_map, isSeparator_tagForm.comp, List.length_map, List.filter_append,
    List.filter_cons_of_pos separator, List.length_append, List.length_cons] at short
  have none : (a.filter isSeparator).length = 0 ∧ (b.filter isSeparator).length = 0 := by omega
  rw [List.length_eq_zero_iff, List.length_eq_zero_iff, List.filter_eq_nil_iff,
    List.filter_eq_nil_iff] at none
  refine ⟨⟨?_, fun d hd => Bool.eq_false_iff.mpr (none.1 d hd)⟩,
    ⟨?_, fun d hd => Bool.eq_false_iff.mpr (none.2 d hd)⟩⟩
  · rintro rfl
    rw [List.nil_append] at reads
    rw [head_of_reads reads] at separator
    cases separator
  · obtain ⟨d, rest, rfl, -⟩ := behind_separator_of_reads reads separator
    exact List.cons_ne_nil d rest

/-- A quality tag whose separators are spaces is a word or two words with a space. -/
theorem isWord_or_exists_space_of_reads (h : qualityTag.Reads tag)
    (spaces : ∀ c ∈ tag, isSeparator c = true → c = ' ') :
    IsWord isSeparator tag ∨ ∃ a b, tag = a ++ ' ' :: b := by
  by_cases separated : ∃ c ∈ tag, isSeparator c = true
  · obtain ⟨c, hc, separator⟩ := separated
    obtain rfl := spaces c hc separator
    obtain ⟨a, b, split⟩ := List.append_of_mem hc
    exact .inr ⟨a, b, split⟩
  · refine .inl ⟨?_, fun c hc => Bool.eq_false_iff.mpr fun separator => ?_⟩
    · rintro rfl
      exact not_reads_nil (reads_technicalTag.mpr (.inl h))
    · exact separated ⟨c, hc, separator⟩

/-! ## Quality tags of two words -/

/-- The words of the quality tags that may have a space. -/
def compoundWords : List (String × String) :=
  [("web", "dl"), ("web", "rip"), ("blu", "ray"), ("bd", "rip"), ("br", "rip"), ("dvd", "rip"),
    ("hd", "rip")]

/-- A text whose form is a word of letters is read as the word. -/
theorem reads_word_of_form {w : String} {t : Text} (form : t.map tagForm = w.toList)
    (solid : '0' ∉ w.toList) : Reads (word w) t := by
  unfold word
  generalize w.toList = letters at form solid ⊢
  induction letters generalizing t with
  | nil =>
      obtain rfl := List.map_eq_nil_iff.mp form
      exact Reader.reads_nothing.mpr rfl
  | cons l letters ih =>
      obtain ⟨c, t, rfl, same, form⟩ := List.map_eq_cons_iff.mp form
      rw [List.mem_cons, not_or] at solid
      have letter : caselessLetter c = l := by
        unfold tagForm at same
        split at same
        · exact absurd same solid.1
        · exact same
      refine (Reader.local_one _).reads_seq.mpr ⟨[c], t, rfl, ?_, ih form solid.2⟩
      exact Reader.reads_one.mpr ⟨c, rfl, beq_iff_eq.mpr letter⟩

/-- Two words with a hyphen, a dot or a space between them. -/
theorem reads_compound {first second : String} (reads : (word first).Reads a)
    (reads' : (word second).Reads b) (gap : c ∈ ['-', '.', ' ']) :
    (compound first second).Reads (a ++ c :: b) := by
  refine (hasForms_word first).isLocal.reads_seq.mpr ⟨a, c :: b, rfl, reads, ?_⟩
  have between : Reads (optional (one fun c => c == '-' || c == '.' || c == ' ')) [c] := by
    refine Reader.reads_optional.mpr (.inl (Reader.reads_one.mpr ⟨c, rfl, ?_⟩))
    simpa [or_assoc] using gap
  refine (Reader.local_one _).optional.reads_seq.mpr ⟨[c], b, rfl, between, ?_⟩
  exact (hasForms_word second).isLocal.reads_seq.mpr
    ⟨b, [], (List.append_nil b).symm, reads', Reader.reads_nothing.mpr rfl⟩

/-- Between the words of a quality tag with a space a hyphen or a dot may stand as well. -/
theorem reads_append_of_space (h : qualityTag.Reads (a ++ ' ' :: b))
    (gap : c ∈ ['-', '.', ' ']) : qualityTag.Reads (a ++ c :: b) := by
  have listed : ∀ form ∈ qualityForms.flatten, ∀ n < form.length, form[n]? = some ' ' →
      ∃ pair ∈ compoundWords, form.take n = pair.1.toList ∧ form.drop (n + 1) = pair.2.toList := by
    decide +kernel
  have letters : ∀ pair ∈ compoundWords, '0' ∉ pair.1.toList ∧ '0' ∉ pair.2.toList := by decide
  have space : tagForm ' ' = ' ' := by decide
  obtain ⟨pair, member, first, second⟩ := listed _ (hasForms_qualityTag.mem_forms _ h) a.length
    (by simp) (by simp [space])
  rw [List.map_append, ← List.length_map tagForm, List.take_left] at first
  rw [List.map_append, List.map_cons, ← List.length_map tagForm, List.append_cons,
    List.drop_left' (by simp)] at second
  obtain ⟨solid, solid'⟩ := letters pair member
  have reads := reads_compound (reads_word_of_form first solid)
    (reads_word_of_form second solid') gap
  refine Reader.reads_choice.mpr ⟨compound pair.1 pair.2, ?_, reads⟩
  simp only [compoundWords, List.mem_cons, List.not_mem_nil, or_false] at member
  rcases member with rfl | rfl | rfl | rfl | rfl | rfl | rfl
  all_goals simp only [List.mem_cons, true_or, or_true]

end ReleaseCatalog.Release
