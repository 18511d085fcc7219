import Mathlib.Data.List.Infix
import ReleaseCatalog.Proofs.Text.Joining
import ReleaseCatalog.Proofs.Text.Scanning
import ReleaseCatalog.Proofs.Unicode.Classes
import ReleaseCatalog.Release.Parser

/-!
# Preparing a name without brackets

A name is prepared by dropping the endings of a file name and setting its
bracket groups apart.  `FileOf name raw` says that `raw` is the name itself or
the name with the extension of a video file, in any letter case.  Dropping the
extension gives the name back (`dropExtension_eq`), in whatever order the
extensions are tried, since none of them is the end of another.

What the counter of copies takes from a name is decided by the last character
that is no digit (`dropCounter_append_digits`).  A name without brackets has no
groups, so nothing else changes it (`Parser.prepare_eq`).
-/

namespace ReleaseCatalog.Release

open Text (EndsWithout)
open Unicode (isBlank isDecimal)

/-! ## Extensions -/

/-- The name of a file: a name that ends in no extension, or a name followed by one. -/
inductive FileOf (name : Text) : Text → Prop where
  | bare : (∀ extension ∈ videoFileExtensions, ¬ extension <:+ name.map smallLetter) →
      FileOf name name
  | extended {ending : Text} : ending.map smallLetter ∈ videoFileExtensions →
      FileOf name (name ++ ending)

theorem hasExtension_iff {name extension : Text} :
    hasExtension name extension = true ↔
      extension <:+ name.map smallLetter ∧ extension.length < name.length := by
  unfold hasExtension Text.endsWith
  rw [Bool.and_eq_true, List.isSuffixOf_iff_suffix, decide_eq_true_eq]

/-- No extension is the end of another. -/
theorem eq_of_isSuffix_extension : ∀ e ∈ videoFileExtensions, ∀ e' ∈ videoFileExtensions,
    e <:+ e' → e = e' := by
  decide

variable {extensions : List Text} {name raw : Text}

/-- Dropping the extension of a file name gives back the name. -/
theorem dropExtension_eq (known : extensions.Perm videoFileExtensions) (nonempty : name ≠ [])
    (file : FileOf name raw) : dropExtension extensions raw = name := by
  unfold dropExtension
  cases file with
  | bare noEnding =>
      have nothing : extensions.find? (hasExtension name) = none := by
        refine List.find?_eq_none.mpr fun e he has => ?_
        exact noEnding e (known.mem_iff.mp he) (hasExtension_iff.mp has).1
      rw [nothing]
  | @extended ending listed =>
      have ends : ending.map smallLetter <:+ (name ++ ending).map smallLetter := by
        rw [List.map_append]
        exact List.suffix_append _ _
      have shorter : (ending.map smallLetter).length < (name ++ ending).length := by
        have := List.length_pos_of_ne_nil nonempty
        rw [List.length_map, List.length_append]
        omega
      cases found : extensions.find? (hasExtension (name ++ ending)) with
      | none =>
          have has := List.find?_eq_none.mp found _ (known.mem_iff.mpr listed)
          exact absurd (hasExtension_iff.mpr ⟨ends, shorter⟩) has
      | some e =>
          have he := known.mem_iff.mp (List.mem_of_find?_eq_some found)
          have ends' := (hasExtension_iff.mp (List.find?_some found)).1
          have same : e = ending.map smallLetter := by
            cases List.suffix_or_suffix_of_suffix ends' ends with
            | inl h => exact eq_of_isSuffix_extension _ he _ listed h
            | inr h => exact (eq_of_isSuffix_extension _ listed _ he h).symm
          show (name ++ ending).take ((name ++ ending).length - e.length) = name
          rw [same, List.length_map, List.length_append, Nat.add_sub_cancel, List.take_left]

/-- A name has no extension if no extension ends in its last letter. -/
theorem no_extension_of_last {c : Char} (last : name.getLast? = some c)
    (other : ∀ e ∈ videoFileExtensions, e ≠ [] ∧ e.getLast? ≠ some (smallLetter c)) :
    ∀ e ∈ videoFileExtensions, ¬ e <:+ name.map smallLetter := by
  rintro e he ⟨front, split⟩
  obtain ⟨nonempty, differs⟩ := other e he
  have ends := congrArg List.getLast? split
  rw [List.getLast?_append_of_ne_nil _ nonempty, List.getLast?_map, last] at ends
  exact differs ends

/-- A name that ends in two digits has no extension. -/
theorem no_extension_of_digits {front digits : Text} (long : 2 ≤ digits.length)
    (decimal : ∀ d ∈ digits, isDecimal d = true) :
    ∀ e ∈ videoFileExtensions, ¬ e <:+ (front ++ digits).map smallLetter := by
  have ends : ∀ e ∈ videoFileExtensions, 2 ≤ e.length ∧
      ∀ s ∈ e.tails, 2 ≤ s.length → s.all isDecimal = false := by decide
  have small : digits.map smallLetter = digits :=
    (List.map_congr_left fun c hc => smallLetter_of_isDecimal (decimal c hc)).trans (List.map_id _)
  intro e he suffix
  obtain ⟨e_long, other⟩ := ends e he
  rw [List.map_append, small] at suffix
  rcases List.suffix_or_suffix_of_suffix suffix (List.suffix_append _ _) with short | longer
  · have digitless := other e ((List.mem_tails _ _).mpr List.suffix_rfl) e_long
    rw [List.all_eq_true.mpr fun c hc => decimal c (short.subset hc)] at digitless
    cases digitless
  · have digitless := other digits ((List.mem_tails _ _).mpr longer) long
    rw [List.all_eq_true.mpr decimal] at digitless
    cases digitless

/-- An extension brings no blank to the end of a name. -/
theorem FileOf.endsWithout_isBlank (file : FileOf name raw) (nonempty : name ≠ [])
    (ends : EndsWithout isBlank name) : EndsWithout isBlank raw := by
  cases file with
  | bare => exact ends
  | @extended ending listed =>
      have solid : ∀ e ∈ videoFileExtensions, e ≠ [] ∧ ∀ c ∈ e, isBlank c = false := by decide
      obtain ⟨long, clear⟩ := solid _ listed
      have ending_ne_nil : ending ≠ [] := fun empty => long (List.map_eq_nil_iff.mpr empty)
      constructor
      · rw [List.head?_append_of_ne_nil _ nonempty]
        exact ends.1
      · rw [List.getLast?_append_of_ne_nil _ ending_ne_nil]
        intro c hc
        refine Bool.eq_false_iff.mpr fun blank => ?_
        have small := clear _ (List.mem_map_of_mem (List.mem_of_mem_getLast? hc))
        rw [smallLetter_of_isBlank blank, blank] at small
        cases small

/-! ## Counters -/

theorem beforeCounter?_eq_none {reversed : Text} (h : reversed.head?.any isDecimal = false) :
    beforeCounter? reversed = none := by
  unfold beforeCounter?
  split
  · rw [if_neg fun both => Bool.eq_false_iff.mp h both.2]
  · rfl

/-- A name that ends in no digit has no counter, a final line feed apart. -/
theorem dropCounter_eq_self {c : Char} (last : name.getLast? = some c) (digit : isDecimal c = false)
    (line : c ≠ '\n') : dropCounter name = name := by
  have first : name.reverse.head? = some c := by rw [List.head?_reverse, last]
  unfold dropCounter
  split
  · next reversed h =>
      rw [h] at first
      exact absurd (Option.some.inj first).symm line
  · rw [beforeCounter?_eq_none (by rw [first]; exact digit), Option.getD_none, List.reverse_reverse]

/-- What is left of a name backwards, behind its first digits. -/
theorem beforeCounter?_digits_append {digits front : Text} {c : Char} (nonempty : digits ≠ [])
    (decimal : ∀ d ∈ digits, isDecimal d = true) (other : isDecimal c = false) :
    beforeCounter? (digits ++ c :: front) =
      if c = '_' ∧ front.head?.any isDecimal = true then some front else none := by
  have behind : (digits ++ c :: front).dropWhile isDecimal = c :: front := by
    rw [List.dropWhile_append_of_pos decimal,
      List.dropWhile_cons_of_neg (Bool.eq_false_iff.mp other)]
  have first : (digits ++ c :: front).head?.any isDecimal = true := by
    cases digits with
    | nil => exact absurd rfl nonempty
    | cons d digits => exact decimal d List.mem_cons_self
  unfold beforeCounter?
  rw [behind, first]
  by_cases low : c = '_'
  · subst low
    cases front with
    | nil => rfl
    | cons digit front => simp
  · rw [if_neg fun both => low both.1]
    split
    · next h => exact absurd (List.cons.inj h).1 low
    · rfl

/-- Digits at the end of a name are a counter exactly if a low line stands
before them and a digit before that. -/
theorem dropCounter_append_digits {front digits : Text} {c : Char} (nonempty : digits ≠ [])
    (decimal : ∀ d ∈ digits, isDecimal d = true) (other : isDecimal c = false) :
    dropCounter (front ++ c :: digits) =
      if c = '_' ∧ front.getLast?.any isDecimal = true then front else front ++ c :: digits := by
  have reversed : (front ++ c :: digits).reverse = digits.reverse ++ c :: front.reverse := by
    rw [List.reverse_append, List.reverse_cons, List.append_assoc, List.singleton_append]
  have counter := @beforeCounter?_digits_append digits.reverse front.reverse c
    (mt List.reverse_eq_nil_iff.mp nonempty)
    (fun d hd => decimal d (List.mem_reverse.mp hd)) other
  rw [List.head?_reverse, ← reversed] at counter
  unfold dropCounter
  split
  · next rest h =>
      -- A final line feed is no digit.
      have last : '\n' ∈ digits := by
        rw [reversed] at h
        cases back : digits.reverse with
        | nil => exact absurd (List.reverse_eq_nil_iff.mp back) nonempty
        | cons d ds =>
            rw [back] at h
            rw [← (List.cons.inj h).1]
            exact List.mem_reverse.mp (back ▸ List.mem_cons_self)
      exact absurd (decimal _ last) (by decide)
  · rw [counter]
    split
    · rw [Option.getD_some, List.reverse_reverse]
    · rw [Option.getD_none, List.reverse_reverse]

/-! ## Brackets -/

/-- A group begins with its opening bracket. -/
theorem groupFinder_eq_none {opening closing : Char} {previous : Option Char} {t : Text}
    (h : t.head? ≠ some opening) : groupFinder opening closing previous t = none := by
  unfold groupFinder
  cases t with
  | nil => rfl
  | cons c rest =>
      have hc : c ≠ opening := by
        rintro rfl
        exact h rfl
      simp [hc]

theorem groups_eq_nil {opening closing : Char} {t : Text} (h : opening ∉ t) :
    (groupFinder opening closing).occurrences t = [] := by
  rw [Finder.occurrences_eq_nil_iff]
  rintro before rest rfl - value length found
  rw [groupFinder_eq_none fun first =>
    h (List.mem_append_right _ (List.mem_of_head? first))] at found
  cases found

/-- The brackets that open groups. -/
def openingBrackets : List Char := ['[', '\x7b', '(']

/-- A name without opening brackets has no groups. -/
theorem dropGroups_eq_self (h : ∀ c ∈ name, c ∉ openingBrackets) : dropGroups name = name := by
  have absent : ∀ bracket ∈ openingBrackets, bracket ∉ name := fun b hb hn => h b hn hb
  simp only [dropGroups]
  rw [Finder.replaceAll_eq_self (groups_eq_nil (absent '[' (by decide))),
    Finder.replaceAll_eq_self (groups_eq_nil (absent '\x7b' (by decide))),
    Finder.replaceAll_eq_self (groups_eq_nil (absent '(' (by decide)))]

/-- No studio is set apart from a name that does not begin with a square bracket. -/
theorem studioAndRest_eq_self_of_head (h : (name.dropWhile isBlank).head? ≠ some '[') :
    studioAndRest name = (none, name) := by
  have none : leadingGroup? name = none := by
    show (groupFinder '[' ']' none (name.dropWhile isBlank)).bind _ = _
    rw [groupFinder_eq_none h]
    rfl
  unfold studioAndRest
  rw [none]

theorem studioAndRest_eq_self (h : '[' ∉ name) : studioAndRest name = (none, name) :=
  studioAndRest_eq_self_of_head fun first =>
    h ((List.dropWhile_suffix _).subset (List.mem_of_head? first))

/-! ## The prepared name -/

/-- A name is prepared by taking the endings of a file name away, then the leading studio, and then
the groups. -/
theorem Parser.exists_rest_of_prepare {parser : Parser} {studio : Option Text} {body : Text}
    (h : parser.prepare raw = ⟨studio, body⟩) :
    ∃ rest, studioAndRest (dropCounter (dropExtension parser.extensions (Text.trimBlank raw))) =
      (studio, rest) ∧ dropGroups rest = body := by
  obtain ⟨rfl, rfl⟩ := PreparedName.mk.inj h
  exact ⟨_, rfl, rfl⟩

/-- The name of a file without brackets is prepared by dropping its counter, if it has one. -/
theorem Parser.prepare_eq {parser : Parser} (known : parser.extensions.Perm videoFileExtensions)
    (nonempty : name ≠ []) (ends : EndsWithout isBlank name) (file : FileOf name raw)
    (brackets : ∀ c ∈ dropCounter name, c ∉ openingBrackets) :
    parser.prepare raw = ⟨none, dropCounter name⟩ := by
  unfold prepare Text.trimBlank
  rw [Text.trim_eq_self (file.endsWithout_isBlank nonempty ends),
    dropExtension_eq known nonempty file,
    studioAndRest_eq_self fun member => brackets '[' member (by decide)]
  show PreparedName.mk none (dropGroups (dropCounter name)) = _
  rw [dropGroups_eq_self brackets]

end ReleaseCatalog.Release
