import Mathlib.Data.List.Induction
import ReleaseCatalog.Proofs.Text.Joining
import ReleaseCatalog.Proofs.Text.ReadFragments
import ReleaseCatalog.Proofs.Text.Renaming
import ReleaseCatalog.Proofs.Unicode.Classes
import ReleaseCatalog.Proofs.Unicode.SmallLetters
import ReleaseCatalog.Release.Tag

/-!
# Technical tags in a text

With all digits written as zeros and all letters as small ones, the technical tags
have few *forms*, which are listed here in the order of the tags.  What is asked of
every tag is decided on the forms: a tag does not begin or end with a separator and has
no two in a row (`tight_of_reads`), and none of its words is a number of two digits or
of four (`not_mem_nameWords_of_reads`).

`TagStands` says that a tag stands between two texts, and `HasTag` that one stands
somewhere in a text.  Neither mentions a search.  A text has occurrences of a tag exactly
if it has the tag (`technicalTags_eq_nil_iff`).  So separators around a text make no tag
of it, no tag reaches over two separators (`HasTag.of_gap`), and every tag of a text with
a word that no tag has stands before the word or behind it (`TagStands.beside`).
-/

namespace ReleaseCatalog.Release

open Reader (HasForms Local Reads all appended choice optional one word between)
open Unicode (isBlank isDecimal)

/-! ## Forms -/

/-- The characters other than capitals that count as an ASCII letter. -/
def letterLookalikes : List Char := ['\u017F', '\u212A', '\u0131', '\u0130']

/-- What is the same for a capital or another character that counts as a letter and for the letter
is the same for all characters and what they count as. -/
theorem apply_caselessLetter {β : Type} {g : Char → β}
    (lookalike : ∀ c ∈ letterLookalikes, g (caselessLetter c) = g c)
    (capital : ∀ c ∈ capitals, g c.toLower = g c) (c : Char) : g (caselessLetter c) = g c := by
  by_cases h : c ∈ letterLookalikes
  · exact lookalike c h
  · have plain : caselessLetter c = c.toLower := by
      simp only [letterLookalikes, List.mem_cons, List.not_mem_nil, or_false, not_or] at h
      simp [caselessLetter, h]
    rw [plain]
    exact apply_toLower capital c

/-- A character with letter case and the value of a digit forgotten. -/
def tagForm (c : Char) : Char := if isDecimal c then '0' else caselessLetter c

theorem tagForm_caselessLetter (c : Char) : tagForm (caselessLetter c) = tagForm c :=
  apply_caselessLetter (by decide) (by decide) c

theorem tagForm_of_isDecimal {c : Char} (h : isDecimal c = true) : tagForm c = '0' := if_pos h

theorem isDecimal_tagForm (c : Char) : isDecimal (tagForm c) = isDecimal c := by
  unfold tagForm
  split
  · next digit => rw [digit]; decide
  · exact apply_caselessLetter (by decide) (by decide) c

theorem isSeparator_tagForm : Keeps tagForm isSeparator := by
  intro c
  unfold tagForm
  split
  · next digit => rw [isSeparator_eq_false_of_isDecimal digit]; decide
  · exact apply_caselessLetter (by decide) (by decide) c

theorem tagForm_smallLetter (c : Char) : tagForm (smallLetter c) = tagForm c := by
  unfold smallLetter
  split
  · next kelvin => rw [kelvin]; decide
  · exact apply_toLower (by decide) c

/-- The forms of some texts. -/
def forms (texts : List String) : List Text := texts.map fun t => t.toList.map tagForm

/-- The forms of a row of readers that have forms. -/
def rowForms (row : List (List Text)) : List Text := row.foldr appended [[]]

/-- The forms of two words with at most one hyphen, dot or space between them. -/
def compoundForms (first second : String) : List Text :=
  rowForms [forms [first], [] :: forms ["-", ".", " "], forms [second]]

/-- The forms of the quality tags. -/
def qualityForms : List (List Text) := [
  rowForms [forms ["000", "0000"], forms ["p"]],
  rowForms [forms ["0"], forms ["k"]],
  forms ["uhd"],
  rowForms [forms ["x26"], forms ["0"]],
  rowForms [forms ["h"], [] :: forms ["."], forms ["26"], forms ["0"]],
  forms ["hevc"],
  forms ["avc"],
  forms ["av1"],
  forms ["xvid"],
  forms ["divx"],
  forms ["10bit"],
  rowForms [forms ["hdr"], [] :: forms ["10"]],
  compoundForms "web" "dl",
  compoundForms "web" "rip",
  compoundForms "blu" "ray",
  compoundForms "bd" "rip",
  compoundForms "br" "rip",
  compoundForms "dvd" "rip",
  compoundForms "hd" "rip",
  forms ["hdtv"],
  forms ["remux"]]

/-- The forms of the release flags. -/
def flagForms : List (List Text) :=
  [forms ["xxx"], forms ["repack"], forms ["proper"], forms ["internal"], forms ["mp4"],
    forms ["mkv"]]

theorem hasForms_word (w : String) : HasForms tagForm (forms [w]) (word w) :=
  Reader.hasForms_word tagForm_caselessLetter w

/-- One of some characters has their forms. -/
theorem hasForms_oneOf {p : Char → Bool} {texts : List Text} (chars : List Char)
    (h : ∀ c, p c = true → c ∈ chars) (listed : ∀ c ∈ chars, [tagForm c] ∈ texts) :
    HasForms tagForm texts (one p) :=
  Reader.hasForms_one fun c hc => listed c (h c hc)

theorem hasForms_digit : HasForms tagForm (forms ["0"]) (one isDecimal) := by
  refine Reader.hasForms_one fun c hc => ?_
  rw [tagForm_of_isDecimal hc]
  decide

theorem hasForms_digits : HasForms tagForm (forms ["000", "0000"]) (between isDecimal 3 4) := by
  have three := hasForms_digit.seq (hasForms_digit.seq (hasForms_digit.seq Reader.hasForms_nothing))
  have fourth := (hasForms_digit.seq Reader.hasForms_nothing).optional
  exact (three.seq fourth).mono (by decide)

theorem hasForms_compound (first second : String) :
    HasForms tagForm (compoundForms first second) (compound first second) := by
  have gap : HasForms tagForm (forms ["-", ".", " "])
      (one fun c => c == '-' || c == '.' || c == ' ') :=
    hasForms_oneOf ['-', '.', ' '] (by simp [or_assoc]) (by decide)
  exact .all <| .cons (hasForms_word first) <| .cons gap.optional <|
    .cons (hasForms_word second) .nil

theorem hasForms_codecDigit : HasForms tagForm (forms ["0"]) codecDigit :=
  hasForms_oneOf ['4', '5'] (by simp) (by decide)

theorem hasForms_qualityTag : HasForms tagForm qualityForms.flatten qualityTag := by
  have dot : HasForms tagForm (forms ["."]) (one fun c => c == '.') :=
    hasForms_oneOf ['.'] (by simp) (by decide)
  have thousands : HasForms tagForm (forms ["0"])
      (one fun c => c == '2' || c == '4' || c == '5' || c == '8') :=
    hasForms_oneOf ['2', '4', '5', '8'] (by simp [or_assoc]) (by decide)
  exact .choice <|
    .cons (.all <| .cons hasForms_digits <| .cons (hasForms_word "p") .nil) <|
    .cons (.all <| .cons thousands <| .cons (hasForms_word "k") .nil) <|
    .cons (hasForms_word "uhd") <|
    .cons (.all <| .cons (hasForms_word "x26") <| .cons hasForms_codecDigit .nil) <|
    .cons (.all <| .cons (hasForms_word "h") <| .cons dot.optional <|
      .cons (hasForms_word "26") <| .cons hasForms_codecDigit .nil) <|
    .cons (hasForms_word "hevc") <|
    .cons (hasForms_word "avc") <|
    .cons (hasForms_word "av1") <|
    .cons (hasForms_word "xvid") <|
    .cons (hasForms_word "divx") <|
    .cons (hasForms_word "10bit") <|
    .cons (.all <| .cons (hasForms_word "hdr") <| .cons (hasForms_word "10").optional .nil) <|
    .cons (hasForms_compound "web" "dl") <|
    .cons (hasForms_compound "web" "rip") <|
    .cons (hasForms_compound "blu" "ray") <|
    .cons (hasForms_compound "bd" "rip") <|
    .cons (hasForms_compound "br" "rip") <|
    .cons (hasForms_compound "dvd" "rip") <|
    .cons (hasForms_compound "hd" "rip") <|
    .cons (hasForms_word "hdtv") <|
    .cons (hasForms_word "remux") .nil

/-- The forms of the technical tags. -/
def tagForms : List Text := qualityForms.flatten ++ flagForms.flatten

theorem hasForms_technicalTag : HasForms tagForm tagForms technicalTag := by
  have flag : HasForms tagForm flagForms.flatten releaseFlag :=
    .choice <| .cons (hasForms_word "xxx") <| .cons (hasForms_word "repack") <|
      .cons (hasForms_word "proper") <| .cons (hasForms_word "internal") <|
      .cons (hasForms_word "mp4") <| .cons (hasForms_word "mkv") .nil
  exact (HasForms.choice <| .cons hasForms_qualityTag <| .cons flag .nil).mono (by simp [tagForms])

/-- A tag is no separator, and a separator in it stands alone between other characters. -/
theorem tight_of_reads {fragment : Text} (h : technicalTag.Reads fragment) :
    [] ∉ fragment.splitOnP isSeparator := by
  have tight : ∀ form ∈ tagForms, [] ∉ form.splitOnP isSeparator := by decide +kernel
  have := tight _ (hasForms_technicalTag.mem_forms fragment h)
  rw [Text.splitOnP_map isSeparator_tagForm, List.mem_map] at this
  exact fun empty => this ⟨[], empty, rfl⟩

/-! ## Tags in their place -/

/-- A tag stands between two texts, with a separator or an end of the text on each side. -/
structure TagStands (tag : Reader) (before fragment after : Text) : Prop where
  reads : tag.Reads fragment
  opens : isTagBoundary before.getLast? = true
  closes : isTagBoundary after.head? = true

/-- A tag stands somewhere in a text. -/
def HasTag (tag : Reader) (t : Text) : Prop :=
  ∃ before fragment after, t = before ++ fragment ++ after ∧ TagStands tag before fragment after

variable {tag : Reader} {t : Text}

/-- Every occurrence of a tag stands in its place. -/
theorem tagStands_of_mem_occurrences (isLocal : Local tag) {o : Occurrence Unit}
    (h : o ∈ (boundedTag tag).occurrences t) : TagStands tag o.before o.fragment o.after := by
  have shortens := isLocal.shortens.seq (Reader.shortens_before isTagBoundary)
  obtain ⟨opens, left⟩ := shortens.of_mem_occurrences h
  obtain ⟨left, closes⟩ := Reader.mem_seq_before.mp left
  obtain ⟨fragment, split, reads⟩ := (isLocal _ _).mp left
  rw [List.append_cancel_right split]
  exact ⟨reads, opens, closes⟩

/-- Where a tag stands, the finder finds a tag. -/
theorem TagStands.exists_found (isLocal : Local tag) (solid : ¬ tag.Reads [])
    {before fragment after : Text} (stands : TagStands tag before fragment after) :
    ∃ read rest, fragment ++ after = read ++ rest ∧ read ≠ [] ∧ TagStands tag before read rest ∧
      boundedTag tag before.getLast? (fragment ++ after) = some ((), read.length) := by
  have left : after ∈ (tag.seq (Reader.before isTagBoundary)) (fragment ++ after) :=
    Reader.mem_seq_before.mpr ⟨(isLocal _ _).mpr ⟨fragment, rfl, stands.reads⟩, stands.closes⟩
  cases first : ((tag.seq (Reader.before isTagBoundary)) (fragment ++ after)).head? with
  | none =>
      rw [List.head?_eq_none_iff.mp first] at left
      cases left
  | some rest =>
      obtain ⟨member, closes⟩ := Reader.mem_seq_before.mp (List.mem_of_head? first)
      obtain ⟨read, split, reads⟩ := (isLocal _ _).mp member
      refine ⟨read, rest, split, fun empty => solid (empty ▸ reads),
        ⟨reads, stands.opens, closes⟩, ?_⟩
      unfold boundedTag Finder.ofReader
      rw [if_pos stands.opens, first, split]
      simp

/-- A text has no occurrences of a tag exactly if no tag stands in it. -/
theorem tags_eq_nil_iff (isLocal : Local tag) (solid : ¬ tag.Reads []) :
    (boundedTag tag).occurrences t = [] ↔ ¬ HasTag tag t := by
  constructor
  · rintro none ⟨before, fragment, after, rfl, stands⟩
    obtain ⟨read, rest, split, nonempty, -, found⟩ := stands.exists_found isLocal solid
    rw [Finder.occurrences_eq_nil_iff] at none
    obtain ⟨length, long⟩ := Nat.exists_eq_add_one_of_ne_zero (mt List.length_eq_zero_iff.mp nonempty)
    refine none before (fragment ++ after) (List.append_assoc ..) ?_ () length (long ▸ found)
    rw [split]
    exact List.append_ne_nil_of_left_ne_nil nonempty _
  · intro untagged
    refine List.eq_nil_iff_forall_not_mem.mpr fun o member => untagged ?_
    exact ⟨o.before, o.fragment, o.after, (Finder.split_of_mem_occurrences member).symm,
      tagStands_of_mem_occurrences isLocal member⟩

theorem not_reads_nil : ¬ technicalTag.Reads [] := fun reads => by
  have tight := tight_of_reads reads
  rw [List.splitOnP_nil] at tight
  exact tight (List.mem_singleton.mpr rfl)

theorem technicalTags_eq_nil_iff :
    (boundedTag technicalTag).occurrences t = [] ↔ ¬ HasTag technicalTag t :=
  tags_eq_nil_iff hasForms_technicalTag.isLocal not_reads_nil

/-! ## Tags beside separators -/

/-- A place behind a text before which stands a separator, or nothing, is the same to a tag. -/
theorem isTagBoundary_behind {c : Char} (separator : isSeparator c = true) (x before : Text) :
    isTagBoundary (x ++ c :: before).getLast? = isTagBoundary before.getLast? := by
  cases before using List.reverseRecOn with
  | nil => rw [List.getLast?_concat]; exact separator
  | append_singleton before d =>
      rw [← List.cons_append, ← List.append_assoc, List.getLast?_concat, List.getLast?_concat]

/-- A place before a text behind which stands a separator, or nothing, is the same to a tag. -/
theorem isTagBoundary_ahead {c : Char} (separator : isSeparator c = true) (after y : Text) :
    isTagBoundary (after ++ c :: y).head? = isTagBoundary after.head? := by
  cases after with
  | nil => exact separator
  | cons d after => rfl

/-- A tag begins with no separator. -/
theorem head_of_reads {c : Char} {rest : Text} (h : technicalTag.Reads (c :: rest)) :
    isSeparator c = false := by
  refine Bool.eq_false_iff.mpr fun separator => tight_of_reads h ?_
  rw [← List.nil_append (c :: rest), List.splitOnP_append_cons _ _ separator, List.splitOnP_nil]
  exact List.mem_cons_self

/-- Behind a separator in a tag stands another character. -/
theorem behind_separator_of_reads {front back : Text} {c : Char}
    (h : technicalTag.Reads (front ++ c :: back)) (separator : isSeparator c = true) :
    ∃ d rest, back = d :: rest ∧ isSeparator d = false := by
  have tight := tight_of_reads h
  rw [List.splitOnP_append_cons _ _ separator, List.mem_append, not_or] at tight
  cases back with
  | nil =>
      rw [List.splitOnP_nil] at tight
      exact absurd (List.mem_singleton.mpr rfl) tight.2
  | cons d rest =>
      refine ⟨d, rest, rfl, Bool.eq_false_iff.mpr fun separator' => tight.2 ?_⟩
      rw [← List.nil_append (d :: rest), List.splitOnP_append_cons _ _ separator',
        List.splitOnP_nil]
      exact List.mem_cons_self

theorem not_isTagBoundary_head_of_reads {fragment : Text} (h : technicalTag.Reads fragment) (rest : Text) :
    isTagBoundary (fragment ++ rest).head? = false := by
  cases fragment with
  | nil => exact absurd h not_reads_nil
  | cons c fragment => exact head_of_reads h

theorem not_isTagBoundary_last_of_reads {fragment : Text} (h : technicalTag.Reads fragment) (front : Text) :
    isTagBoundary (front ++ fragment).getLast? = false := by
  cases fragment using List.reverseRecOn with
  | nil => exact absurd h not_reads_nil
  | append_singleton fragment c =>
      rw [← List.append_assoc, List.getLast?_concat]
      refine Bool.eq_false_iff.mpr fun separator => ?_
      obtain ⟨d, rest, nothing, -⟩ := behind_separator_of_reads h separator
      cases nothing

/-- Only separators behind a text make no tag of its end. -/
theorem HasTag.of_append_run {run : Text} (separators : ∀ c ∈ run, isSeparator c = true)
    (h : HasTag technicalTag (t ++ run)) : HasTag technicalTag t := by
  cases run with
  | nil => rwa [List.append_nil] at h
  | cons c run =>
      obtain ⟨before, fragment, after, split, stands⟩ := h
      rcases Text.place_cases split with ⟨back, rfl, rfl⟩ | ⟨front, rfl, -⟩ | ⟨front, back, rfl, -, rfl⟩
      · refine ⟨before, fragment, back, rfl, stands.reads, stands.opens, ?_⟩
        rw [← isTagBoundary_ahead (separators c List.mem_cons_self)]
        exact stands.closes
      · cases fragment with
        | nil => exact absurd stands.reads not_reads_nil
        | cons d fragment =>
            have solid := head_of_reads stands.reads
            rw [separators d (by simp)] at solid
            cases solid
      · obtain ⟨d, rest, rfl, solid⟩ :=
          behind_separator_of_reads stands.reads (separators c List.mem_cons_self)
        rw [separators d (by simp)] at solid
        cases solid

/-- Only separators before a text make no tag of its beginning. -/
theorem HasTag.of_run_append {run : Text} (separators : ∀ c ∈ run, isSeparator c = true)
    (h : HasTag technicalTag (run ++ t)) : HasTag technicalTag t := by
  induction run with
  | nil => exact h
  | cons c run ih =>
      have separator := separators c List.mem_cons_self
      obtain ⟨before, fragment, after, split, stands⟩ := h
      have split' : [] ++ c :: (run ++ t) = before ++ fragment ++ after := split
      rcases Text.place_cases split' with ⟨back, nothing, -⟩ | ⟨front, rest, rfl⟩ |
        ⟨front, back, rfl, nothing, -⟩
      · obtain ⟨-, rfl⟩ := List.append_eq_nil_iff.mp (List.append_eq_nil_iff.mp nothing.symm).1
        exact absurd stands.reads not_reads_nil
      · refine ih (fun d hd => separators d (List.mem_cons_of_mem _ hd))
          ⟨front, fragment, after, rest, stands.reads, ?_, stands.closes⟩
        rw [← isTagBoundary_behind separator []]
        exact stands.opens
      · obtain ⟨rfl, rfl⟩ := List.append_eq_nil_iff.mp nothing.symm
        have solid := head_of_reads stands.reads
        rw [separator] at solid
        cases solid

/-- No tag reaches over two separators. -/
theorem HasTag.of_gap {x y : Text} {c d : Char} (hc : isSeparator c = true)
    (hd : isSeparator d = true) (h : HasTag technicalTag (x ++ c :: d :: y)) :
    HasTag technicalTag x ∨ HasTag technicalTag y := by
  obtain ⟨before, fragment, after, split, stands⟩ := h
  rcases Text.place_cases split with ⟨back, rfl, rfl⟩ | ⟨front, rest, rfl⟩ | ⟨front, back, rfl, -, rest⟩
  · refine .inl ⟨before, fragment, back, rfl, stands.reads, stands.opens, ?_⟩
    rw [← isTagBoundary_ahead hc]
    exact stands.closes
  · cases front with
    | nil =>
        have solid := not_isTagBoundary_head_of_reads stands.reads after
        rw [← List.nil_append fragment, ← rest] at solid
        exact absurd hd (Bool.eq_false_iff.mp solid)
    | cons e front =>
        obtain ⟨rfl, rfl⟩ := List.cons.inj rest
        refine .inr ⟨front, fragment, after, rfl, stands.reads, ?_, stands.closes⟩
        rw [← isTagBoundary_behind hd (x ++ [c]), List.append_assoc]
        exact stands.opens
  · obtain ⟨e, back, rfl, solid⟩ := behind_separator_of_reads stands.reads hc
    rw [← (List.cons.inj rest).1, hd] at solid
    cases solid

/-- A tag before a separator is a tag of the whole. -/
theorem HasTag.append_separator {c : Char} (separator : isSeparator c = true) (y : Text)
    (h : HasTag tag t) : HasTag tag (t ++ c :: y) := by
  obtain ⟨before, fragment, after, rfl, stands⟩ := h
  refine ⟨before, fragment, after ++ c :: y, List.append_assoc .., stands.reads, stands.opens, ?_⟩
  rw [isTagBoundary_ahead separator]
  exact stands.closes

/-- A tag behind a separator is a tag of the whole. -/
theorem HasTag.separator_append {c : Char} (separator : isSeparator c = true) (x : Text)
    (h : HasTag tag t) : HasTag tag (x ++ c :: t) := by
  obtain ⟨before, fragment, after, rfl, stands⟩ := h
  refine ⟨x ++ c :: before, fragment, after, by simp, stands.reads, ?_, stands.closes⟩
  rw [isTagBoundary_behind separator]
  exact stands.opens

/-- A separator is no digit. -/
theorem any_isDecimal_of_isTagBoundary {c : Option Char} (h : isTagBoundary c = true) :
    c.any isDecimal = false := by
  cases c with
  | none => rfl
  | some c =>
      refine Bool.eq_false_iff.mpr fun digit => ?_
      exact absurd h (Bool.eq_false_iff.mp (isSeparator_eq_false_of_isDecimal digit))

/-! ## Tags beside words that no tag has -/

/-- The forms of a number of two digits, a number of four and one of four in parentheses. -/
def foreignForms : List Text := forms ["00", "0000", "(0000)"]

/-- No word of a tag has one of these forms. -/
theorem not_mem_nameWords_of_reads {fragment w : Text} (h : technicalTag.Reads fragment)
    (foreign : w.map tagForm ∈ foreignForms) : w ∉ Text.nameWords fragment := by
  have other : ∀ form ∈ tagForms, ∀ w ∈ foreignForms, w ∉ Text.nameWords form := by decide +kernel
  have renamed : Text.nameWords (fragment.map tagForm) =
      (Text.nameWords fragment).map (List.map tagForm) := Text.words_map isSeparator_tagForm fragment
  intro member
  have listed := List.mem_map_of_mem (f := List.map tagForm) member
  rw [← renamed] at listed
  exact other _ (hasForms_technicalTag.mem_forms fragment h) _ foreign listed

/-- What stands between separators or ends of a text, and has no separator, is a word of the
text. -/
theorem mem_nameWords (front back : Text) {w : Text} (word : Text.IsWord isSeparator w)
    (opens : isTagBoundary front.getLast? = true) (closes : isTagBoundary back.head? = true) :
    w ∈ Text.nameWords (front ++ w ++ back) := by
  have behind : w ∈ Text.nameWords (w ++ back) := by
    unfold Text.nameWords
    cases back with
    | nil =>
        rw [List.append_nil, Text.words_of_isWord word]
        exact List.mem_cons_self
    | cons c back =>
        rw [Text.words_append_separator closes, Text.words_of_isWord word]
        exact List.mem_cons_self
  cases front using List.reverseRecOn with
  | nil => exact behind
  | append_singleton front c =>
      rw [List.getLast?_concat] at opens
      unfold Text.nameWords at behind ⊢
      rw [List.append_assoc, List.append_assoc, List.singleton_append,
        Text.words_append_separator opens]
      exact List.mem_append_right _ behind

theorem not_isTagBoundary_head {w : Text} (word : Text.IsWord isSeparator w) (rest : Text) :
    isTagBoundary (w ++ rest).head? = false := by
  cases w with
  | nil => exact absurd rfl word.1
  | cons c w => exact word.2 c List.mem_cons_self

theorem not_isTagBoundary_last {w : Text} (word : Text.IsWord isSeparator w) (front : Text) :
    isTagBoundary (front ++ w).getLast? = false := by
  cases w using List.reverseRecOn with
  | nil => exact absurd rfl word.1
  | append_singleton w c =>
      rw [← List.append_assoc, List.getLast?_concat]
      exact word.2 c (by simp)

theorem isTagBoundary_head_of_append {part rest : Text}
    (h : isTagBoundary (part ++ rest).head? = true) : isTagBoundary part.head? = true := by
  cases part with
  | nil => rfl
  | cons c part => exact h

theorem isTagBoundary_last_of_append {front part : Text}
    (h : isTagBoundary (front ++ part).getLast? = true) : isTagBoundary part.getLast? = true := by
  cases part using List.reverseRecOn with
  | nil => rfl
  | append_singleton part c =>
      rw [← List.append_assoc, List.getLast?_concat] at h
      rwa [List.getLast?_concat]

/-- A tag in a text with a word that no tag has stands before the word or behind it.  Both have
separators or ends of the text around them, so they cannot meet unless the word is in the tag. -/
theorem TagStands.beside {x w z before fragment after : Text}
    (stands : TagStands tag before fragment after)
    (split : x ++ (w ++ z) = before ++ (fragment ++ after)) (word : Text.IsWord isSeparator w)
    (opens : isTagBoundary x.getLast? = true) (closes : isTagBoundary z.head? = true)
    (foreign : w ∉ Text.nameWords fragment) :
    HasTag tag x ∨ ∃ front, z = front ++ (fragment ++ after) ∧ before = x ++ (w ++ front) := by
  have cut : ∀ {part rest : Text}, part ⊆ w → isTagBoundary (part ++ rest).head? = true →
      part = [] := by
    intro part rest inside boundary
    by_contra nonempty
    have solid := not_isTagBoundary_head ⟨nonempty, fun c hc => word.2 c (inside hc)⟩ rest
    rw [boundary] at solid
    cases solid
  rcases List.append_eq_append_iff.mp split with ⟨s, rfl, split'⟩ | ⟨s, rfl, split'⟩
  · -- The tag begins behind `x`, at the word or behind it.
    rcases List.append_eq_append_iff.mp split' with ⟨front, rfl, rfl⟩ | ⟨u, rfl, split''⟩
    · exact .inr ⟨front, rfl, rfl⟩
    · have start : s = [] := by
        by_contra nonempty
        have inside : Text.IsWord isSeparator s :=
          ⟨nonempty, fun c hc => word.2 c (List.mem_append_left u hc)⟩
        have solid := not_isTagBoundary_last inside x
        rw [stands.opens] at solid
        cases solid
      rw [start, List.nil_append] at word foreign cut
      rcases List.append_eq_append_iff.mp split'' with ⟨v, rfl, rfl⟩ | ⟨v, rfl, rfl⟩
      · have whole : v = [] := cut (List.subset_append_right fragment v) stands.closes
        rw [whole, List.append_nil] at word foreign
        exact absurd (mem_nameWords [] [] word rfl rfl) (by simpa using foreign)
      · exact absurd (mem_nameWords [] v word rfl (isTagBoundary_head_of_append closes)) foreign
  · -- The tag begins in `x`.
    rcases List.append_eq_append_iff.mp split' with ⟨u, rfl, rfl⟩ | ⟨u, rfl, split''⟩
    · exact .inl ⟨before, fragment, u, (List.append_assoc ..).symm, stands.reads, stands.opens,
        isTagBoundary_head_of_append stands.closes⟩
    · have opens' : isTagBoundary s.getLast? = true := isTagBoundary_last_of_append opens
      rcases List.append_eq_append_iff.mp split'' with ⟨v, rfl, rfl⟩ | ⟨v, rfl, rfl⟩
      · rw [← List.append_assoc] at foreign
        exact absurd (mem_nameWords s v word opens' (isTagBoundary_head_of_append closes)) foreign
      · have whole : v = [] := cut (List.subset_append_right u v) stands.closes
        rw [whole, List.append_nil] at word foreign
        exact absurd (mem_nameWords s [] word opens' rfl) (by simpa using foreign)

end ReleaseCatalog.Release
