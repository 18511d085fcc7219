import ReleaseCatalog.Proofs.Release.DatelessName
import ReleaseCatalog.Proofs.Release.TagScan
import ReleaseCatalog.Release.FilmYear

/-!
# Which year dates a film

A film is dated by the last year before the technical tail of its name.  The tail cannot
begin before or in a word that no tag has, so it is enough to know such a word and that
no tag stands before it: the name is kept up to the word and the separator behind it
(`beforeTail_quality`, `exists_beforeTail`).

Of what is kept, a year in parentheses is the only one in brackets, and dates the film
whatever other years there are (`film?_bracketed`).  Without brackets a year at the end
is the last one that stands alone, and dates the film whatever years there are before it
(`film?_standalone`).
-/

namespace ReleaseCatalog.Release

open Calendar (YearRange)
open Reader (Reads)
open Text (IsWord)
open Unicode (isBlank isDecimal numeral)

/-! ## Before the tail -/

section Tail

variable {x w z : Text}

/-- Every tag of a text stands behind a word that no tag has, if none stands before the word. -/
theorem behind_foreign (word : IsWord isSeparator w) (foreign : w.map tagForm ∈ foreignForms)
    (opens : isTagBoundary x.getLast? = true) (closes : isTagBoundary z.head? = true)
    (untagged : ¬ HasTag technicalTag x) {o : Occurrence Unit}
    (member : o ∈ (boundedTag technicalTag).occurrences (x ++ (w ++ z))) :
    ∃ front, z = front ++ (o.fragment ++ o.after) ∧ o.before = x ++ (w ++ front) := by
  have stands := tagStands_of_mem_occurrences hasForms_technicalTag.isLocal member
  have split := Finder.split_of_mem_occurrences member
  rw [List.append_assoc] at split
  rcases stands.beside split.symm word opens closes
    (not_mem_nameWords_of_reads stands.reads foreign) with before | behind
  · exact absurd before untagged
  · exact behind

/-- The tail of a name begins behind a word that no tag has, if no tag stands before the word. -/
theorem exists_beforeTail (word : IsWord isSeparator w) (foreign : w.map tagForm ∈ foreignForms)
    (opens : isTagBoundary x.getLast? = true) (closes : isTagBoundary z.head? = true)
    (untagged : ¬ HasTag technicalTag x) :
    ∃ front, front <+: z ∧ beforeTail (x ++ (w ++ z)) = x ++ (w ++ front) := by
  unfold beforeTail
  cases found : ((boundedTag technicalTag).occurrences (x ++ (w ++ z))).find? startsTail with
  | none => exact ⟨z, List.prefix_rfl, rfl⟩
  | some o =>
      obtain ⟨front, rfl, before⟩ := behind_foreign word foreign opens closes untagged
        (List.mem_of_find?_eq_some found)
      exact ⟨front, List.prefix_append .., before⟩

/-- The tail begins at the quality tag behind a word that no tag has. -/
theorem beforeTail_quality {c : Char} {tag rest : Text} (word : IsWord isSeparator w)
    (foreign : w.map tagForm ∈ foreignForms) (opens : isTagBoundary x.getLast? = true)
    (separator : isSeparator c = true) (closes : isTagBoundary rest.head? = true)
    (untagged : ¬ HasTag technicalTag x) (quality : isQualityTag tag = true) :
    beforeTail (x ++ (w ++ c :: (tag ++ rest))) = x ++ (w ++ [c]) := by
  have split : x ++ (w ++ c :: (tag ++ rest)) = (x ++ (w ++ [c])) ++ (tag ++ rest) := by simp
  have behind : isTagBoundary (x ++ (w ++ [c])).getLast? = true := by
    rw [← List.append_assoc, List.getLast?_concat]
    exact separator
  have first : ∀ o ∈ (boundedTag technicalTag).occurrences (x ++ (w ++ c :: (tag ++ rest))),
      (x ++ (w ++ [c])).length ≤ o.before.length := by
    intro o member
    obtain ⟨front, rest', before⟩ := behind_foreign (z := c :: (tag ++ rest)) word foreign opens
      separator untagged member
    have reads := (tagStands_of_mem_occurrences hasForms_technicalTag.isLocal member).reads
    cases front with
    | nil =>
        have solid := not_isTagBoundary_head_of_reads reads o.after
        rw [← List.nil_append (o.fragment ++ o.after), ← rest'] at solid
        exact absurd separator (Bool.eq_false_iff.mp solid)
    | cons d front =>
        rw [before]
        simp
  have reads := readsTags_qualityTag.technical (Reader.readsAll_iff.mp quality)
  have member := readsTags_technicalTag.mem_occurrences
    (split.trans (List.append_assoc ..).symm) ⟨reads, behind, closes⟩
  unfold beforeTail
  rw [Finder.find?_occurrences_eq member (Bool.or_eq_true_iff.mpr (.inl quality)) first]

end Tail

/-! ## The last year -/

variable {range : YearRange} {x y rest : Text}

/-- The last year is taken if it is in the range and has a title. -/
theorem lastDated_concat {titleOf : Occurrence Nat → Text} {o : Occurrence Nat}
    (earlier : List (Occurrence Nat)) (accepted : range.Contains o.value) (title : titleOf o ≠ []) :
    lastDated range titleOf (earlier ++ [o]) = some (titleOf o, (o.value : Int)) := by
  unfold lastDated
  rw [List.reverse_concat, List.findSome?_cons, if_pos ⟨accepted, title⟩]

/-! ## Years in brackets -/

theorem bracketedYear_eq_none {previous : Option Char} {c : Char} {rest : Text}
    (round : c ≠ '(') (square : c ≠ '[') : bracketedYear previous (c :: rest) = none := by
  simp only [bracketedYear]
  rw [if_neg fun all => all.1.elim round square]

/-- A year in brackets begins with the bracket. -/
theorem exists_bracket_of_mem {t : Text} {o : Occurrence Nat}
    (member : o ∈ bracketedYear.occurrences t) :
    ∃ c rest, o.fragment = c :: rest ∧ (c = '(' ∨ c = '[') := by
  obtain ⟨length, found, -, nonempty⟩ := Finder.found_of_mem_occurrences member
  obtain ⟨c, rest, begins⟩ := List.exists_cons_of_ne_nil nonempty
  refine ⟨c, rest, begins, ?_⟩
  by_contra other
  obtain ⟨round, square⟩ := not_or.mp other
  rw [begins, List.cons_append, bracketedYear_eq_none round square] at found
  cases found

theorem bracketedYears_eq_nil {t : Text} (round : '(' ∉ t) (square : '[' ∉ t) :
    bracketedYear.occurrences t = [] := by
  refine List.eq_nil_iff_forall_not_mem.mpr fun o member => ?_
  obtain ⟨c, rest, begins, bracket⟩ := exists_bracket_of_mem member
  have inside : c ∈ t := by
    rw [← Finder.split_of_mem_occurrences member, begins]
    simp
  rcases bracket with rfl | rfl
  · exact round inside
  · exact square inside

theorem IsNumber.take_append {width : Nat} (number : IsNumber width y) (rest : Text) :
    (y ++ rest).take width = y := by
  rw [← number.1, List.take_left]

theorem IsNumber.drop_append {width : Nat} (number : IsNumber width y) (rest : Text) :
    (y ++ rest).drop width = rest := by
  rw [← number.1, List.drop_left]

/-- The finder finds the year in parentheses at the front of a text. -/
theorem bracketedYear_group (previous : Option Char) (number : IsNumber 4 y) (rest : Text) :
    bracketedYear previous ('(' :: (y ++ ')' :: rest)) = some (numeral y, 6) := by
  have start : (y ++ ')' :: rest).dropWhile isBlank = y ++ ')' :: rest := by
    obtain ⟨c, y, rfl⟩ := List.exists_cons_of_ne_nil number.ne_nil
    have solid := Unicode.isBlank_eq_false_of_isDecimal (number.2 c List.mem_cons_self)
    rw [List.cons_append, List.dropWhile_cons_of_neg (Bool.eq_false_iff.mp solid)]
  have stop : (')' :: rest).dropWhile isBlank = ')' :: rest :=
    List.dropWhile_cons_of_neg (by decide)
  have digits : y.all isDecimal = true := List.all_eq_true.mpr number.2
  simp only [bracketedYear, start, number.take_append, number.drop_append, stop, number.1, digits]
  simp [number.1]
  omega

/-- In a name with nothing else in brackets, the year in parentheses is the only one found. -/
theorem eq_of_mem_bracketedYears (number : IsNumber 4 y) (round : '(' ∉ x ++ rest)
    (square : '[' ∉ x ++ rest) {o : Occurrence Nat}
    (member : o ∈ bracketedYear.occurrences (x ++ '(' :: (y ++ ')' :: rest))) :
    o.before = x ∧ o.value = numeral y := by
  have split := Finder.split_of_mem_occurrences member
  obtain ⟨c, fragment, begins, bracket⟩ := exists_bracket_of_mem member
  have absent : c ∉ x ∧ c ∉ y ++ ')' :: rest := by
    rw [List.mem_append, not_or] at round square
    have other : isDecimal '(' = false ∧ isDecimal '[' = false := by decide
    have digit : c ∉ y := by
      intro inside
      have decimal := number.2 c inside
      rcases bracket with rfl | rfl
      · exact absurd decimal (Bool.eq_false_iff.mp other.1)
      · exact absurd decimal (Bool.eq_false_iff.mp other.2)
    rcases bracket with rfl | rfl
    · simp [round, digit]
    · simp [square, digit]
  have place : o.before = x := by
    rcases Text.place_cases split.symm with ⟨back, rfl, -⟩ | ⟨front, inside, -⟩ |
      ⟨front, back, whole, rfl, -⟩
    · exact absurd (by rw [begins]; simp) absent.1
    · exact absurd (by rw [inside, begins]; simp) absent.2
    · cases front with
      | nil => rw [List.append_nil]
      | cons d front =>
          rw [begins] at whole
          rw [(List.cons.inj whole).1] at absent
          exact absurd (by simp) absent.1
  refine ⟨place, ?_⟩
  obtain ⟨length, found, -⟩ := Finder.found_of_mem_occurrences member
  rw [place, List.append_assoc] at split
  rw [List.append_cancel_left split, bracketedYear_group _ number] at found
  exact (congrArg Prod.fst (Option.some.inj found)).symm

/-- A year in parentheses dates a film, if nothing else of the name is in brackets. -/
theorem film?_bracketed {name : Text} (head : beforeTail name = x ++ '(' :: (y ++ ')' :: rest))
    (number : IsNumber 4 y) (round : '(' ∉ x ++ rest) (square : '[' ∉ x ++ rest)
    (accepted : range.Contains (numeral y)) (title : titleText x ≠ []) :
    film? range name = some (titleText x, (numeral y : Int)) := by
  have found := bracketedYear_group x.getLast? number rest
  have member : ∃ o, o ∈ bracketedYear.occurrences (x ++ '(' :: (y ++ ')' :: rest)) := by
    rcases Finder.mem_occurrences_or_crossed found (List.cons_ne_nil _ _) with member | ⟨o, member, -⟩
    · exact ⟨_, member⟩
    · exact ⟨o, member⟩
  obtain ⟨o, ho⟩ := member
  rcases List.eq_nil_or_concat (bracketedYear.occurrences (x ++ '(' :: (y ++ ')' :: rest))) with
    none | ⟨earlier, last, all⟩
  · rw [none] at ho
    cases ho
  · obtain ⟨before, value⟩ := eq_of_mem_bracketedYears number round square
      (o := last) (by rw [all]; simp)
    have dated : titleAround last = titleText x := by
      unfold titleAround
      rw [before]
      exact if_neg title
    simp only [film?, head]
    rw [all, List.concat_eq_append, lastDated_concat earlier (by rw [value]; exact accepted)
      (by rw [dated]; exact title), dated, value, Option.some_or]

/-! ## Years that stand alone -/

theorem isAsciiAlphanumeric_eq_false {c : Option Char} (h : isTagBoundary c = true) :
    isAsciiAlphanumeric c = false := by
  cases c with
  | none => rfl
  | some c => exact isAlphanum_eq_false_of_isSeparator h

theorem isNumber_of_mem_standaloneYears {t : Text} {o : Occurrence Nat}
    (member : o ∈ standaloneYear.occurrences t) : IsNumber 4 o.fragment := by
  obtain ⟨length, found, taken, -⟩ := Finder.found_of_mem_occurrences member
  simp only [standaloneYear] at found
  split at found
  · next year =>
      obtain ⟨-, four, digits, -⟩ := year
      have long : 4 = length + 1 := congrArg Prod.snd (Option.some.inj found)
      rw [← long] at taken
      rw [taken]
      exact ⟨four, List.all_eq_true.mp digits⟩
  · cases found

/-- The finder finds the year at the front of a text. -/
theorem standaloneYear_number {previous : Option Char} (number : IsNumber 4 y)
    (opens : isTagBoundary previous = true) (closes : isTagBoundary rest.head? = true) :
    standaloneYear previous (y ++ rest) = some (numeral y, 4) := by
  have digits : y.all isDecimal = true := List.all_eq_true.mpr number.2
  simp only [standaloneYear, number.take_append, number.drop_append, number.1, digits,
    isAsciiAlphanumeric_eq_false opens, isAsciiAlphanumeric_eq_false closes]
  simp

/-- A year that stands alone stands before or behind the end of a text that ends in a separator. -/
theorem place_of_mem_standaloneYears {t : Text} (opens : isTagBoundary x.getLast? = true)
    {o : Occurrence Nat} (member : o ∈ standaloneYear.occurrences (x ++ t)) :
    o.before.length + o.fragment.length ≤ x.length ∨
      ∃ front, t = front ++ (o.fragment ++ o.after) ∧ o.before = x ++ front := by
  have split := Finder.split_of_mem_occurrences member
  cases x using List.reverseRecOn with
  | nil => exact .inr ⟨o.before, by rw [← List.append_assoc]; exact split.symm, rfl⟩
  | append_singleton x c =>
      rw [List.getLast?_concat] at opens
      rw [← List.append_cons] at split
      rcases Text.place_cases split.symm with ⟨back, rfl, -⟩ | ⟨front, rfl, before⟩ |
        ⟨front, back, inside, -, -⟩
      · left
        simp only [List.length_append]
        omega
      · exact .inr ⟨front, List.append_assoc .., by rw [before, List.append_cons]⟩
      · have digit := (isNumber_of_mem_standaloneYears member).2 c (by rw [inside]; simp)
        exact absurd opens (Bool.eq_false_iff.mp (isSeparator_eq_false_of_isDecimal digit))

/-- Behind a year with nothing but a separator behind it there is no place for another. -/
theorem before_le_of_mem_standaloneYears (number : IsNumber 4 y)
    (opens : isTagBoundary x.getLast? = true) (closes : isTagBoundary rest.head? = true)
    (short : rest.length ≤ 1) {o : Occurrence Nat}
    (member : o ∈ standaloneYear.occurrences (x ++ (y ++ rest))) :
    o.before.length ≤ x.length := by
  have four := isNumber_of_mem_standaloneYears member
  rcases place_of_mem_standaloneYears opens member with before | ⟨front, split, before⟩
  · omega
  · have lengths := congrArg List.length split
    simp only [List.length_append, four.1, number.1] at lengths
    rw [before, List.length_append]
    cases rest with
    | nil =>
        rw [List.length_nil] at lengths
        omega
    | cons c rest =>
        -- A later year would have to end in the separator.
        obtain rfl : rest = [] := List.length_eq_zero_iff.mp (by simpa using short)
        by_contra later
        have nothing : o.after = [] := by
          refine List.length_eq_zero_iff.mp ?_
          rw [List.length_singleton] at lengths
          omega
        have ends := congrArg List.getLast? split
        rw [nothing, List.append_nil, List.getLast?_concat,
          List.getLast?_append_of_ne_nil _ four.ne_nil] at ends
        have solid := isSeparator_eq_false_of_isDecimal (four.2 c (List.mem_of_getLast? ends.symm))
        exact absurd closes (Bool.eq_false_iff.mp solid)

/-- A year with nothing but a separator behind it is the last that stands alone. -/
theorem exists_standaloneYears_concat (number : IsNumber 4 y)
    (opens : isTagBoundary x.getLast? = true) (closes : isTagBoundary rest.head? = true)
    (short : rest.length ≤ 1) :
    ∃ earlier, standaloneYear.occurrences (x ++ (y ++ rest)) =
      earlier ++ [⟨x, y, rest, numeral y⟩] := by
  have found := standaloneYear_number number opens closes
  have nonempty : y ++ rest ≠ [] := List.append_ne_nil_of_left_ne_nil number.ne_nil _
  rcases Finder.mem_occurrences_or_crossed found nonempty with member | ⟨o, member, starts, ends⟩
  · rw [number.take_append, number.drop_append] at member
    exact Finder.exists_concat_of_last member fun o ho =>
      before_le_of_mem_standaloneYears number opens closes short ho
  · rcases place_of_mem_standaloneYears opens member with before | ⟨front, -, before⟩
    · omega
    · rw [before, List.length_append] at starts
      omega

/-- A year that stands alone dates a film, if nothing but a separator follows it. -/
theorem film?_standalone {name : Text} (head : beforeTail name = x ++ (y ++ rest))
    (number : IsNumber 4 y) (opens : isTagBoundary x.getLast? = true)
    (closes : isTagBoundary rest.head? = true) (short : rest.length ≤ 1)
    (round : '(' ∉ x ++ (y ++ rest)) (square : '[' ∉ x ++ (y ++ rest))
    (accepted : range.Contains (numeral y)) (title : titleText x ≠ []) :
    film? range name = some (titleText x, (numeral y : Int)) := by
  obtain ⟨earlier, all⟩ := exists_standaloneYears_concat number opens closes short
  have none : lastDated range titleAround [] = none := rfl
  simp only [film?, head]
  rw [bracketedYears_eq_nil round square, none, Option.none_or, all,
    @lastDated_concat range (fun o => titleText o.before) ⟨x, y, rest, numeral y⟩ earlier accepted
      title]

end ReleaseCatalog.Release
