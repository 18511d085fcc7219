import Mathlib.Data.List.Find
import ReleaseCatalog.Proofs.Release.NotesGroup

/-!
# Copies of a file

A file may be kept in several formats and in numbered copies, so its name may have a counter
and an extension behind it.  Neither says anything about the release.  If a name has no blank
around it and ends in no extension and no counter of its own (`IsPlainName`), the name with a
counter (`Counted`) and an extension is prepared like the name alone (`Parser.prepare_copy`),
and so it is read like it (`Parser.parse_copy_eq`).

The order in which the extensions are tried does not matter for any name, since at most one of
them ends it (`dropExtension_perm`).
-/

namespace ReleaseCatalog.Release

open Text (EndsWithout)
open Unicode (isBlank isDecimal)

/-! ## The order of the extensions -/

/-- The extensions may be tried in any order. -/
theorem dropExtension_perm {extensions extensions' : List Text}
    (known : extensions.Perm videoFileExtensions) (known' : extensions'.Perm videoFileExtensions)
    (raw : Text) : dropExtension extensions raw = dropExtension extensions' raw := by
  have sole : {e ∈ extensions | hasExtension raw e = true}.Subsingleton := by
    rintro e ⟨he, has⟩ e' ⟨he', has'⟩
    have ends := (hasExtension_iff.mp has).1
    have ends' := (hasExtension_iff.mp has').1
    have listed := known.mem_iff.mp he
    have listed' := known.mem_iff.mp he'
    rcases List.suffix_or_suffix_of_suffix ends ends' with h | h
    · exact eq_of_isSuffix_extension e listed e' listed' h
    · exact (eq_of_isSuffix_extension e' listed' e listed h).symm
  unfold dropExtension
  rw [List.find?_eq_find?_of_perm (known.trans known'.symm) sole]

/-! ## Names and their counters -/

/-- A name without blanks around it that ends in no extension, whatever the letter case, and in no
counter behind a digit. -/
structure IsPlainName (name : Text) : Prop where
  ne_nil : name ≠ []
  ends : EndsWithout isBlank name
  no_extension : ∀ e ∈ videoFileExtensions, ¬ e <:+ name.map smallLetter
  no_counter : ∀ kept d digits, name = kept ++ d :: '_' :: digits → isDecimal d = true →
    digits ≠ [] → ∃ c ∈ digits, isDecimal c = false

/-- A name with a counter of copies, if it ends in a digit, or without one. -/
inductive Counted (name : Text) : Text → Prop where
  | once : Counted name name
  | again {digits : Text} : name.getLast?.any isDecimal = true → digits ≠ [] →
      (∀ d ∈ digits, isDecimal d = true) → Counted name (name ++ '_' :: digits)

variable {name counted raw : Text}

/-- A text whose last character is no blank is without a final line feed. -/
theorem dropCounter_eq_cutCounter_of_ends (ends : EndsWithout isBlank name) :
    dropCounter name = cutCounter name := by
  refine dropCounter_eq_cutCounter fun last => ?_
  have blank := ends.2 '\n' last
  revert blank
  decide

/-- A plain name is without a counter. -/
theorem IsPlainName.dropCounter_eq (plain : IsPlainName name) : dropCounter name = name := by
  by_cases digit : name.reverse.head?.any isDecimal = true
  · obtain ⟨digits, rest, split, nonempty, decimal, stop⟩ := exists_digits_split digit
    have decimal' : ∀ d ∈ digits.reverse, isDecimal d = true :=
      fun d hd => decimal d (List.mem_reverse.mp hd)
    have nonempty' : digits.reverse ≠ [] := mt List.reverse_eq_nil_iff.mp nonempty
    have whole : name = rest.reverse ++ digits.reverse := by
      rw [← List.reverse_append, ← split, List.reverse_reverse]
    cases rest with
    | nil =>
        rw [dropCounter_eq_cutCounter_of_ends plain.ends, cutCounter, split, List.append_nil,
          beforeCounter?_digits decimal, Option.getD_none, whole]
        rfl
    | cons c front =>
        rw [List.reverse_cons, List.append_assoc, List.singleton_append] at whole
        rw [whole, dropCounter_append_digits nonempty' decimal' (stop c rfl), if_neg]
        rintro ⟨rfl, before⟩
        cases last : front.reverse.getLast? with
        | none =>
            rw [last] at before
            cases before
        | some d =>
            rw [last] at before
            obtain ⟨kept, keptEq⟩ := List.getLast?_eq_some_iff.mp last
            obtain ⟨c, hc, other⟩ := plain.no_counter kept d digits.reverse
              (by rw [whole, keptEq, List.append_assoc, List.singleton_append]) before nonempty'
            rw [decimal' c hc] at other
            cases other
  · cases last : name.getLast? with
    | none => exact absurd (List.getLast?_eq_none_iff.mp last) plain.ne_nil
    | some c =>
        rw [List.head?_reverse, last] at digit
        refine dropCounter_eq_self last (Bool.eq_false_iff.mpr digit) ?_
        rintro rfl
        have blank := plain.ends.2 '\n' last
        revert blank
        decide

/-- Dropping the counter gives back the name. -/
theorem Counted.dropCounter_eq (copy : Counted name counted) (plain : IsPlainName name) :
    dropCounter counted = name := by
  cases copy with
  | once => exact plain.dropCounter_eq
  | again before nonempty decimal =>
      rw [dropCounter_append_digits nonempty decimal (by decide), if_pos ⟨rfl, before⟩]

/-- A counter brings no blank to the end of a name. -/
theorem Counted.endsWithout_isBlank (copy : Counted name counted) (plain : IsPlainName name) :
    EndsWithout isBlank counted := by
  cases copy with
  | once => exact plain.ends
  | @again digits before nonempty decimal =>
      refine ⟨?_, fun c last => ?_⟩
      · rw [List.head?_append_of_ne_nil _ plain.ne_nil]
        exact plain.ends.1
      · rw [List.getLast?_append_of_ne_nil _ (List.cons_ne_nil _ _),
          List.getLast?_cons_of_ne_nil nonempty] at last
        exact Unicode.isBlank_eq_false_of_isDecimal (decimal c (List.mem_of_getLast? last))

/-- A counter brings no extension to the end of a name: no extension has a low line, and none is
made of digits. -/
theorem Counted.no_extension (copy : Counted name counted) (plain : IsPlainName name) :
    ∀ e ∈ videoFileExtensions, ¬ e <:+ counted.map smallLetter := by
  cases copy with
  | once => exact plain.no_extension
  | @again digits before nonempty decimal =>
      have shape : ∀ e ∈ videoFileExtensions, '_' ∉ e ∧ '.' ∈ e := by decide
      have small : ('_' :: digits).map smallLetter = '_' :: digits := by
        rw [List.map_cons, List.map_congr_left fun c hc => smallLetter_of_isDecimal (decimal c hc),
          List.map_id']
        rfl
      intro e he suffix
      obtain ⟨low, dot⟩ := shape e he
      rw [List.map_append, small] at suffix
      rcases List.suffix_or_suffix_of_suffix suffix (List.suffix_append _ _) with short | long
      · cases List.mem_cons.mp (short.subset dot) with
        | inl same => cases same
        | inr member => exact absurd (decimal '.' member) (by decide)
      · exact low (long.subset List.mem_cons_self)

/-- A name with a counter and an extension, or without them, is a file of the counted name. -/
theorem Counted.fileOf (copy : Counted name counted) (plain : IsPlainName name) {ending : Text}
    (listed : ending = [] ∨ ending.map smallLetter ∈ videoFileExtensions) :
    FileOf counted (counted ++ ending) := by
  rcases listed with rfl | listed
  · rw [List.append_nil]
    exact .bare (copy.no_extension plain)
  · exact .extended listed

namespace Parser

variable {parser : Parser}

/-- A plain name with a counter and an extension is prepared like the name alone. -/
theorem prepare_copy (known : parser.extensions.Perm videoFileExtensions)
    (plain : IsPlainName name) (copy : Counted name counted) {ending : Text}
    (listed : ending = [] ∨ ending.map smallLetter ∈ videoFileExtensions) :
    parser.prepare (counted ++ ending) = parser.prepare name := by
  have kept : ∀ {counted ending}, Counted name counted →
      ending = [] ∨ ending.map smallLetter ∈ videoFileExtensions →
      dropCounter (dropExtension parser.extensions (Text.trimBlank (counted ++ ending))) =
        name := by
    intro counted ending copy listed
    have file := copy.fileOf plain listed
    have nonempty : counted ≠ [] := by
      cases copy with
      | once => exact plain.ne_nil
      | again => exact List.append_ne_nil_of_left_ne_nil plain.ne_nil _
    have ends := file.endsWithout_isBlank nonempty (copy.endsWithout_isBlank plain)
    rw [Text.trimBlank, Text.trim_eq_self ends, dropExtension_eq known nonempty file,
      copy.dropCounter_eq plain]
  have alone := kept .once (.inl rfl)
  rw [List.append_nil] at alone
  unfold prepare
  rw [kept copy listed, alone]

/-- Two readings that say the same about a release, its title and tokens apart. -/
structure SameRelease (reading reading' : NameReading) : Prop where
  isScene : reading.isScene = reading'.isScene
  studioTitle : reading.studioTitle = reading'.studioTitle
  releaseDate : reading.releaseDate = reading'.releaseDate
  year : reading.year = reading'.year

/-- Names that are prepared alike are read alike.  The titles of a scene and of a film agree, and so
do the titles of other names, if anything is left for a title of the prepared name. -/
theorem parse_congr {raw raw' : Text} (same : parser.prepare raw = parser.prepare raw')
    (detection detection' : Detection) :
    let reading := parser.parse detection raw
    let reading' := parser.parse detection' raw'
    SameRelease reading reading' ∧
      (reading'.isScene = true ∨ reading'.isFilm = true ∨
          titleText (parser.prepare raw').body ≠ [] →
        reading.title = reading'.title ∧ reading.tokens = reading'.tokens) := by
  unfold parse
  rcases recognise_congr same with alike | ⟨empty, title, title', ⟨eq, eq'⟩ | ⟨eq, eq'⟩⟩
  · rw [alike]
    cases parser.recognise raw' with
    | scene | malformedDate | film | plain => exact ⟨⟨rfl, rfl, rfl, rfl⟩, fun _ => ⟨rfl, rfl⟩⟩
  all_goals
    rw [eq, eq']
    refine ⟨⟨rfl, rfl, rfl, rfl⟩, fun said => ?_⟩
    rcases said with scene | film | named
    · cases scene
    · cases film
    · exact absurd empty named

/-- Parsers that try the extensions in different orders read every name alike. -/
theorem parse_perm {order : List Text} (known : parser.extensions.Perm videoFileExtensions)
    (reordered : order.Perm videoFileExtensions) (detection : Detection) (raw : Text) :
    parse { parser with extensions := order } detection raw = parser.parse detection raw := by
  have prepared : prepare { parser with extensions := order } raw = parser.prepare raw := by
    unfold prepare
    rw [dropExtension_perm reordered known]
  unfold parse recognise dateIn
  rw [prepared]

/-- A counter and an extension behind a plain name are invisible.  The name is recognised with
them as without them as a scene or not, with the same studio, date and year, and with the same
title and tokens, if it is a scene or a film or if anything is left for a title of the prepared
name.  All this does not depend on the order in which the extensions are tried. -/
theorem parse_copy_eq (known : parser.extensions.Perm videoFileExtensions)
    (plain : IsPlainName name) (copy : Counted name counted) {ending : Text}
    (listed : ending = [] ∨ ending.map smallLetter ∈ videoFileExtensions)
    (detection detection' : Detection) :
    let reading := parser.parse detection (counted ++ ending)
    let alone := parser.parse detection' name
    SameRelease reading alone ∧
    (alone.isScene = true ∨ alone.isFilm = true ∨ titleText (parser.prepare name).body ≠ [] →
      reading.title = alone.title ∧ reading.tokens = alone.tokens) ∧
    ∀ order : List Text, order.Perm videoFileExtensions → ∀ detection raw,
      parse { parser with extensions := order } detection raw = parser.parse detection raw := by
  intro reading alone
  obtain ⟨same, titles⟩ := parse_congr (prepare_copy known plain copy listed) detection detection'
  exact ⟨same, titles, fun order reordered => parse_perm known reordered⟩

/-- The second copy of a scene in a file with capital letters, the extensions tried backwards. -/
theorem parse_second_copy :
    let name := "Studio.21.01.08.Quinn.E2".toList
    let reading := ({} : Parser).parse .off ((name ++ "_2".toList) ++ ".MKV".toList)
    IsPlainName name ∧ Counted name (name ++ "_2".toList) ∧ reading.isScene = true ∧
      reading.studioTitle = some "Studio".toList ∧
      reading.releaseDate = some "2021-01-08".toList ∧ reading.title = "Quinn".toList ∧
      parse { extensions := videoFileExtensions.reverse } .off name =
        ({} : Parser).parse .off name := by
  intro name reading
  have known : ({} : Parser).extensions.Perm videoFileExtensions := .refl _
  have plain : IsPlainName name := by
    refine ⟨by decide, ⟨?_, ?_⟩, by decide +kernel, ?_⟩
    · rintro c ⟨⟩
      decide
    · rintro c ⟨⟩
      decide
    intro kept d digits split
    have low : '_' ∉ name := by decide +kernel
    exact absurd (by rw [split]; simp) low
  have copy : Counted name (name ++ "_2".toList) :=
    .again (by decide +kernel) (by decide) (by decide +kernel)
  have listed : ".MKV".toList = [] ∨ ".MKV".toList.map smallLetter ∈ videoFileExtensions := by
    decide +kernel
  obtain ⟨same, titles, orders⟩ := parse_copy_eq known plain copy listed .off .off
  have scene : (({} : Parser).parse .off name).isScene = true := by decide +kernel
  refine ⟨plain, copy, same.isScene.trans scene, same.studioTitle.trans ?_,
    same.releaseDate.trans ?_, (titles (.inl scene)).1.trans ?_,
    orders _ (List.reverse_perm _) .off name⟩
  all_goals decide +kernel

end Parser

end ReleaseCatalog.Release
