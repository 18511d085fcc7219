import Mathlib.Data.List.Induction
import Mathlib.Data.List.Infix
import Mathlib.Data.Option.Basic
import ReleaseCatalog.Proofs.Text.Scanning
import ReleaseCatalog.Proofs.Unicode.Classes
import ReleaseCatalog.Release.DateSearch

/-!
# Fragments in the shape of a date

`DateShape.Spells` says which texts have a shape and which numbers they spell,
and `DateShape.Stands` that such a fragment stands between two texts with no
decimal digit beside it.  Neither mentions a search.  The finder of a shape
finds exactly the fragments that stand in its place (`finder_eq_some_iff`), so
every occurrence stands (`stands_of_mem_occurrences`).

Whether two fragments of one shape can overlap is read off their *frames*, the
row of digits and other characters from just before a fragment to just after
it.  In three shapes they cannot.  Two fragments of the short shape overlap only
if one begins three or six characters behind the other (`overlap`), since a
number of two digits at the end of one may be the first of the other.
-/

namespace ReleaseCatalog.Release

open Unicode (isDecimal numeral)

/-! ## Numbers -/

/-- A row of decimal digits of a width. -/
def IsNumber (width : Nat) (t : Text) : Prop := t.length = width ∧ ∀ c ∈ t, isDecimal c = true

theorem IsNumber.ne_nil {width : Nat} {t : Text} (h : IsNumber (width + 1) t) : t ≠ [] := by
  rintro rfl
  cases h.1

theorem readNumber_eq_some_iff {width n : Nat} {t rest : Text} :
    readNumber width t = some (n, rest) ↔
      ∃ digits, t = digits ++ rest ∧ IsNumber width digits ∧ numeral digits = n := by
  constructor
  · intro h
    by_cases hd : (t.take width).length = width ∧ (t.take width).all isDecimal = true
    · simp only [readNumber, hd.1, hd.2, and_self, if_true, Option.some.injEq,
        Prod.mk.injEq] at h
      obtain ⟨rfl, rfl⟩ := h
      exact ⟨t.take width, (List.take_append_drop ..).symm,
        ⟨hd.1, List.all_eq_true.mp hd.2⟩, rfl⟩
    · simp only [readNumber, hd, if_false] at h
      cases h
  · rintro ⟨digits, rfl, ⟨rfl, decimal⟩, rfl⟩
    have all : digits.all isDecimal = true := List.all_eq_true.mpr decimal
    simp [readNumber, all]

theorem readOneOf_eq_some_iff {choices : List Char} {c : Char} {t rest : Text} :
    readOneOf choices t = some (c, rest) ↔ t = c :: rest ∧ c ∈ choices := by
  cases t with
  | nil => simp [readOneOf]
  | cons d ds =>
      by_cases hd : d ∈ choices
      · simp only [readOneOf, hd, if_true, Option.some.injEq, Prod.mk.injEq, List.cons.injEq]
        constructor
        · rintro ⟨rfl, rfl⟩
          exact ⟨⟨rfl, rfl⟩, hd⟩
        · exact fun h => h.1
      · simp only [readOneOf, hd, if_false, List.cons.injEq]
        constructor
        · intro h; cases h
        · rintro ⟨⟨rfl, rfl⟩, hc⟩
          exact absurd hc hd

theorem readSeparated_eq_some_iff {separators : List Char} {width1 width2 width3 a b c : Nat}
    {t rest : Text} :
    readSeparated separators width1 width2 width3 t = some ((a, b, c), rest) ↔
      ∃ s x y z, s ∈ separators ∧ IsNumber width1 x ∧ IsNumber width2 y ∧ IsNumber width3 z ∧
        t = x ++ s :: (y ++ s :: z) ++ rest ∧ numeral x = a ∧ numeral y = b ∧ numeral z = c := by
  simp only [readSeparated, Option.bind_eq_bind, Option.bind_eq_some_iff, Prod.exists,
    readNumber_eq_some_iff, readOneOf_eq_some_iff, Option.pure_def, Option.some.injEq,
    Prod.mk.injEq, List.mem_singleton]
  constructor
  · rintro ⟨a, _, ⟨x, rfl, hx, rfl⟩, _, _, ⟨rfl, hs⟩, b, _, ⟨y, rfl, hy, rfl⟩, s, _, ⟨rfl, rfl⟩,
      c, _, ⟨z, rfl, hz, rfl⟩, ⟨rfl, rfl, rfl⟩, rfl⟩
    exact ⟨s, x, y, z, hs, hx, hy, hz, by simp, rfl, rfl, rfl⟩
  · rintro ⟨s, x, y, z, hs, hx, hy, hz, rfl, rfl, rfl, rfl⟩
    exact ⟨_, _, ⟨x, by simp, hx, rfl⟩, s, _, ⟨rfl, hs⟩, _, _, ⟨y, rfl, hy, rfl⟩, s, _,
      ⟨rfl, rfl⟩, _, _, ⟨z, rfl, hz, rfl⟩, ⟨rfl, rfl, rfl⟩, rfl⟩

namespace DateShape

/-! ## Fragments as they are spelled -/

/-- A text has the shape and spells the numbers. -/
inductive Spells : DateShape → Text → DateFields → Prop where
  | iso {s : Char} {y m d : Text} : s ∈ ['-', '.', '_', ' '] → IsNumber 4 y → IsNumber 2 m →
      IsNumber 2 d → Spells .iso (y ++ s :: (m ++ s :: d)) ⟨numeral y, numeral m, numeral d⟩
  | dayFirst {s : Char} {y m d : Text} : s ∈ ['-', '.', '/', ' '] → IsNumber 2 d → IsNumber 2 m →
      IsNumber 4 y → Spells .dayFirst (d ++ s :: (m ++ s :: y)) ⟨numeral y, numeral m, numeral d⟩
  | compact {y m d : Text} : startsWithCentury y = true → IsNumber 4 y → IsNumber 2 m →
      IsNumber 2 d → Spells .compact (y ++ (m ++ d)) ⟨numeral y, numeral m, numeral d⟩
  | short {s : Char} {y m d : Text} : s ∈ ['-', '.', '_', ' '] → IsNumber 2 y → IsNumber 2 m →
      IsNumber 2 d → Spells .short (y ++ s :: (m ++ s :: d)) ⟨numeral y, numeral m, numeral d⟩

/-- Only the first two characters matter for the century. -/
theorem startsWithCentury_append {y rest : Text} (h : IsNumber 4 y) :
    startsWithCentury (y ++ rest) = startsWithCentury y := by
  have long : 2 ≤ y.length := by rw [h.1]; omega
  unfold startsWithCentury
  rw [List.take_append_of_le_length long]

/-- A shape is read off the front of a text exactly if a fragment of it stands there. -/
theorem read_eq_some_iff {shape : DateShape} {t rest : Text} {fields : DateFields} :
    shape.read t = some (fields, rest) ↔
      ∃ fragment, t = fragment ++ rest ∧ shape.Spells fragment fields := by
  cases shape with
  | iso =>
      simp only [read, Option.bind_eq_bind, Option.bind_eq_some_iff, Prod.exists,
        readSeparated_eq_some_iff, Option.pure_def, Option.some.injEq, Prod.mk.injEq]
      constructor
      · rintro ⟨_, _, _, _, ⟨s, y, m, d, hs, hy, hm, hd, rfl, rfl, rfl, rfl⟩, rfl, rfl⟩
        exact ⟨_, rfl, .iso hs hy hm hd⟩
      · rintro ⟨_, rfl, spells⟩
        cases spells with
        | iso hs hy hm hd =>
            exact ⟨_, _, _, _, ⟨_, _, _, _, hs, hy, hm, hd, rfl, rfl, rfl, rfl⟩, rfl, rfl⟩
  | dayFirst =>
      simp only [read, Option.bind_eq_bind, Option.bind_eq_some_iff, Prod.exists,
        readSeparated_eq_some_iff, Option.pure_def, Option.some.injEq, Prod.mk.injEq]
      constructor
      · rintro ⟨_, _, _, _, ⟨s, d, m, y, hs, hd, hm, hy, rfl, rfl, rfl, rfl⟩, rfl, rfl⟩
        exact ⟨_, rfl, .dayFirst hs hd hm hy⟩
      · rintro ⟨_, rfl, spells⟩
        cases spells with
        | dayFirst hs hd hm hy =>
            exact ⟨_, _, _, _, ⟨_, _, _, _, hs, hd, hm, hy, rfl, rfl, rfl, rfl⟩, rfl, rfl⟩
  | compact =>
      simp only [read, Option.bind_eq_bind, Option.bind_eq_some_iff, Prod.exists,
        readNumber_eq_some_iff, Option.pure_def, Option.some.injEq, Prod.mk.injEq,
        Option.guard_eq_some']
      constructor
      · rintro ⟨_, century, _, _, ⟨y, rfl, hy, rfl⟩, _, _, ⟨m, rfl, hm, rfl⟩, _, _,
          ⟨d, rfl, hd, rfl⟩, rfl, rfl⟩
        rw [startsWithCentury_append hy] at century
        exact ⟨y ++ (m ++ d), by simp, .compact century hy hm hd⟩
      · rintro ⟨_, rfl, spells⟩
        cases spells with
        | @compact y m d century hy hm hd =>
            refine ⟨(), ?_, _, _, ⟨y, List.append_assoc .., hy, rfl⟩, _, _,
              ⟨m, List.append_assoc .., hm, rfl⟩, _, _, ⟨d, rfl, hd, rfl⟩, rfl, rfl⟩
            rw [List.append_assoc, startsWithCentury_append hy]
            exact century
  | short =>
      simp only [read, Option.bind_eq_bind, Option.bind_eq_some_iff, Prod.exists,
        readSeparated_eq_some_iff, Option.pure_def, Option.some.injEq, Prod.mk.injEq]
      constructor
      · rintro ⟨_, _, _, _, ⟨s, y, m, d, hs, hy, hm, hd, rfl, rfl, rfl, rfl⟩, rfl, rfl⟩
        exact ⟨_, rfl, .short hs hy hm hd⟩
      · rintro ⟨_, rfl, spells⟩
        cases spells with
        | short hs hy hm hd =>
            exact ⟨_, _, _, _, ⟨_, _, _, _, hs, hy, hm, hd, rfl, rfl, rfl, rfl⟩, rfl, rfl⟩

/-- A fragment spells its numbers in one way only. -/
theorem Spells.unique {shape : DateShape} {fragment : Text} {fields fields' : DateFields}
    (h : shape.Spells fragment fields) (h' : shape.Spells fragment fields') :
    fields = fields' := by
  have read := read_eq_some_iff.mpr ⟨fragment, (List.append_nil _).symm, h⟩
  rw [read_eq_some_iff.mpr ⟨fragment, (List.append_nil _).symm, h'⟩] at read
  cases read
  rfl

/-- The separators of dates. -/
def dateGaps : Text := ['-', '.', '_', '/', ' ']

/-- A fragment has nothing but digits and separators. -/
theorem Spells.isDecimal_or_mem_dateGaps {shape : DateShape} {fragment : Text}
    {fields : DateFields} (h : shape.Spells fragment fields) :
    ∀ c ∈ fragment, isDecimal c = true ∨ c ∈ dateGaps := by
  have nameSeparator : ∀ s ∈ ['-', '.', '_', ' '], s ∈ dateGaps := by decide
  have daySeparator : ∀ s ∈ ['-', '.', '/', ' '], s ∈ dateGaps := by decide
  intro c hc
  cases h with
  | iso hs hy hm hd =>
      simp only [List.mem_append, List.mem_cons] at hc
      rcases hc with hc | rfl | hc | rfl | hc
      · exact .inl (hy.2 c hc)
      · exact .inr (nameSeparator c hs)
      · exact .inl (hm.2 c hc)
      · exact .inr (nameSeparator c hs)
      · exact .inl (hd.2 c hc)
  | dayFirst hs hd hm hy =>
      simp only [List.mem_append, List.mem_cons] at hc
      rcases hc with hc | rfl | hc | rfl | hc
      · exact .inl (hd.2 c hc)
      · exact .inr (daySeparator c hs)
      · exact .inl (hm.2 c hc)
      · exact .inr (daySeparator c hs)
      · exact .inl (hy.2 c hc)
  | compact _ hy hm hd =>
      simp only [List.mem_append] at hc
      rcases hc with hc | hc | hc
      · exact .inl (hy.2 c hc)
      · exact .inl (hm.2 c hc)
      · exact .inl (hd.2 c hc)
  | short hs hy hm hd =>
      simp only [List.mem_append, List.mem_cons] at hc
      rcases hc with hc | rfl | hc | rfl | hc
      · exact .inl (hy.2 c hc)
      · exact .inr (nameSeparator c hs)
      · exact .inl (hm.2 c hc)
      · exact .inr (nameSeparator c hs)
      · exact .inl (hd.2 c hc)

/-! ## Fragments in their place -/

/-- A fragment stands between two texts and no decimal digit is beside it. -/
structure Stands (shape : DateShape) (before fragment after : Text) (fields : DateFields) :
    Prop where
  spells : shape.Spells fragment fields
  notBehindDigit : before.getLast?.any isDecimal = false
  notBeforeDigit : after.head?.any isDecimal = false

/-- A fragment of the shape stands at a position of a text. -/
def StandsAt (shape : DateShape) (t : Text) (position : Nat) (fields : DateFields) : Prop :=
  ∃ before fragment after, t = before ++ fragment ++ after ∧ before.length = position ∧
    shape.Stands before fragment after fields

theorem Stands.standsAt {shape : DateShape} {before fragment after : Text} {fields : DateFields}
    (h : shape.Stands before fragment after fields) :
    shape.StandsAt (before ++ fragment ++ after) before.length fields :=
  ⟨before, fragment, after, rfl, rfl, h⟩

/-- The finder of a shape finds exactly the fragments that stand in its place. -/
theorem finder_eq_some_iff {shape : DateShape} {previous : Option Char} {t : Text}
    {fields : DateFields} {length : Nat} :
    shape.finder previous t = some (fields, length) ↔
      previous.any isDecimal = false ∧ ∃ fragment after, t = fragment ++ after ∧
        fragment.length = length ∧ shape.Spells fragment fields ∧
          after.head?.any isDecimal = false := by
  unfold finder
  constructor
  · intro h
    by_cases hp : previous.any isDecimal = true
    · rw [if_pos hp] at h; cases h
    · rw [if_neg hp] at h
      refine ⟨Bool.eq_false_iff.mpr hp, ?_⟩
      split at h
      · next fields' rest hread =>
          obtain ⟨fragment, rfl, spells⟩ := read_eq_some_iff.mp hread
          by_cases hr : rest.head?.any isDecimal = true
          · rw [if_pos hr] at h; cases h
          · rw [if_neg hr, Option.some.injEq, Prod.mk.injEq] at h
            obtain ⟨rfl, rfl⟩ := h
            exact ⟨fragment, rest, rfl, by simp, spells, Bool.eq_false_iff.mpr hr⟩
      · cases h
  · rintro ⟨hp, fragment, after, rfl, rfl, spells, ha⟩
    rw [if_neg (Bool.eq_false_iff.mp hp), read_eq_some_iff.mpr ⟨fragment, rfl, spells⟩]
    simp [ha]

/-! ## Frames -/

/-- The characters of a fragment, true for a decimal digit. -/
def profile : DateShape → List Bool
  | iso => [true, true, true, true, false, true, true, false, true, true]
  | dayFirst => [true, true, false, true, true, false, true, true, true, true]
  | compact => [true, true, true, true, true, true, true, true]
  | short => [true, true, false, true, true, false, true, true]

/-- The number of characters of a fragment. -/
def width (shape : DateShape) : Nat := shape.profile.length

theorem map_isDecimal_of_isNumber {width : Nat} {t : Text} (h : IsNumber width t) :
    t.map isDecimal = List.replicate width true := by
  rw [← h.1, List.map_eq_replicate_iff]
  exact h.2

theorem Spells.map_isDecimal {shape : DateShape} {fragment : Text} {fields : DateFields}
    (h : shape.Spells fragment fields) : fragment.map isDecimal = shape.profile := by
  have nameSeparator : ∀ s ∈ ['-', '.', '_', ' '], isDecimal s = false := by decide
  have daySeparator : ∀ s ∈ ['-', '.', '/', ' '], isDecimal s = false := by decide
  cases h with
  | iso hs hy hm hd =>
      simp only [List.map_append, List.map_cons, map_isDecimal_of_isNumber hy,
        map_isDecimal_of_isNumber hm, map_isDecimal_of_isNumber hd,
        nameSeparator _ hs]
      rfl
  | dayFirst hs hd hm hy =>
      simp only [List.map_append, List.map_cons, map_isDecimal_of_isNumber hy,
        map_isDecimal_of_isNumber hm, map_isDecimal_of_isNumber hd, daySeparator _ hs]
      rfl
  | compact _ hy hm hd =>
      simp only [List.map_append, map_isDecimal_of_isNumber hy,
        map_isDecimal_of_isNumber hm, map_isDecimal_of_isNumber hd]
      rfl
  | short hs hy hm hd =>
      simp only [List.map_append, List.map_cons, map_isDecimal_of_isNumber hy,
        map_isDecimal_of_isNumber hm, map_isDecimal_of_isNumber hd,
        nameSeparator _ hs]
      rfl

/-- A fragment begins with a digit. -/
theorem Spells.head_isDecimal {shape : DateShape} {fragment : Text} {fields : DateFields}
    (h : shape.Spells fragment fields) : ∃ c rest, fragment = c :: rest ∧ isDecimal c = true := by
  have marks := h.map_isDecimal
  cases fragment with
  | nil => cases shape <;> cases marks
  | cons c rest =>
      refine ⟨c, rest, rfl, ?_⟩
      cases shape
      all_goals exact (List.cons.inj marks).1

/-- A fragment ends in a digit. -/
theorem Spells.getLast_isDecimal {shape : DateShape} {fragment : Text} {fields : DateFields}
    (h : shape.Spells fragment fields) : ∃ c, fragment.getLast? = some c ∧ isDecimal c = true := by
  have marks := congrArg List.getLast? h.map_isDecimal
  rw [List.getLast?_map] at marks
  cases last : fragment.getLast? with
  | none =>
      rw [last] at marks
      cases shape <;> cases marks
  | some c =>
      rw [last] at marks
      refine ⟨c, rfl, ?_⟩
      cases shape
      all_goals exact Option.some.inj marks

theorem Spells.length_eq {shape : DateShape} {fragment : Text} {fields : DateFields}
    (h : shape.Spells fragment fields) : fragment.length = shape.width := by
  rw [width, ← h.map_isDecimal, List.length_map]

/-- The characters from just before a fragment to just after it.  An end of the text counts as
no digit. -/
def frame (shape : DateShape) : List Bool := false :: (shape.profile ++ [false])

/-- The characters of a text with the place before it and the place after it. -/
def digitMarks (t : Text) : List Bool := false :: (t.map isDecimal ++ [false])

/-- Where a fragment stands, its frame is found among the digits of the text. -/
theorem StandsAt.frame_isPrefix {shape : DateShape} {t : Text} {position : Nat}
    {fields : DateFields} (h : shape.StandsAt t position fields) :
    shape.frame <+: (digitMarks t).drop position := by
  obtain ⟨before, fragment, after, rfl, rfl, spells, behind, ahead⟩ := h
  have front : (digitMarks (before ++ fragment ++ after)).drop before.length =
      false :: ((fragment ++ after).map isDecimal ++ [false]) := by
    cases before using List.reverseRecOn with
    | nil => rfl
    | append_singleton passed c =>
        have hc : isDecimal c = false := by simpa using behind
        simp [digitMarks, hc]
  have back : [false] <+: after.map isDecimal ++ [false] := by
    cases after with
    | nil => exact List.prefix_rfl
    | cons c rest =>
        have hc : isDecimal c = false := by simpa using ahead
        simp [hc]
  rw [front, List.map_append, spells.map_isDecimal, List.append_assoc]
  exact (List.prefix_cons_inj _).mpr ((List.prefix_append_right_inj _).mpr back)

/-- Fragments of one shape overlap only in the short shape, where the second
begins three or six characters behind the first. -/
theorem overlap {shape : DateShape} {t : Text} {position shift : Nat}
    {fields fields' : DateFields} (first : shape.StandsAt t position fields)
    (second : shape.StandsAt t (position + shift) fields') (positive : 0 < shift)
    (inside : shift < shape.width) : shape = .short ∧ (shift = 3 ∨ shift = 6) := by
  have shifted : shape.frame.drop shift <+: (digitMarks t).drop (position + shift) := by
    rw [← List.drop_drop]
    exact first.frame_isPrefix.drop shift
  have both : shape.frame.drop shift <+: shape.frame :=
    List.prefix_of_prefix_length_le shifted second.frame_isPrefix (by simp)
  have frames : ∀ shift < shape.width, 0 < shift → shape.frame.drop shift <+: shape.frame →
      shape = .short ∧ (shift = 3 ∨ shift = 6) := by
    cases shape <;> decide
  exact frames shift inside positive both

/-! ## Occurrences -/

/-- Every occurrence of a shape in a text stands in its place. -/
theorem stands_of_mem_occurrences {shape : DateShape} {t : Text} {o : Occurrence DateFields}
    (h : o ∈ shape.finder.occurrences t) : shape.Stands o.before o.fragment o.after o.value := by
  obtain ⟨length, found, taken, -⟩ := Finder.found_of_mem_occurrences h
  obtain ⟨behind, fragment, after, split, hlength, spells, ahead⟩ := finder_eq_some_iff.mp found
  rw [split, ← hlength, List.take_left] at taken
  rw [taken] at split ⊢
  rw [List.append_cancel_left split]
  exact ⟨spells, behind, ahead⟩

/-- A fragment that stands in its place is an occurrence, unless one that begins
before it reaches into it. -/
theorem Stands.mem_or_crossed {shape : DateShape} {before fragment after : Text}
    {fields : DateFields} (h : shape.Stands before fragment after fields) :
    ⟨before, fragment, after, fields⟩ ∈ shape.finder.occurrences (before ++ fragment ++ after) ∨
      ∃ o ∈ shape.finder.occurrences (before ++ fragment ++ after),
        o.before.length < before.length ∧ before.length < o.before.length + shape.width := by
  obtain ⟨length, hlength⟩ : ∃ length, fragment.length = length + 1 := by
    rw [h.spells.length_eq]
    cases shape <;> exact ⟨_, rfl⟩
  have found : shape.finder before.getLast? (fragment ++ after) = some (fields, length + 1) :=
    finder_eq_some_iff.mpr
      ⟨h.notBehindDigit, fragment, after, rfl, hlength, h.spells, h.notBeforeDigit⟩
  have nonempty : fragment ++ after ≠ [] := by
    intro empty
    rw [(List.append_eq_nil_iff.mp empty).1] at hlength
    cases hlength
  rw [List.append_assoc]
  cases Finder.mem_occurrences_or_crossed found nonempty with
  | inl member =>
      left
      rwa [← hlength, List.take_left, List.drop_left] at member
  | inr crossed =>
      obtain ⟨o, member, starts, ends⟩ := crossed
      rw [(stands_of_mem_occurrences member).spells.length_eq] at ends
      exact .inr ⟨o, member, starts, ends⟩

end DateShape

end ReleaseCatalog.Release
