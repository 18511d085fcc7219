import ReleaseCatalog.Proofs.Release.FileEndings
import ReleaseCatalog.Proofs.Release.SoleDate

/-!
# Names without a date

A search finds nothing exactly if no fragment of the name has the shape of a date
(`firstDate_eq_none_iff_forall_style`).  The endings of a file name take dates away but bring none
(`Leaves.hasNoDate`).

The *numbers* of a text are its longest runs of digits.  If they all have four digits,
no date begins in the text, whatever follows, but for one that begins with the last
number and goes on behind it (`StandsAt.behind_years`).
-/

namespace ReleaseCatalog.Release

open Calendar (YearRange)
open Unicode (isDecimal)

/-- No fragment of a text has the shape of a date. -/
def HasNoDate (t : Text) : Prop :=
  ∀ (shape : DateShape) (position : Nat) (fields : DateFields), ¬ shape.StandsAt t position fields

variable {t : Text}

/-! ## When a search finds nothing -/

/-- A search finds nothing exactly if there is nothing to find. -/
theorem firstDate_eq_none_iff_forall_style {styles : List DateStyle} {range : YearRange} :
    firstDate styles range t = none ↔
      ∀ style ∈ styles, ∀ position fields, ¬ style.shape.StandsAt t position fields := by
  unfold firstDate
  rw [find_or_head_eq_none_iff, List.filterMap_eq_nil_iff]
  exact forall₂_congr fun style _ => DateStyle.find_eq_none_iff

theorem firstDate_eq_none_iff (range : YearRange) :
    firstDate defaultStyles range t = none ↔ HasNoDate t := by
  rw [firstDate_eq_none_iff_forall_style]
  constructor
  · intro none shape
    have found := none shape.style (DateShape.mem_defaultStyles.mpr ⟨shape, rfl⟩)
    rwa [DateShape.shape_style] at found
  · intro absent style _
    exact absent style.shape

/-! ## Dates and the endings of a file name -/

/-- A date in what the endings leave was there before. -/
theorem Leaves.standsAt {rest left : Text} {shape : DateShape} {position : Nat}
    {fields : DateFields} (h : Leaves rest left) (stands : shape.StandsAt left position fields) :
    shape.StandsAt rest position fields := by
  obtain ⟨kept, dropped, lines, rfl, rfl, cut, feeds⟩ := h
  obtain ⟨before, fragment, after, split, rfl, stands⟩ := stands
  obtain ⟨c, last, digit⟩ := stands.spells.getLast_isDecimal
  have inside : ∃ more, kept = before ++ fragment ++ more ∧ after = more ++ lines := by
    rcases List.append_eq_append_iff.mp split with ⟨x, whole, feed⟩ | ⟨more, whole, behind⟩
    · -- The fragment ends in a digit, and so in what was kept.
      cases x using List.reverseRecOn with
      | nil =>
          rw [List.append_nil] at whole
          exact ⟨[], by rw [← whole, List.append_nil], feed.symm⟩
      | append_singleton x d =>
          have nonempty : fragment ≠ [] := by
            rintro rfl
            cases last
          have same := congrArg List.getLast? whole
          rw [List.getLast?_append_of_ne_nil _ nonempty, last, ← List.append_assoc,
            List.getLast?_concat, Option.some.injEq] at same
          have line := feeds d (by rw [feed]; simp)
          have feed_digit : isDecimal '\n' = false := by decide
          rw [same, line, feed_digit] at digit
          cases digit
    · exact ⟨more, whole, behind⟩
  obtain ⟨more, rfl, rfl⟩ := inside
  rw [List.append_assoc]
  exact DateShape.Stands.standsAt ⟨stands.spells, stands.notBehindDigit,
    any_head?_append (any_head?_of_append stands.notBeforeDigit) cut⟩

theorem Leaves.hasNoDate {rest left : Text} (h : Leaves rest left) (dateless : HasNoDate rest) :
    HasNoDate left :=
  fun shape position fields stands => dateless shape position fields (h.standsAt stands)

/-! ## Numbers -/

/-- Whether a character is no decimal digit. -/
def isNoDigit (c : Char) : Bool := !isDecimal c

theorem isNoDigit_iff {c : Char} : isNoDigit c = true ↔ isDecimal c = false := by
  rw [isNoDigit, Bool.not_eq_true']

/-- The longest runs of digits of a text. -/
def numbers (t : Text) : List Text := Text.words isNoDigit t

theorem all_isNoDigit_iff {c : Option Char} :
    c.all isNoDigit = true ↔ c.any isDecimal = false := by
  cases c with
  | none => exact ⟨fun _ => rfl, fun _ => rfl⟩
  | some c => exact isNoDigit_iff

theorem numbers_append_of_head {x y : Text} (h : y.head?.any isDecimal = false) :
    numbers (x ++ y) = numbers x ++ numbers y :=
  Text.words_append_of_head (all_isNoDigit_iff.mpr h)

theorem numbers_append_of_getLast {x y : Text} (h : x.getLast?.any isDecimal = false) :
    numbers (x ++ y) = numbers x ++ numbers y :=
  Text.words_append_of_getLast (all_isNoDigit_iff.mpr h)

theorem numbers_of_hasNoDigit (quiet : HasNoDigit t) : numbers t = [] := by
  have gaps : ∀ c ∈ t, isNoDigit c = true := fun c hc => isNoDigit_iff.mpr (quiet c hc)
  have none := Text.words_run_append gaps []
  rwa [List.append_nil, Text.words_nil] at none

theorem numbers_of_isNumber {width : Nat} (number : IsNumber (width + 1) t) : numbers t = [t] := by
  refine Text.words_of_isWord ⟨number.ne_nil, fun c hc => ?_⟩
  unfold isNoDigit
  rw [number.2 c hc, Bool.not_true]

theorem numbers_append_cons {c : Char} (h : isDecimal c = false) (x y : Text) :
    numbers (x ++ c :: y) = numbers x ++ numbers y :=
  Text.words_append_separator (isNoDigit_iff.mpr h) x y

/-- A text that begins with a digit has a number. -/
theorem numbers_cons_ne_nil {c : Char} (digit : isDecimal c = true) (rest : Text) :
    numbers (c :: rest) ≠ [] := by
  have behind : (rest.dropWhile isDecimal).head?.any isDecimal = false := by
    cases first : (rest.dropWhile isDecimal).head? with
    | none => rfl
    | some d => exact Text.eq_false_of_head?_dropWhile first
  have number : IsNumber ((rest.takeWhile isDecimal).length + 1) (c :: rest.takeWhile isDecimal) := by
    refine ⟨rfl, fun d hd => ?_⟩
    cases List.mem_cons.mp hd with
    | inl same => rw [same]; exact digit
    | inr later => exact List.all_eq_true.mp List.all_takeWhile d later
  have split : c :: rest = (c :: rest.takeWhile isDecimal) ++ rest.dropWhile isDecimal := by
    rw [List.cons_append, List.takeWhile_append_dropWhile]
  rw [split, numbers_append_of_head behind, numbers_of_isNumber number]
  exact List.cons_ne_nil _ _

namespace DateShape

/-- The numbers of digits of the numbers of a date. -/
def numberWidths : DateShape → List Nat
  | iso => [4, 2, 2]
  | dayFirst => [2, 2, 4]
  | compact => [8]
  | short => [2, 2, 2]

theorem numbers_separated {s : Char} {a b c : Nat} {x y z : Text} (gap : isDecimal s = false)
    (hx : IsNumber (a + 1) x) (hy : IsNumber (b + 1) y) (hz : IsNumber (c + 1) z) :
    numbers (x ++ s :: (y ++ s :: z)) = [x, y, z] := by
  rw [numbers_append_cons gap, numbers_append_cons gap, numbers_of_isNumber hx,
    numbers_of_isNumber hy, numbers_of_isNumber hz]
  rfl

theorem Spells.numberWidths_eq {shape : DateShape} {fragment : Text} {fields : DateFields}
    (h : shape.Spells fragment fields) :
    (numbers fragment).map List.length = shape.numberWidths := by
  have nameSeparator : ∀ s ∈ ['-', '.', '_', ' '], isDecimal s = false := by decide
  have daySeparator : ∀ s ∈ ['-', '.', '/', ' '], isDecimal s = false := by decide
  cases h with
  | iso hs hy hm hd =>
      rw [numbers_separated (nameSeparator _ hs) hy hm hd]
      simp only [List.map_cons, List.map_nil, hy.1, hm.1, hd.1]
      rfl
  | dayFirst hs hd hm hy =>
      rw [numbers_separated (daySeparator _ hs) hd hm hy]
      simp only [List.map_cons, List.map_nil, hy.1, hm.1, hd.1]
      rfl
  | @compact y m d _ hy hm hd =>
      have number : IsNumber 8 (y ++ (m ++ d)) := by
        refine ⟨by rw [List.length_append, List.length_append, hy.1, hm.1, hd.1], fun c hc => ?_⟩
        simp only [List.mem_append] at hc
        rcases hc with hc | hc | hc
        · exact hy.2 c hc
        · exact hm.2 c hc
        · exact hd.2 c hc
      rw [numbers_of_isNumber number, List.map_singleton, number.1]
      rfl
  | short hs hy hm hd =>
      rw [numbers_separated (nameSeparator _ hs) hy hm hd]
      simp only [List.map_cons, List.map_nil, hy.1, hm.1, hd.1]
      rfl

end DateShape

/-! ## Names whose numbers are years -/

/-- All numbers of a text have four digits. -/
def HasOnlyYears (t : Text) : Prop := ∀ n ∈ numbers t, n.length = 4

variable {front rest : Text} {shape : DateShape} {position : Nat} {fields : DateFields}

/-- If a text has one number, and with what follows is a number of four digits and one of two
behind it, then the text is the first number. -/
theorem eq_of_two_numbers {part y m more : Text} {s : Char} (single : (numbers part).length = 1)
    (hy : IsNumber 4 y) (hm : IsNumber 2 m) (gap : isDecimal s = false)
    (apart : rest.head?.any isDecimal = false) (split : part ++ rest = y ++ s :: (m ++ more)) :
    part = y := by
  rcases List.append_eq_append_iff.mp split with ⟨x, rfl, behind⟩ | ⟨x, rfl, behind⟩
  · cases x with
    | nil => rw [List.append_nil]
    | cons c x =>
        rw [behind] at apart
        exact absurd (hy.2 c (by simp)) (Bool.eq_false_iff.mp apart)
  · cases x with
    | nil => rw [List.append_nil]
    | cons c x =>
        obtain ⟨rfl, behind'⟩ := List.cons.inj behind
        rw [numbers_append_cons gap, numbers_of_isNumber hy] at single
        have quiet : numbers x = [] := List.length_eq_zero_iff.mp (Nat.succ.inj single)
        obtain ⟨d, m, rfl⟩ := List.exists_cons_of_ne_nil hm.ne_nil
        have digit := hm.2 d List.mem_cons_self
        cases x with
        | nil =>
            have first : rest = d :: m ++ more := behind'.symm
            rw [first] at apart
            exact absurd digit (Bool.eq_false_iff.mp apart)
        | cons e x =>
            rw [← (List.cons.inj behind').1] at quiet
            exact absurd quiet (numbers_cons_ne_nil digit x)

/-- A date that begins in a text in which all numbers have four digits begins with its last
number. -/
theorem DateShape.Spells.begins_with_year {part fragment after : Text}
    (spells : shape.Spells fragment fields) (ahead : after.head?.any isDecimal = false)
    (years : HasOnlyYears part) (nonempty : part ≠ []) (apart : rest.head?.any isDecimal = false)
    (split : part ++ rest = fragment ++ after) :
    IsNumber 4 part ∧ ∃ s m more, rest = s :: (m ++ s :: more) ∧ IsNumber 2 m := by
  have widths : (numbers part).map List.length ++ (numbers rest).map List.length =
      shape.numberWidths ++ (numbers after).map List.length := by
    rw [← spells.numberWidths_eq, ← List.map_append, ← List.map_append,
      ← numbers_append_of_head apart, ← numbers_append_of_head ahead, split]
  obtain ⟨n, more, cut⟩ : ∃ n more, numbers part = n :: more := by
    obtain ⟨c, tail, rfl, digit⟩ := spells.head_isDecimal
    obtain ⟨d, part, rfl⟩ := List.exists_cons_of_ne_nil nonempty
    rw [(List.cons.inj split).1]
    exact List.exists_cons_of_ne_nil (numbers_cons_ne_nil digit part)
  have first : n.length = 4 := years n (cut ▸ List.mem_cons_self)
  rw [cut, List.map_cons, first] at widths
  cases spells with
  | dayFirst => cases (List.cons.inj widths).1
  | compact => cases (List.cons.inj widths).1
  | short => cases (List.cons.inj widths).1
  | @iso s y m d hs hy hm hd =>
      have gaps : ∀ s ∈ ['-', '.', '_', ' '], isDecimal s = false := by decide
      have single : (numbers part).length = 1 := by
        cases more with
        | nil => rw [cut, List.length_singleton]
        | cons k more =>
            have second : k.length = 4 := years k (by rw [cut]; simp)
            have short := (List.cons.inj (List.cons.inj widths).2).1
            rw [second] at short
            cases short
      rw [List.append_assoc, List.cons_append, List.append_assoc] at split
      obtain rfl := eq_of_two_numbers single hy hm (gaps s hs) apart split
      exact ⟨hy, s, m, _, List.append_cancel_left split, hm⟩

/-- Behind a text in which all numbers have four digits, a date begins behind the text or with its
last number. -/
theorem DateShape.StandsAt.behind_years (years : HasOnlyYears front)
    (apart : rest.head?.any isDecimal = false)
    (h : shape.StandsAt (front ++ rest) position fields) :
    (∃ position, shape.StandsAt rest position fields) ∨
      front.getLast?.any isDecimal = true ∧
        ∃ s m more, rest = s :: (m ++ s :: more) ∧ IsNumber 2 m := by
  obtain ⟨before, fragment, after, split, rfl, stands⟩ := h
  rw [List.append_assoc] at split
  have behind : ∀ {x : Text}, x.getLast?.any isDecimal = false → rest = x ++ (fragment ++ after) →
      ∃ position, shape.StandsAt rest position fields := by
    rintro x behind rfl
    exact ⟨x.length, x, fragment, after, (List.append_assoc ..).symm, rfl, stands.spells, behind,
      stands.notBeforeDigit⟩
  rcases List.append_eq_append_iff.mp split with ⟨x, rfl, split'⟩ | ⟨part, rfl, split'⟩
  · refine .inl (behind ?_ split')
    cases x using List.reverseRecOn with
    | nil => rfl
    | append_singleton x c =>
        have last := stands.notBehindDigit
        rw [← List.append_assoc, List.getLast?_concat] at last
        rw [List.getLast?_concat]
        exact last
  · by_cases nonempty : part = []
    · subst nonempty
      exact .inl (behind (x := []) rfl split'.symm)
    · have inside : HasOnlyYears part := by
        intro n hn
        refine years n ?_
        rw [numbers_append_of_getLast stands.notBehindDigit]
        exact List.mem_append_right _ hn
      obtain ⟨number, goes_on⟩ := stands.spells.begins_with_year stands.notBeforeDigit inside
        nonempty apart split'.symm
      refine .inr ⟨?_, goes_on⟩
      rw [List.getLast?_append_of_ne_nil _ nonempty, List.getLast?_eq_some_getLast nonempty]
      exact number.2 _ (List.getLast_mem nonempty)

/-- A text without dates brings none to a text in which all numbers have four digits, unless it
begins with the rest of one. -/
theorem hasNoDate_append (years : HasOnlyYears front) (apart : rest.head?.any isDecimal = false)
    (dateless : HasNoDate rest)
    (alone : front.getLast?.any isDecimal = true →
      ∀ s m more, rest = s :: (m ++ s :: more) → ¬ IsNumber 2 m) :
    HasNoDate (front ++ rest) := by
  intro shape position fields stands
  rcases stands.behind_years years apart with ⟨position, behind⟩ | ⟨digit, s, m, more, split, two⟩
  · exact dateless shape position fields behind
  · exact alone digit s m more split two

end ReleaseCatalog.Release
