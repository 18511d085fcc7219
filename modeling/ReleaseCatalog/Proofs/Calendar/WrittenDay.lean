import Mathlib.Algebra.Order.Ring.Int
import Mathlib.Data.List.Lex
import Mathlib.Data.Char
import ReleaseCatalog.Calendar.Day
import ReleaseCatalog.Unicode.Decimal

/-!
# Days as they are written

A number without a sign is filled up with zeros to a *row* of digits of its width, if it is not too
great for it (`isRow_ofIntPadded`).  Rows of one width are ordered like the numbers they spell
(`IsRow.lt_iff`), since what follows a digit is worth less than one more of that digit.

A day of a year from 0 to 9999 is written as three rows joined by hyphens, of four, two and two
digits (`writesDay_writeDay`).  So such texts are ordered like the days (`WritesDay.lt_iff`).
-/

namespace ReleaseCatalog

/-! ## ASCII digits -/

namespace Unicode

/-- The value of an ASCII digit is its distance from zero. -/
theorem decimalValue_of_isDigit {c : Char} (h : c.isDigit = true) :
    decimalValue c = c.toNat - '0'.toNat := by
  obtain ⟨low, high⟩ := Char.isDigit_iff_toNat.mp h
  have nine : '9'.toNat = 0x39 := rfl
  have zero : '0'.toNat = 0x30 := rfl
  have row : decimalTable.find? (fun r => r.1 ≤ c.toNat && c.toNat ≤ r.2) = some (0x30, 0x39) := by
    refine List.find?_cons_of_pos ?_
    rw [Bool.and_eq_true, decide_eq_true_eq, decide_eq_true_eq]
    exact ⟨low, high⟩
  unfold decimalValue
  rw [row]
  dsimp only
  omega

/-- ASCII digits spell the number that the standard library reads from them. -/
theorem numeral_eq_ofDigitChars {digits : Text} (h : ∀ c ∈ digits, c.isDigit = true) :
    numeral digits = Nat.ofDigitChars 10 digits 0 := by
  rw [Nat.ofDigitChars_eq_foldl]
  unfold numeral
  refine List.foldl_ext _ _ _ fun n c hc => ?_
  rw [decimalValue_of_isDigit (h c hc)]

end Unicode

namespace Text

open Unicode (numeral)

/-- The first digit is worth its value times a power of ten. -/
theorem ofDigitChars_cons_zero (c : Char) (digits : Text) :
    Nat.ofDigitChars 10 (c :: digits) 0 =
      10 ^ digits.length * (c.toNat - '0'.toNat) + Nat.ofDigitChars 10 digits 0 := by
  rw [Nat.ofDigitChars_cons, Nat.ofDigitChars_eq_ofDigitChars_zero, Nat.mul_zero, Nat.zero_add]

theorem ofDigitChars_lt {digits : Text} (h : ∀ c ∈ digits, c.isDigit = true) :
    Nat.ofDigitChars 10 digits 0 < 10 ^ digits.length := by
  induction digits with
  | nil => decide
  | cons c digits ih =>
      obtain ⟨first, rest⟩ := List.forall_mem_cons.mp h
      have value : c.toNat - '0'.toNat ≤ 9 := by
        have high := (Char.isDigit_iff_toNat.mp first).2
        have nine : '9'.toNat = '0'.toNat + 9 := rfl
        omega
      rw [ofDigitChars_cons_zero, List.length_cons, Nat.pow_succ]
      have worth := Nat.mul_le_mul_left (10 ^ digits.length) value
      have below := ih rest
      omega

/-- Numbers are compared by how often a weight goes into them, and then by the rest. -/
theorem mul_add_lt_mul_add_iff {weight m m' n n' : Nat} (h : n < weight) (h' : n' < weight) :
    weight * m + n < weight * m' + n' ↔ m < m' ∨ m = m' ∧ n < n' := by
  rcases Nat.lt_trichotomy m m' with less | rfl | more
  · have := Nat.mul_le_mul_left weight less
    rw [Nat.mul_succ] at this
    omega
  · omega
  · have := Nat.mul_le_mul_left weight more
    rw [Nat.mul_succ] at this
    omega

/-- Digits of one length are ordered like the numbers they spell. -/
theorem lt_iff_ofDigitChars_lt {s t : Text} (hs : ∀ c ∈ s, c.isDigit = true)
    (ht : ∀ c ∈ t, c.isDigit = true) (same : s.length = t.length) :
    s < t ↔ Nat.ofDigitChars 10 s 0 < Nat.ofDigitChars 10 t 0 := by
  induction s generalizing t with
  | nil =>
      cases t with
      | nil => simp
      | cons d t => cases same
  | cons c s ih =>
      cases t with
      | nil => cases same
      | cons d t =>
          obtain ⟨hc, hs'⟩ := List.forall_mem_cons.mp hs
          obtain ⟨hd, ht'⟩ := List.forall_mem_cons.mp ht
          have same' : s.length = t.length := Nat.succ.inj same
          have below := ofDigitChars_lt hs'
          have below' := ofDigitChars_lt ht'
          have low := (Char.isDigit_iff_toNat.mp hc).1
          have low' := (Char.isDigit_iff_toNat.mp hd).1
          have first : c < d ↔ c.toNat - '0'.toNat < d.toNat - '0'.toNat := by
            have order : c < d ↔ c.toNat < d.toNat := Iff.rfl
            rw [order]
            omega
          have equal : c = d ↔ c.toNat - '0'.toNat = d.toNat - '0'.toNat := by
            rw [← Char.toNat_inj]
            omega
          rw [same'] at below
          rw [List.cons_lt_cons_iff, ih hs' ht' same', ofDigitChars_cons_zero,
            ofDigitChars_cons_zero, same', mul_add_lt_mul_add_iff below below', first, equal]

/-- Texts of which the beginnings have one length are compared by these first. -/
theorem append_lt_append_iff {s s' t t' : Text} (same : s.length = s'.length) :
    s ++ t < s' ++ t' ↔ s < s' ∨ s = s' ∧ t < t' := by
  induction s generalizing s' with
  | nil =>
      obtain rfl := List.length_eq_zero_iff.mp same.symm
      simp
  | cons c s ih =>
      cases s' with
      | nil => cases same
      | cons c' s' =>
          rw [List.cons_append, List.cons_append, List.cons_lt_cons_iff, List.cons_lt_cons_iff,
            ih (Nat.succ.inj same), List.cons.injEq]
          tauto

/-! ## Rows of digits -/

/-- A row of ASCII digits of a width that spells a number. -/
structure IsRow (width : Nat) (n : Int) (digits : Text) : Prop where
  length : digits.length = width
  isDigit : ∀ c ∈ digits, c.isDigit = true
  value : (numeral digits : Int) = n

variable {width : Nat} {n n' : Int} {digits digits' : Text}

theorem IsRow.value_eq (row : IsRow width n digits) :
    (Nat.ofDigitChars 10 digits 0 : Int) = n := by
  rw [← Unicode.numeral_eq_ofDigitChars row.isDigit]
  exact row.value

/-- A number that is filled up with zeros is written in digits. -/
theorem isDigit_of_mem_padded {zeros k : Nat} {c : Char}
    (h : c ∈ List.replicate zeros '0' ++ ofNat k) : c.isDigit = true := by
  cases List.mem_append.mp h with
  | inl zero => rw [(List.mem_replicate.mp zero).2]; decide
  | inr digit => exact Nat.isDigit_of_mem_toDigits (by decide) (by decide) digit

/-- Zeros in front of a number do not change it. -/
theorem ofDigitChars_padded (zeros k : Nat) :
    Nat.ofDigitChars 10 (List.replicate zeros '0' ++ ofNat k) 0 = k := by
  rw [Nat.ofDigitChars_append, Nat.ofDigitChars_replicate_zero, Nat.mul_zero]
  exact Nat.ofDigitChars_ten_toDigits

/-- A number without a sign is filled up to a row, if it is not too great. -/
theorem isRow_ofIntPadded (nonneg : 0 ≤ n) (fits : n < 10 ^ width) (wide : 0 < width) :
    IsRow width n (ofIntPadded width n) := by
  obtain ⟨k, rfl⟩ := Int.eq_ofNat_of_zero_le nonneg
  have fits' : k < 10 ^ width := by exact_mod_cast fits
  have short : (ofNat k).length ≤ width := (Nat.length_toDigits_le_iff (by decide) wide).mpr fits'
  have padded : ofIntPadded width k = List.replicate (width - (ofNat k).length) '0' ++ ofNat k := by
    unfold ofIntPadded
    exact if_neg (Int.not_lt.mpr nonneg)
  rw [padded]
  refine ⟨?_, fun c => isDigit_of_mem_padded, ?_⟩
  · rw [List.length_append, List.length_replicate]
    omega
  · rw [Unicode.numeral_eq_ofDigitChars fun c => isDigit_of_mem_padded, ofDigitChars_padded]

/-- Rows of one width are ordered like the numbers they spell. -/
theorem IsRow.lt_iff (row : IsRow width n digits) (row' : IsRow width n' digits') :
    digits < digits' ↔ n < n' := by
  rw [lt_iff_ofDigitChars_lt row.isDigit row'.isDigit (row.length.trans row'.length.symm),
    ← row.value_eq, ← row'.value_eq, Int.ofNat_lt]

/-- A number has one row of a width. -/
theorem IsRow.eq_iff (row : IsRow width n digits) (row' : IsRow width n' digits') :
    digits = digits' ↔ n = n' := by
  constructor
  · rintro rfl
    exact row.value.symm.trans row'.value
  · rintro rfl
    rcases lt_trichotomy digits digits' with less | same | more
    · exact absurd ((row.lt_iff row').mp less) (Int.lt_irrefl n)
    · exact same
    · exact absurd ((row'.lt_iff row).mp more) (Int.lt_irrefl n)

end Text

/-! ## Days -/

namespace Calendar

open Text (IsRow)

/-- A text writes a day in ten characters: a year of four digits, a month and a day of two. -/
def WritesDay (t : Text) (year month day : Int) : Prop :=
  ∃ y m d, t = y ++ '-' :: (m ++ '-' :: d) ∧ IsRow 4 year y ∧ IsRow 2 month m ∧ IsRow 2 day d

/-- One day comes before another. -/
def Precedes (year month day year' month' day' : Int) : Prop :=
  year < year' ∨ year = year' ∧ (month < month' ∨ month = month' ∧ day < day')

variable {year month day year' month' day' : Int} {t t' : Text}

theorem daysInMonth_le (year month : Int) : daysInMonth year month ≤ 31 := by
  unfold daysInMonth
  split
  · split <;> decide
  · split
    · decide
    · split <;> decide

/-- The month and the day of the month are written in two digits. -/
theorem IsDay.isRow (isDay : IsDay year month day) :
    IsRow 2 month (Text.ofIntPadded 2 month) ∧ IsRow 2 day (Text.ofIntPadded 2 day) := by
  obtain ⟨month_pos, month_le, day_pos, day_le⟩ := isDay
  have short := daysInMonth_le year month
  exact ⟨Text.isRow_ofIntPadded (by omega) (by omega) (by decide),
    Text.isRow_ofIntPadded (by omega) (by omega) (by decide)⟩

/-- A day of a year of at most four digits is written in ten characters. -/
theorem writesDay_writeDay (first : 0 ≤ year) (last : year ≤ 9999)
    (isDay : IsDay year month day) : WritesDay (writeDay year month day) year month day := by
  refine ⟨_, _, _, ?_, Text.isRow_ofIntPadded first (by omega) (by decide), isDay.isRow.1,
    isDay.isRow.2⟩
  unfold writeDay
  simp

namespace WritesDay

theorem length (writes : WritesDay t year month day) : t.length = 10 := by
  obtain ⟨y, m, d, rfl, hy, hm, hd⟩ := writes
  simp only [List.length_append, List.length_cons, hy.length, hm.length, hd.length]

theorem toNat_lt (writes : WritesDay t year month day) : ∀ c ∈ t, c.toNat < 128 := by
  obtain ⟨y, m, d, rfl, hy, hm, hd⟩ := writes
  have ascii : ∀ c : Char, c.isDigit = true → c.toNat < 128 := fun c digit =>
    lt_of_le_of_lt (Char.isDigit_iff_toNat.mp digit).2 (by decide)
  intro c hc
  simp only [List.mem_append, List.mem_cons] at hc
  rcases hc with hc | rfl | hc | rfl | hc
  · exact ascii c (hy.isDigit c hc)
  · decide
  · exact ascii c (hm.isDigit c hc)
  · decide
  · exact ascii c (hd.isDigit c hc)

/-- The texts of days are ordered like the days. -/
theorem lt_iff (writes : WritesDay t year month day) (writes' : WritesDay t' year' month' day') :
    t < t' ↔ Precedes year month day year' month' day' := by
  obtain ⟨y, m, d, rfl, hy, hm, hd⟩ := writes
  obtain ⟨y', m', d', rfl, hy', hm', hd'⟩ := writes'
  unfold Precedes
  rw [Text.append_lt_append_iff (hy.length.trans hy'.length.symm), List.cons_lt_cons_iff,
    Text.append_lt_append_iff (hm.length.trans hm'.length.symm), List.cons_lt_cons_iff,
    hy.lt_iff hy', hy.eq_iff hy', hm.lt_iff hm', hm.eq_iff hm', hd.lt_iff hd']
  simp

end WritesDay

end Calendar

end ReleaseCatalog
