import ReleaseCatalog.Release.FileName
import ReleaseCatalog.Text.Words
import ReleaseCatalog.Unicode.Alphanumeric
import ReleaseCatalog.Unicode.Punctuation

/-!
# Classes that exclude or contain one another

Two tables are *apart* if no range of one meets a range of the other, and then
no character is in both classes.  ASCII letters are apart from the blank
characters, the decimal digits and the punctuation, so a letter is never a
separator.  Decimal digits are apart from the blank characters.

A class is contained in another if each range of its table lies in a range of the other, which one
pass over the other table finds out (`CodeTable.hasInside`).  Decimal digits are word characters.
-/

namespace ReleaseCatalog

/-- What holds for all characters of a list is decided by going through the list, and not through
all characters. -/
instance decidableForallMemText (p : Char → Prop) [DecidablePred p] (t : List Char) :
    Decidable (∀ c ∈ t, p c) := List.decidableBAll p t

namespace Unicode

namespace CodeTable

/-- A code point that a lookup finds lies in a range, in whatever order the ranges are. -/
theorem exists_of_covers {table : CodeTable} {n : Nat} (h : table.covers n = true) :
    ∃ r ∈ table, r.1 ≤ n ∧ n ≤ r.2 := by
  induction table with
  | nil => cases h
  | cons r rest ih =>
      obtain ⟨lo, hi⟩ := r
      unfold covers at h
      split at h
      · cases h
      · next above =>
          split at h
          · next below => exact ⟨(lo, hi), List.mem_cons_self, Nat.le_of_not_lt above, below⟩
          · obtain ⟨r, member, bounds⟩ := ih h
            exact ⟨r, List.mem_cons_of_mem _ member, bounds⟩

/-- No range of one table meets a range of the other. -/
def Apart (table other : CodeTable) : Prop :=
  ∀ r ∈ table, ∀ s ∈ other, r.2 < s.1 ∨ s.2 < r.1

instance (table other : CodeTable) : Decidable (table.Apart other) := by
  unfold Apart; infer_instance

theorem Apart.covers_eq_false {table other : CodeTable} (apart : table.Apart other) {n : Nat}
    (h : other.covers n = true) : table.covers n = false := by
  refine Bool.eq_false_iff.mpr fun both => ?_
  obtain ⟨s, hs, s_le, le_s⟩ := exists_of_covers h
  obtain ⟨r, hr, r_le, le_r⟩ := exists_of_covers both
  cases apart r hr s hs with
  | inl below => omega
  | inr above => omega

/-- Whether a range lies in one of a table and behind the ranges that stand before this one. -/
def hasInside : CodeTable → Nat × Nat → Bool
  | [], _ => false
  | s :: rest, r =>
      if s.1 ≤ r.1 then if s.2 < r.1 then hasInside rest r else r.2 ≤ s.2 else false
termination_by structural table => table

/-- A lookup finds the code points of such a range. -/
theorem covers_of_hasInside {table : CodeTable} {r : Nat × Nat} {n : Nat}
    (inside : table.hasInside r = true) (lo : r.1 ≤ n) (hi : n ≤ r.2) :
    table.covers n = true := by
  induction table with
  | nil => cases inside
  | cons s rest ih =>
      unfold hasInside at inside
      split at inside
      · next above =>
          unfold covers
          rw [if_neg (Nat.not_lt_of_le (Nat.le_trans above lo))]
          split at inside
          · next below =>
              rw [if_neg (Nat.not_le_of_lt (Nat.lt_of_lt_of_le below lo))]
              exact ih inside
          · rw [if_pos (Nat.le_trans hi (of_decide_eq_true inside))]
      · cases inside

end CodeTable

/-! ## Letters -/

/-- The ranges of ASCII letters. -/
def letterTable : CodeTable := [(0x41, 0x5A), (0x61, 0x7A)]

theorem covers_letterTable {c : Char} (h : c.isAlpha = true) :
    letterTable.covers c.toNat = true := by
  have bounds : (0x41 ≤ c.toNat ∧ c.toNat ≤ 0x5A) ∨ (0x61 ≤ c.toNat ∧ c.toNat ≤ 0x7A) := by
    cases Bool.or_eq_true_iff.mp h with
    | inl upper =>
        obtain ⟨lo, hi⟩ := of_decide_eq_true upper
        exact .inl ⟨UInt32.le_iff_toNat_le.mp lo, UInt32.le_iff_toNat_le.mp hi⟩
    | inr lower =>
        obtain ⟨lo, hi⟩ := Bool.and_eq_true_iff.mp lower
        exact .inr ⟨UInt32.le_iff_toNat_le.mp (of_decide_eq_true lo),
          UInt32.le_iff_toNat_le.mp (of_decide_eq_true hi)⟩
  unfold letterTable
  rcases bounds with bounds | bounds
  · rw [CodeTable.covers, if_neg (by omega), if_pos bounds.2]
  · rw [CodeTable.covers, if_neg (by omega), if_neg (by omega), CodeTable.covers,
      if_neg (by omega), if_pos bounds.2]

theorem isBlank_eq_false_of_isAlpha {c : Char} (h : c.isAlpha = true) : isBlank c = false :=
  CodeTable.Apart.covers_eq_false (by decide) (covers_letterTable h)

theorem isDecimal_eq_false_of_isAlpha {c : Char} (h : c.isAlpha = true) : isDecimal c = false :=
  CodeTable.Apart.covers_eq_false (by decide) (covers_letterTable h)

theorem isPunctuation_eq_false_of_isAlpha {c : Char} (h : c.isAlpha = true) :
    isPunctuation c = false :=
  CodeTable.Apart.covers_eq_false (by decide +kernel) (covers_letterTable h)

/-! ## Digits -/

theorem isBlank_eq_false_of_isDecimal {c : Char} (h : isDecimal c = true) : isBlank c = false :=
  CodeTable.Apart.covers_eq_false (by decide) h

theorem isDecimal_of_isDigit {c : Char} (h : c.isDigit = true) : isDecimal c = true := by
  obtain ⟨lo, hi⟩ := Bool.and_eq_true_iff.mp h
  have above : 0x30 ≤ c.toNat := UInt32.le_iff_toNat_le.mp (of_decide_eq_true lo)
  have below : c.toNat ≤ 0x39 := UInt32.le_iff_toNat_le.mp (of_decide_eq_true hi)
  unfold isDecimal decimalTable
  rw [CodeTable.covers, if_neg (Nat.not_lt_of_le above), if_pos below]

theorem isAlpha_eq_false_of_isDecimal {c : Char} (h : isDecimal c = true) : c.isAlpha = false := by
  refine Bool.eq_false_iff.mpr fun alpha => ?_
  rw [isDecimal_eq_false_of_isAlpha alpha] at h
  cases h

/-- A decimal digit can stand inside a word. -/
theorem isWordChar_of_isDecimal {c : Char} (h : isDecimal c = true) : isWordChar c = true := by
  have inside : ∀ r ∈ decimalTable, alphanumericTable.hasInside r = true := by decide +kernel
  obtain ⟨r, hr, lo, hi⟩ := CodeTable.exists_of_covers h
  exact Bool.or_eq_true_iff.mpr (.inl (CodeTable.covers_of_hasInside (inside r hr) lo hi))

end Unicode

/-! ## Separators and small letters -/

open Unicode (isBlank isDecimal)

theorem isSeparator_iff {c : Char} :
    isSeparator c = true ↔ isBlank c = true ∨ c ∈ "._-".toList := by
  unfold isSeparator
  simp [or_assoc]

theorem isSeparator_eq_false_of_isAlpha {c : Char} (h : c.isAlpha = true) :
    isSeparator c = false := by
  refine Bool.eq_false_iff.mpr fun separator => ?_
  unfold isSeparator at separator
  rw [Unicode.isBlank_eq_false_of_isAlpha h] at separator
  simp only [Bool.false_or, Bool.or_eq_true, beq_iff_eq] at separator
  rcases separator with (rfl | rfl) | rfl
  · cases h
  · cases h
  · cases h

theorem isSeparator_eq_false_of_isDecimal {c : Char} (h : isDecimal c = true) :
    isSeparator c = false := by
  refine Bool.eq_false_iff.mpr fun separator => ?_
  unfold isSeparator at separator
  rw [Unicode.isBlank_eq_false_of_isDecimal h] at separator
  simp only [Bool.false_or, Bool.or_eq_true, beq_iff_eq] at separator
  rcases separator with (rfl | rfl) | rfl
  all_goals revert h; decide

theorem isSeparator_of_isBlank {c : Char} (h : isBlank c = true) : isSeparator c = true := by
  unfold isSeparator
  rw [h]
  rfl

theorem isAlphanum_eq_false_of_isSeparator {c : Char} (h : isSeparator c = true) :
    c.isAlphanum = false := by
  refine Bool.eq_false_iff.mpr fun alphanumeric => ?_
  cases Bool.or_eq_true_iff.mp alphanumeric with
  | inl alpha => rw [isSeparator_eq_false_of_isAlpha alpha] at h; cases h
  | inr digit =>
      rw [isSeparator_eq_false_of_isDecimal (Unicode.isDecimal_of_isDigit digit)] at h
      cases h

namespace Release

theorem smallLetter_eq_self {c : Char} (h : c.isAlpha = false) (h' : c ≠ '\u212A') :
    smallLetter c = c := by
  unfold smallLetter
  rw [if_neg h']
  unfold Char.toLower
  refine dif_neg fun upper => ?_
  have alpha : c.isAlpha = true := Bool.or_eq_true_iff.mpr (.inl (decide_eq_true upper))
  rw [h] at alpha
  cases alpha

/-- Making letters small leaves blank characters alone. -/
theorem smallLetter_of_isBlank {c : Char} (h : isBlank c = true) : smallLetter c = c := by
  refine smallLetter_eq_self (Bool.eq_false_iff.mpr fun alpha => ?_) ?_
  · rw [Unicode.isBlank_eq_false_of_isAlpha alpha] at h
    cases h
  · rintro rfl
    cases h

/-- Making letters small leaves decimal digits alone. -/
theorem smallLetter_of_isDecimal {c : Char} (h : isDecimal c = true) : smallLetter c = c := by
  refine smallLetter_eq_self (Unicode.isAlpha_eq_false_of_isDecimal h) ?_
  rintro rfl
  revert h
  decide

end Release

end ReleaseCatalog
