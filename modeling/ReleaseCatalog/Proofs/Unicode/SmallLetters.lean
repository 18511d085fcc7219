import ReleaseCatalog.Proofs.Text.Renaming
import ReleaseCatalog.Release.FileName
import ReleaseCatalog.Release.TitleText

/-!
# Making letters small

`Char.toLower` renames the ASCII capitals and nothing else.  So whatever is
computed from a character is the same for its small letter if it is the same for
each of the 26 capitals and its small letter (`apply_toLower`).  Each class of
characters on which the library bases a decision is kept for that reason.
-/

namespace ReleaseCatalog

open Unicode (isBlank isDecimal isPunctuation isWordChar foldChar decimalValue)

/-- The ASCII capitals. -/
def capitals : List Char := (List.range 26).map fun k => Char.ofNat (0x41 + k)

theorem toLower_eq_self {c : Char} (h : c ∉ capitals) : c.toLower = c := by
  unfold Char.toLower
  refine dif_neg fun upper => h ?_
  have lo : 0x41 ≤ c.toNat := UInt32.le_iff_toNat_le.mp upper.1
  have hi : c.toNat ≤ 0x5A := UInt32.le_iff_toNat_le.mp upper.2
  refine List.mem_map.mpr ⟨c.toNat - 0x41, List.mem_range.mpr (by omega), ?_⟩
  rw [Nat.add_sub_cancel' lo, Char.ofNat_toNat]

/-- What is the same for each capital and its small letter is the same for all characters. -/
theorem apply_toLower {β : Type} {g : Char → β} (h : ∀ c ∈ capitals, g c.toLower = g c) (c : Char) :
    g c.toLower = g c := by
  by_cases capital : c ∈ capitals
  · exact h c capital
  · rw [toLower_eq_self capital]

/-- A character that is no letter keeps its name, and no letter gets it. -/
theorem fixes_toLower {d : Char} (h : d.isAlpha = false) : Fixes Char.toLower d := by
  have letters : ∀ c ∈ capitals, c.isAlpha = true ∧ c.toLower.isAlpha = true := by decide
  intro c
  by_cases capital : c ∈ capitals
  · obtain ⟨upper, lower⟩ := letters c capital
    constructor
    · rintro rfl
      rw [h] at lower
      cases lower
    · rintro rfl
      rw [h] at upper
      cases upper
  · rw [toLower_eq_self capital]

theorem toLower_space : ' '.toLower = ' ' := rfl

/-! ## Classes -/

theorem keeps_toLower {p : Char → Bool} (h : ∀ c ∈ capitals, p c.toLower = p c) :
    Keeps Char.toLower p := apply_toLower h

theorem keeps_isBlank : Keeps Char.toLower isBlank := keeps_toLower (by decide)

theorem keeps_isDecimal : Keeps Char.toLower isDecimal := keeps_toLower (by decide)

theorem keeps_isPunctuation : Keeps Char.toLower isPunctuation := keeps_toLower (by decide)

theorem keeps_isWordChar : Keeps Char.toLower isWordChar := keeps_toLower (by decide)

theorem keeps_isSeparator : Keeps Char.toLower isSeparator := keeps_toLower (by decide)

theorem keeps_isAlphanum : Keeps Char.toLower Char.isAlphanum := keeps_toLower (by decide)

theorem keeps_isStray : Keeps Char.toLower Release.isStray := keeps_toLower (by decide)

theorem keeps_isTitleEdge : Keeps Char.toLower Release.isTitleEdge := keeps_toLower (by decide)

/-! ## What characters stand for -/

theorem decimalValue_toLower (c : Char) : decimalValue c.toLower = decimalValue c :=
  apply_toLower (by decide) c

theorem caselessLetter_toLower (c : Char) : caselessLetter c.toLower = caselessLetter c :=
  apply_toLower (by decide) c

theorem smallLetter_toLower (c : Char) : Release.smallLetter c.toLower = Release.smallLetter c :=
  apply_toLower (by decide) c

theorem foldChar_toLower (c : Char) : foldChar c.toLower = foldChar c :=
  apply_toLower (by decide) c

end ReleaseCatalog
