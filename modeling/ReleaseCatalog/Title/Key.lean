import ReleaseCatalog.Text.Basic
import ReleaseCatalog.Unicode.CaseFold
import ReleaseCatalog.Unicode.Punctuation

/-!
# Matching keys

Two titles name the same thing if they have the same *key*.  The key of a
title forgets letter case, blanks, punctuation and control characters, and
reads an ampersand as the word "and".  Symbols stay, and so do combining marks
and emoji: the key is not a Unicode normal form.
-/

namespace ReleaseCatalog.Title

/-- A text with the word "and", set off by spaces, for each ampersand. -/
def spellAmpersands (t : Text) : Text :=
  t.flatMap fun c => if c = '&' then " and ".toList else [c]

/-- Whether a key leaves a character out. -/
def isSilent (c : Char) : Bool :=
  Unicode.isBlank c || Unicode.isPunctuation c || Unicode.isControl c

/-- The matching key of a title. -/
def key (title : Text) : Text :=
  (Unicode.foldCase (spellAmpersands title)).filter fun c => !isSilent c

/-- Keys are taken character by character. -/
@[simp] theorem key_append (s t : Text) : key (s ++ t) = key s ++ key t := by
  simp [key, spellAmpersands]

/-! ## Tests -/

example : key "Milk & Chocolate Before Bed".toList = "milkandchocolatebeforebed".toList := by
  decide +kernel

end ReleaseCatalog.Title
