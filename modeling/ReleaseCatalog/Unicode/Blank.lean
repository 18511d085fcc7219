import ReleaseCatalog.Unicode.Ranges

/-!
# Blank and control characters

A character is *blank* if it is a space separator of Unicode 14 or one of the
control characters that move the writing position or separate records.  The
zero width space and the byte order mark are not blank.
-/

namespace ReleaseCatalog.Unicode

/-- The ranges of blank characters. -/
def blankTable : CodeTable :=
  [(0x9, 0xD), (0x1C, 0x20), (0x85, 0x85), (0xA0, 0xA0), (0x1680, 0x1680), (0x2000, 0x200A),
   (0x2028, 0x2029), (0x202F, 0x202F), (0x205F, 0x205F), (0x3000, 0x3000)]

/-- Whether a character is blank. -/
def isBlank (c : Char) : Bool := blankTable.covers c.toNat

/-- Whether a character is a control character (general category Cc). -/
def isControl (c : Char) : Bool := CodeTable.covers [(0x0, 0x1F), (0x7F, 0x9F)] c.toNat

/-! ## Tests -/

example : isBlank ' ' = true ∧ isBlank (Char.ofNat 0x200B) = false := by decide

end ReleaseCatalog.Unicode
