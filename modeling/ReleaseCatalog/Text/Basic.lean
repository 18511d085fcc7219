import ReleaseCatalog.Unicode.Blank

/-!
# Texts

A text is a list of characters.  Names of releases are cut, scanned and
compared character by character, and positions in them count characters, so
the list is the form in which every rule of the library is stated.

This module has the trimming of both ends, the joining with single spaces and
the decimal writing of numbers.
-/

namespace ReleaseCatalog

/-- A text, as its characters. -/
abbrev Text := List Char

namespace Text

/-! ## Trimming -/

/-- Drops the characters that satisfy `p` from both ends of a text. -/
def trim (p : Char → Bool) (t : Text) : Text := ((t.dropWhile p).reverse.dropWhile p).reverse

/-- Drops the blank characters from both ends of a text. -/
def trimBlank (t : Text) : Text := trim Unicode.isBlank t

/-! ## Joining -/

/-- The texts one after the other, a separator between each two. -/
def join (separator : Text) (parts : List Text) : Text := separator.intercalate parts

/-- The words of a line: the texts with single spaces between them. -/
def unwords (parts : List Text) : Text := join [' '] parts

/-- Whether a text ends in another. -/
def endsWith (t ending : Text) : Bool := ending.isSuffixOf t

/-! ## Numbers -/

/-- A natural number in decimal digits. -/
def ofNat (n : Nat) : Text := Nat.toDigits 10 n

/-- An integer in decimal digits, with a minus sign before a negative one. -/
def ofInt : Int → Text
  | .ofNat n => ofNat n
  | .negSucc n => '-' :: ofNat (n + 1)

/-- An integer filled up with zeros to a width that counts the sign. -/
def ofIntPadded (width : Nat) (n : Int) : Text :=
  let digits := ofNat n.natAbs
  if n < 0 then '-' :: List.replicate (width - 1 - digits.length) '0' ++ digits
  else List.replicate (width - digits.length) '0' ++ digits

end Text

end ReleaseCatalog
