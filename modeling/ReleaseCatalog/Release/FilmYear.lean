import ReleaseCatalog.Calendar.Day
import ReleaseCatalog.Release.TitleText

/-!
# Films: a title and a year

A film is named by its title and its year.  A year in parentheses or square
brackets is preferred.  Else a year that stands alone will do, that is four
digits with no ASCII letter or digit beside them.  Of several candidates the
last one with a title before it wins.  After a year in brackets the title may
also follow, if nothing precedes it.  Nothing of this looks into the technical
tail of the name.
-/

namespace ReleaseCatalog.Release

open Calendar (YearRange)

/-- Finds four decimal digits in parentheses or square brackets, blanks around them allowed. -/
def bracketedYear : Finder Nat := fun _ t =>
  match t with
  | [] => none
  | opening :: inside =>
      let digits := inside.dropWhile Unicode.isBlank
      let rest := (digits.drop 4).dropWhile Unicode.isBlank
      if (opening = '(' ∨ opening = '[') ∧ (digits.take 4).length = 4 ∧
          (digits.take 4).all Unicode.isDecimal ∧
          (rest.head? = some ')' ∨ rest.head? = some ']') then
        some (Unicode.numeral (digits.take 4), t.length - rest.length + 1)
      else none

/-- Whether a character, if there is one, is an ASCII letter or digit. -/
def isAsciiAlphanumeric (c : Option Char) : Bool := c.any Char.isAlphanum

/-- Finds four decimal digits with no ASCII letter or digit beside them. -/
def standaloneYear : Finder Nat := fun previous t =>
  if !isAsciiAlphanumeric previous ∧ (t.take 4).length = 4 ∧ (t.take 4).all Unicode.isDecimal ∧
      !isAsciiAlphanumeric (t.drop 4).head? then
    some (Unicode.numeral (t.take 4), 4)
  else none

/-- The title that a year in brackets dates: before it, or else after it. -/
def titleAround (o : Occurrence Nat) : Text :=
  let title := titleText o.before
  if title = [] then titleText o.after else title

/-- The last year of the range with a title that is not empty. -/
def lastDated (range : YearRange) (titleOf : Occurrence Nat → Text)
    (years : List (Occurrence Nat)) : Option (Text × Int) :=
  years.reverse.findSome? fun o =>
    if range.Contains o.value ∧ titleOf o ≠ [] then some (titleOf o, (o.value : Int)) else none

/-- The title and year of a film. -/
def film? (range : YearRange) (name : Text) : Option (Text × Int) :=
  let head := beforeTail name
  (lastDated range titleAround (bracketedYear.occurrences head)).or
    (lastDated range (fun o => titleText o.before) (standaloneYear.occurrences head))

/-! ## Tests -/

example : film? {} "Blade.Runner.2049.2017.1080p".toList
    = some ("Blade Runner 2049".toList, 2017) := by decide +kernel
example : film? {} "[2010] Movie".toList = some ("Movie".toList, 2010) := by decide +kernel

end ReleaseCatalog.Release
