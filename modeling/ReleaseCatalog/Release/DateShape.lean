import ReleaseCatalog.Calendar.Day
import ReleaseCatalog.Text.Segments

/-!
# Shapes of dates

Release names write dates in four shapes.  The year comes first, in four
digits or two, or the day comes first, or the eight digits stand together.
Where a shape has separators, the same one stands twice.  A date is not part
of a longer number: no decimal digit stands just before or just after it.

A *style* is a shape with the number that is added to the year it reads,
which is 2000 for the years of two digits.
-/

namespace ReleaseCatalog.Release

/-- The shapes in which dates are written. -/
inductive DateShape where
  /-- Year of four digits, month, day. -/
  | iso
  /-- Day, month, year of four digits. -/
  | dayFirst
  /-- Year of four digits that begins with 19 or 20, month and day, without separators. -/
  | compact
  /-- Year of two digits, month, day. -/
  | short
deriving DecidableEq, Repr

/-- The numbers of a date as they are written, before any check. -/
structure DateFields where
  /-- The year as it is written. -/
  year : Nat
  month : Nat
  day : Nat
deriving DecidableEq, Repr

/-- The number in the first `width` characters of a text, if all are decimal digits, and the
rest. -/
def readNumber (width : Nat) (t : Text) : Option (Nat × Text) :=
  let digits := t.take width
  if digits.length = width ∧ digits.all Unicode.isDecimal then
    some (Unicode.numeral digits, t.drop width)
  else none

/-- The first character of a text, if it is one of `choices`, and the rest. -/
def readOneOf (choices : List Char) : Text → Option (Char × Text)
  | [] => none
  | c :: rest => if c ∈ choices then some (c, rest) else none

/-- Three numbers of the given widths with the same separator between them, and the rest. -/
def readSeparated (separators : List Char) (width1 width2 width3 : Nat) (t : Text) :
    Option ((Nat × Nat × Nat) × Text) := do
  let (a, t) ← readNumber width1 t
  let (separator, t) ← readOneOf separators t
  let (b, t) ← readNumber width2 t
  let (_, t) ← readOneOf [separator] t
  let (c, t) ← readNumber width3 t
  return ((a, b, c), t)

/-- Whether a text begins with the century 19 or 20 in ASCII digits. -/
def startsWithCentury (t : Text) : Bool := t.take 2 = ['1', '9'] || t.take 2 = ['2', '0']

namespace DateShape

/-- Reads a date of the shape at the front of a text, whatever follows it. -/
def read : DateShape → Text → Option (DateFields × Text)
  | iso, t => do
      let ((year, month, day), rest) ← readSeparated ['-', '.', '_', ' '] 4 2 2 t
      return (⟨year, month, day⟩, rest)
  | dayFirst, t => do
      let ((day, month, year), rest) ← readSeparated ['-', '.', '/', ' '] 2 2 4 t
      return (⟨year, month, day⟩, rest)
  | compact, t => do
      guard (startsWithCentury t)
      let (year, t) ← readNumber 4 t
      let (month, t) ← readNumber 2 t
      let (day, rest) ← readNumber 2 t
      return (⟨year, month, day⟩, rest)
  | short, t => do
      let ((year, month, day), rest) ← readSeparated ['-', '.', '_', ' '] 2 2 2 t
      return (⟨year, month, day⟩, rest)

/-- Finds a date of the shape that is not part of a longer number. -/
def finder (shape : DateShape) : Finder DateFields := fun previous t =>
  if previous.any Unicode.isDecimal then none
  else match shape.read t with
    | some (fields, rest) =>
        if rest.head?.any Unicode.isDecimal then none else some (fields, t.length - rest.length)
    | none => none

end DateShape

/-- A shape of dates and what is added to the years it reads. -/
structure DateStyle where
  shape : DateShape
  /-- The number that is added to the year. -/
  century : Int
deriving DecidableEq, Repr

/-- Each shape with its own century. -/
def DateShape.style : DateShape → DateStyle
  | .short => ⟨.short, 2000⟩
  | shape => ⟨shape, 0⟩

/-- The four styles, the ones tried first in front. -/
def defaultStyles : List DateStyle :=
  [DateShape.iso, .dayFirst, .compact, .short].map DateShape.style

end ReleaseCatalog.Release
