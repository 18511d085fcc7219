import ReleaseCatalog.Json.Basic
import ReleaseCatalog.Settings.Issue
import ReleaseCatalog.Unicode.Decimal

/-!
# Integers written as text

An integer has one *canonical* text: its digits without a needless zero in
front, behind a minus sign if it is negative.  The length is bounded by
`Json.maxIntegerDigits`.

Other texts are *tidied* to a canonical one.  Space around the number and a
plus sign are left out, and so are zeros and low lines in front, single low
lines between digits, and a point with nothing but zeros behind it.  The zeros
are those behind the sign, and a minus sign may also follow them, so that `-01`
and `0-1` are both minus one.

A text is too long if it begins with too many digits as it stands, whatever
follows them.  A text that has too many only once it is tidied is no integer at
all.
-/

namespace ReleaseCatalog.Settings

/-! ## Canonical texts -/

/-- Whether a character is an ASCII digit other than zero. -/
def isPositiveDigit (c : Char) : Bool := c.isDigit && c != '0'

/-- Whether a text is digits without a needless zero in front. -/
def isCanonicalNatural (digits : Text) : Bool :=
  digits = ['0'] || (digits.head?.any isPositiveDigit && digits.all Char.isDigit)

/-- The number of a canonical text that is not too long. -/
def naturalOfCanonical? (digits : Text) : Option Nat :=
  if isCanonicalNatural digits ∧ digits.length ≤ Json.maxIntegerDigits then
    some (Unicode.numeral digits)
  else none

/-- The integer of a canonical text that is not too long. -/
def integerOfCanonical? : Text → Option Int
  | '-' :: digits => (naturalOfCanonical? digits).map fun n => -(n : Int)
  | digits => (naturalOfCanonical? digits).map Int.ofNat

/-! ## Tidying -/

/-- Whether a character is white space around a number. -/
def isNumberSpace (c : Char) : Bool :=
  Unicode.isBlank c && !(0x1C ≤ c.toNat && c.toNat ≤ 0x1F)

/-- The sign of a number, with none for a plus sign, and what follows it. -/
def splitSign : Text → Text × Text
  | '+' :: number => ([], number)
  | '-' :: number => (['-'], number)
  | number => ([], number)

/-- What remains of a number behind the zeros and low lines in front of it, of which `last`
is the nearest.  That one is kept before a point and at the end. -/
def afterZeros (last : Char) : Text → Option Text
  | [] => some [last]
  | c :: rest =>
      if c = '0' ∨ c = '_' then afterZeros c rest
      else if isPositiveDigit c ∨ c = '-' then some (c :: rest)
      else if c = '.' then some (last :: c :: rest)
      else none
termination_by structural t => t

/-- A number that begins with a digit, without needless zeros in front. -/
def dropLeadingZeros : Text → Option Text
  | [] => none
  | c :: rest =>
      if c = '0' then afterZeros c rest
      else if isPositiveDigit c then some (c :: rest)
      else none

/-- A number without a point that only zeros follow. -/
def dropZeroFraction (t : Text) : Text :=
  let whole := t.takeWhile (· ≠ '.')
  let zeros := (t.drop whole.length).drop 1
  if zeros ≠ [] ∧ zeros.all (· = '0') then whole else t

/-- A number without low lines, if each stands alone and not at an end. -/
def dropLowLines (t : Text) : Text :=
  let pieces := t.splitOnP (· = '_')
  if pieces.any (· = []) then t else pieces.flatten

/-- The text that a text is tidied to, canonical if it writes an integer. -/
def tidied? (t : Text) : Option Text := do
  let (sign, number) := splitSign (Text.trim isNumberSpace t)
  return sign ++ dropLowLines (dropZeroFraction (← dropLeadingZeros number))

/-! ## Reading -/

/-- Whether a text begins with more digits than an integer has, perhaps behind a minus sign. -/
def beginsTooLong (t : Text) : Bool :=
  let digits := (if t.head? = some '-' then t.drop 1 else t).takeWhile Char.isDigit
  digits.head?.any isPositiveDigit && Json.maxIntegerDigits < digits.length

/-- The integer that a text writes. -/
def integerOfText (t : Text) : Except Cause Int :=
  if beginsTooLong t then .error .integerSize
  else match (tidied? t).bind integerOfCanonical? with
    | some n => .ok n
    | none => .error .integerText

/-! ## Tests -/

example : (integerOfText " 0_1950.00 ".toList).toOption = some 1950 := by decide +kernel
example : (integerOfText "1__9".toList).toOption = none := by decide +kernel
example : (integerOfText "-0__5".toList).toOption = some (-5) := by decide +kernel
example : (integerOfText "0-1".toList).toOption = some (-1) := by decide +kernel
example : (integerOfText "-_2.0".toList).toOption = none := by decide +kernel

end ReleaseCatalog.Settings
