import ReleaseCatalog.Json.Basic
import ReleaseCatalog.Matching.SceneRank
import ReleaseCatalog.Settings.IntegerText
import ReleaseCatalog.Settings.PosixPath

/-!
# Reading single settings

Settings come as JSON values, and those of the environment as texts, so a text
is read as an integer or a truth value if it looks like one.
-/

namespace ReleaseCatalog.Settings

/-! ## Numbers with a fraction or an exponent -/

/-- The greatest power of ten that a number in double precision reaches. -/
def maxPower : Int := 400

/-- A number in double precision, or nothing if it is beyond all of them. -/
def doubleOf (mantissa exponent : Int) : Option Float :=
  let size := exponent + (Text.ofNat mantissa.natAbs).length
  if mantissa = 0 ∨ size < -maxPower then some 0.0
  else if maxPower < size then none
  else
    let value := Float.ofScientific mantissa.natAbs (exponent < 0) exponent.natAbs
    if value.isInf then none else some (if mantissa < 0 then -value else value)

/-- The integer that a decimal number is in double precision. -/
def integerOfDecimal (mantissa exponent : Int) : Except Cause Int :=
  match doubleOf mantissa exponent with
  | none => .error .notFinite
  | some value =>
      if value.floor != value then .error .integerFraction
      else if -9223372036854775808.0 < value ∧ value < 9223372036854775808.0 then
        .ok value.toInt64.toInt
      else .error .integerSize

/-! ## The kinds of settings -/

/-- The integer of a value. -/
def readInteger : Json → Except Cause Int
  | .integer n => .ok n
  | .truth b => .ok (if b then 1 else 0)
  | .string t => integerOfText t
  | .decimal mantissa exponent => integerOfDecimal mantissa exponent
  | .nonFinite => .error .notFinite
  | _ => .error .integerKind

/-- The first and the last year that may bound a range of years. -/
def yearLimits : Int × Int := (1000, 9999)

/-- The year of a value. -/
def readYear (value : Json) : Except Cause Int := do
  let year ← readInteger value
  if year < yearLimits.1 then .error (.tooSmall yearLimits.1)
  else if yearLimits.2 < year then .error (.tooGreat yearLimits.2)
  else .ok year

/-- The texts that mean yes. -/
def yesTexts : List Text := ["1", "t", "y", "on", "yes", "true"].map String.toList

/-- The texts that mean no. -/
def noTexts : List Text := ["0", "f", "n", "no", "off", "false"].map String.toList

/-- The truth value of a text, its letter case ignored. -/
def truthOfText (t : Text) : Except Cause Bool :=
  let small := t.map Char.toLower
  if yesTexts.contains small then .ok true
  else if noTexts.contains small then .ok false
  else .error .truthText

/-- The truth value of an integer. -/
def truthOfInteger (n : Int) : Except Cause Bool :=
  if n = 0 then .ok false else if n = 1 then .ok true else .error .truthText

/-- The least and the greatest integer of 64 bits. -/
def wordLimits : Int × Int := (-9223372036854775808, 9223372036854775807)

/-- The truth value of a value.  Numbers count if they have 64 bits and no fraction. -/
def readTruth : Json → Except Cause Bool
  | .truth b => .ok b
  | .string t => truthOfText t
  | .integer n =>
      if wordLimits.1 ≤ n ∧ n ≤ wordLimits.2 then truthOfInteger n else .error .truthKind
  | .decimal mantissa exponent =>
      match integerOfDecimal mantissa exponent with
      | .ok n => truthOfInteger n
      | .error _ => .error .truthKind
  | _ => .error .truthKind

/-- The text of a value. -/
def readText : Json → Except Cause Text
  | .string t => .ok t
  | .brokenString => .error .brokenText
  | _ => .error .notText

/-- The policy that a value names. -/
def readPolicy : Json → Except Cause Matching.TieBreak
  | .string t =>
      match Matching.TieBreak.ofName? t with
      | some policy => .ok policy
      | none => .error .unknownPolicy
  | _ => .error .unknownPolicy

/-- The name of the kind of a value, as paths are refused with it. -/
def kindName : Json → Text
  | .null => "NoneType".toList
  | .truth _ => "bool".toList
  | .integer _ => "int".toList
  | .decimal _ _ => "float".toList
  | .nonFinite => "float".toList
  | .string _ => "str".toList
  | .brokenString => "str".toList
  | .array _ => "list".toList
  | .object _ => "dict".toList

/-- The path of a value. -/
def readPath (home : Option Text) : Json → Except PathFault PosixPath
  | .string t =>
      match (PosixPath.ofText t).expandHome? home with
      | some p => .ok p
      | none => .error .unknownHome
  | value => .error (.notText (kindName value))

end ReleaseCatalog.Settings
