import ReleaseCatalog.Json.Basic

/-!
# Reading JSON

A text is read as one JSON value with nothing but white space around it.
Besides the standard, the words `NaN`, `Infinity` and `-Infinity` are numbers.
Control characters must be escaped in strings.  Two escapes that make up a
surrogate pair are one character.  An unpaired one makes a value
`Json.brokenString`, and is the replacement character in a name.  An integer of
more than `Json.maxIntegerDigits` digits is not read.

Nesting is bounded by the length of the text, from which the fuel is taken.
-/

namespace ReleaseCatalog.Json

/-- Whether a character is white space of JSON. -/
def isSpace (c : Char) : Bool := c == ' ' || c == '\t' || c == '\n' || c == '\r'

/-- A text without the white space at its front. -/
def skipSpace (t : Text) : Text := t.dropWhile isSpace

/-- What follows a word at the front of a text. -/
def afterWord? (w : String) (t : Text) : Option Text :=
  if w.toList.isPrefixOf t then some (t.drop w.toList.length) else none

/-! ## Strings -/

/-- The value of a hexadecimal digit. -/
def hexValue? (c : Char) : Option Nat :=
  if c.isDigit then some (c.toNat - '0'.toNat)
  else if 'a' ≤ c ∧ c ≤ 'f' then some (c.toNat - 'a'.toNat + 10)
  else if 'A' ≤ c ∧ c ≤ 'F' then some (c.toNat - 'A'.toNat + 10)
  else none

/-- The number of four hexadecimal digits. -/
def hexNumber? (a b c d : Char) : Option Nat := do
  return 0x1000 * (← hexValue? a) + 0x100 * (← hexValue? b) + 0x10 * (← hexValue? c) +
    (← hexValue? d)

/-- The character of a letter behind a backslash. -/
def escaped? (c : Char) : Option Char :=
  [('\x22', '\x22'), ('\\', '\\'), ('/', '/'), ('b', '\x08'), ('f', '\x0c'), ('n', '\n'),
   ('r', '\r'), ('t', '\t')].lookup c

/-- The code units of a string up to its closing quote, and the rest. -/
def readUnits : Text → Option (List Nat × Text)
  | [] => none
  | '\x22' :: rest => some ([], rest)
  | '\\' :: 'u' :: a :: b :: c :: d :: rest => do
      let unit ← hexNumber? a b c d
      let (units, rest) ← readUnits rest
      return (unit :: units, rest)
  | '\\' :: c :: rest => do
      let character ← escaped? c
      let (units, rest) ← readUnits rest
      return (character.toNat :: units, rest)
  | c :: rest => do
      guard (0x20 ≤ c.toNat)
      let (units, rest) ← readUnits rest
      return (c.toNat :: units, rest)
termination_by structural t => t

/-- Whether a code unit is the first of a surrogate pair. -/
def isHighSurrogate (unit : Nat) : Bool := 0xD800 ≤ unit && unit < 0xDC00

/-- Whether a code unit is the second of a surrogate pair. -/
def isLowSurrogate (unit : Nat) : Bool := 0xDC00 ≤ unit && unit < 0xE000

/-- The character of a code unit, and the replacement character for a lone surrogate. -/
def unitChar (unit : Nat) : Char :=
  if isHighSurrogate unit || isLowSurrogate unit then '\uFFFD' else Char.ofNat unit

/-- Whether half of a surrogate pair stands among code units. -/
def hasLoneSurrogate : List Nat → Bool
  | [] => false
  | [unit] => isHighSurrogate unit || isLowSurrogate unit
  | high :: low :: rest =>
      if isHighSurrogate high && isLowSurrogate low then hasLoneSurrogate rest
      else isHighSurrogate high || isLowSurrogate high || hasLoneSurrogate (low :: rest)
termination_by units => units.length

/-- The text of code units. -/
def joinUnits : List Nat → Text
  | [] => []
  | [unit] => [unitChar unit]
  | high :: low :: rest =>
      if isHighSurrogate high && isLowSurrogate low then
        Char.ofNat (0x10000 + 0x400 * (high - 0xD800) + (low - 0xDC00)) :: joinUnits rest
      else unitChar high :: joinUnits (low :: rest)
termination_by units => units.length

/-- A name behind its opening quote, and the rest. -/
def readName (t : Text) : Option (Text × Text) := do
  let (units, rest) ← readUnits t
  return (joinUnits units, rest)

/-- A string behind its opening quote, and the rest. -/
def readString (t : Text) : Option (Json × Text) := do
  let (units, rest) ← readUnits t
  return (if hasLoneSurrogate units then .brokenString else .string (joinUnits units), rest)

/-! ## Numbers -/

/-- The digits at the front of a text, at least one, and the rest. -/
def readDigits (t : Text) : Option (Text × Text) :=
  let digits := t.takeWhile Char.isDigit
  if digits = [] then none else some (digits, t.drop digits.length)

/-- The number that digits spell. -/
def digitsValue (digits : Text) : Nat :=
  digits.foldl (fun n c => 10 * n + (c.toNat - '0'.toNat)) 0

/-- The digits behind a point, if there are a point and digits. -/
def readFraction : Text → Option (Text × Text)
  | '.' :: rest => readDigits rest
  | _ => none

/-- The power of ten behind an exponent mark, if there is one. -/
def readExponent : Text → Option (Int × Text)
  | mark :: rest =>
      if mark = 'e' ∨ mark = 'E' then
        match rest with
        | '-' :: rest => (readDigits rest).map fun (digits, rest) =>
            (-(digitsValue digits : Int), rest)
        | '+' :: rest => (readDigits rest).map fun (digits, rest) =>
            ((digitsValue digits : Int), rest)
        | rest => (readDigits rest).map fun (digits, rest) => ((digitsValue digits : Int), rest)
      else none
  | [] => none

/-- The whole part of a number: a lone zero, or digits that do not begin with one. -/
def readWhole : Text → Option (Text × Text)
  | '0' :: rest => some (['0'], rest)
  | t => readDigits t

/-- A number without a sign, given the sign, and the rest. -/
def readUnsigned (negative : Bool) (t : Text) : Option (Json × Text) := do
  let (whole, t) ← readWhole t
  let sign : Int := if negative then -1 else 1
  let (fraction, t1) := (readFraction t).getD ([], t)
  let (power, t2) := (readExponent t1).getD (0, t1)
  if fraction = [] ∧ (readExponent t1).isNone then
    guard (whole.length ≤ maxIntegerDigits)
    return (.integer (sign * digitsValue whole), t)
  return (.decimal (sign * digitsValue (whole ++ fraction)) (power - fraction.length), t2)

/-- A number, and the rest. -/
def readNumber : Text → Option (Json × Text)
  | '-' :: rest =>
      match afterWord? "Infinity" rest with
      | some rest => some (.nonFinite, rest)
      | none => readUnsigned true rest
  | t => readUnsigned false t

/-! ## Values -/

/-- A value that is one word, and the rest. -/
def readLiteral (t : Text) : Option (Json × Text) :=
  [("null", Json.null), ("true", .truth true), ("false", .truth false), ("NaN", .nonFinite),
   ("Infinity", .nonFinite)].findSome? fun (w, value) =>
    (afterWord? w t).map fun rest => (value, rest)

mutual

/-- A value at the front of a text, and the rest. -/
def readValue : Nat → Text → Option (Json × Text)
  | 0, _ => none
  | fuel + 1, t =>
      match t with
      | '\x22' :: rest => readString rest
      | '[' :: rest =>
          match skipSpace rest with
          | ']' :: rest => some (.array [], rest)
          | rest => (readItems fuel rest).map fun (items, rest) => (.array items, rest)
      | '\x7b' :: rest =>
          match skipSpace rest with
          | '\x7d' :: rest => some (.object [], rest)
          | rest =>
              (readMembers fuel rest).map fun (members, rest) =>
                (.object (distinctMembers members), rest)
      | t => (readLiteral t).or (readNumber t)
termination_by structural fuel => fuel

/-- The items of a list up to its closing bracket, and the rest. -/
def readItems : Nat → Text → Option (List Json × Text)
  | 0, _ => none
  | fuel + 1, t => do
      let (item, rest) ← readValue fuel t
      match skipSpace rest with
      | ',' :: rest =>
          let (items, rest) ← readItems fuel (skipSpace rest)
          return (item :: items, rest)
      | ']' :: rest => return ([item], rest)
      | _ => none
termination_by structural fuel => fuel

/-- The members of an object up to its closing brace, and the rest. -/
def readMembers : Nat → Text → Option (List (Text × Json) × Text)
  | 0, _ => none
  | fuel + 1, t =>
      match t with
      | '\x22' :: rest => do
          let (name, rest) ← readName rest
          match skipSpace rest with
          | ':' :: rest =>
              let (value, rest) ← readValue fuel (skipSpace rest)
              match skipSpace rest with
              | ',' :: rest =>
                  let (members, rest) ← readMembers fuel (skipSpace rest)
                  return ((name, value) :: members, rest)
              | '\x7d' :: rest => return ([(name, value)], rest)
              | _ => none
          | _ => none
      | _ => none
termination_by structural fuel => fuel

end

/-- The value that a whole text writes. -/
def ofText? (t : Text) : Option Json :=
  match readValue (2 * t.length + 2) (skipSpace t) with
  | some (value, rest) => if skipSpace rest = [] then some value else none
  | none => none

end ReleaseCatalog.Json
