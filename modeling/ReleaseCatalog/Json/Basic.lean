import ReleaseCatalog.Text.Basic

/-!
# JSON values

Settings may be given as JSON.  Integers are kept exactly, up to a number of
digits, and apart from other numbers, which are kept as they are written, in
decimal.  The members of an
object keep their order.  A name that is repeated keeps its first place and
takes its last value.
-/

namespace ReleaseCatalog

/-- A JSON value. -/
inductive Json where
  | null
  | truth (b : Bool)
  /-- A number without fraction and exponent. -/
  | integer (n : Int)
  /-- A number with a fraction or an exponent: `mantissa` times ten to the `exponent`. -/
  | decimal (mantissa exponent : Int)
  /-- An infinite number or none at all. -/
  | nonFinite
  | string (t : Text)
  /-- A string that is no text, since half of a surrogate pair stands in it. -/
  | brokenString
  | array (items : List Json)
  | object (members : List (Text × Json))

namespace Json

/-- The number of digits that an integer has at most. -/
def maxIntegerDigits : Nat := 4300

variable {α : Type}

/-- Members with one more.  A name that is there already keeps its place. -/
def putMember (members : List (Text × α)) (name : Text) (value : α) : List (Text × α) :=
  if members.any fun m => m.1 = name then
    members.map fun m => if m.1 = name then (name, value) else m
  else members ++ [(name, value)]

/-- Members in which no name is repeated. -/
def distinctMembers (members : List (Text × α)) : List (Text × α) :=
  members.foldl (fun kept m => putMember kept m.1 m.2) []

/-- The value of a name. -/
def findMember (members : List (Text × α)) (name : Text) : Option α :=
  (members.find? fun m => m.1 = name).map Prod.snd

/-! ## Tests -/

example : distinctMembers [(['b'], 1), (['a'], 2), (['b'], 3)] = [(['b'], 3), (['a'], 2)] := by
  decide

end Json

end ReleaseCatalog
