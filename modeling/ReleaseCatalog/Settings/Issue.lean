import ReleaseCatalog.Text.Basic

/-!
# What is wrong with settings

A value that is not accepted is an *issue*: where it is, and the cause.  The
issues of all fields are collected, so that they can be mended at once.  Some
faults stop everything: aliases that are not JSON, and a path that is no text or
begins with an unknown home directory.
-/

namespace ReleaseCatalog.Settings

/-- Why a value is not accepted. -/
inductive Cause where
  /-- A text that is no integer. -/
  | integerText
  /-- A value that can be no integer. -/
  | integerKind
  /-- A number with a fraction. -/
  | integerFraction
  /-- An integer of too many digits. -/
  | integerSize
  /-- An infinite number or none at all. -/
  | notFinite
  /-- An integer below the least that is accepted. -/
  | tooSmall (least : Int)
  /-- An integer above the greatest that is accepted. -/
  | tooGreat (greatest : Int)
  /-- A text or number that is no truth value. -/
  | truthText
  /-- A value that can be no truth value. -/
  | truthKind
  /-- A policy that does not exist. -/
  | unknownPolicy
  /-- A value that is no dictionary. -/
  | notDictionary
  /-- A value that is no text. -/
  | notText
  /-- A text with half of a surrogate pair in it. -/
  | brokenText
  /-- A setting that does not exist. -/
  | unknownSetting
  /-- A range of years without any year. -/
  | emptyRange (first last : Int)
deriving DecidableEq, Repr

namespace Cause

/-- The short name of a cause. -/
def code : Cause → Text
  | integerText => "int_parsing".toList
  | integerKind => "int_type".toList
  | integerFraction => "int_from_float".toList
  | integerSize => "int_parsing_size".toList
  | notFinite => "finite_number".toList
  | tooSmall _ => "greater_than_equal".toList
  | tooGreat _ => "less_than_equal".toList
  | truthText => "bool_parsing".toList
  | truthKind => "bool_type".toList
  | unknownPolicy => "enum".toList
  | notDictionary => "dict_type".toList
  | notText => "string_type".toList
  | brokenText => "string_unicode".toList
  | unknownSetting => "extra_forbidden".toList
  | emptyRange _ _ => "value_error".toList

/-- The wording of a cause. -/
def message : Cause → Text
  | integerText =>
      "Input should be a valid integer, unable to parse string as an integer".toList
  | integerKind => "Input should be a valid integer".toList
  | integerFraction =>
      "Input should be a valid integer, got a number with a fractional part".toList
  | integerSize => "Unable to parse input string as an integer, exceeded maximum size".toList
  | notFinite => "Input should be a finite number".toList
  | tooSmall least => "Input should be greater than or equal to ".toList ++ Text.ofInt least
  | tooGreat greatest => "Input should be less than or equal to ".toList ++ Text.ofInt greatest
  | truthText => "Input should be a valid boolean, unable to interpret input".toList
  | truthKind => "Input should be a valid boolean".toList
  | unknownPolicy =>
      "Input should be 'fewest_performers', 'lowest_id' or 'title_overlap'".toList
  | notDictionary => "Input should be a valid dictionary".toList
  | notText => "Input should be a valid string".toList
  | brokenText =>
      "Input should be a valid string, unable to parse raw data as a unicode string".toList
  | unknownSetting => "Extra inputs are not permitted".toList
  | emptyRange first last =>
      "Value error, min_year (".toList ++ Text.ofInt first ++
        ") doit être inférieur ou égal à max_year (".toList ++ Text.ofInt last ++ [')']

end Cause

/-- A value that is not accepted. -/
structure Issue where
  /-- The names that lead to the value. -/
  location : List Text
  cause : Cause
deriving DecidableEq, Repr

/-- What makes a path unusable. -/
inductive PathFault where
  /-- A value that is no text, given by the name of its kind. -/
  | notText (kind : Text)
  /-- A home directory that is not known. -/
  | unknownHome
deriving DecidableEq, Repr

/-- The wording of a fault of a path. -/
def PathFault.message : PathFault → Text
  | notText kind => "expected str, bytes or os.PathLike object, not ".toList ++ kind
  | unknownHome => "Could not determine home directory.".toList

/-- Why settings are refused. -/
inductive Refusal where
  /-- The aliases of the environment are not JSON. -/
  | unreadableAliases
  /-- The path of the journal is unusable. -/
  | path (fault : PathFault)
  /-- Some values are not accepted. -/
  | invalid (issues : List Issue)
deriving DecidableEq, Repr

/-- The wording of a refusal whose issues are told one by one, if there are any. -/
def Refusal.message : Refusal → Text
  | unreadableAliases =>
      "error parsing value for field \x22studio_aliases\x22 from source \x22EnvSettingsSource\x22".toList
  | path fault => fault.message
  | invalid issues => Text.join ['\n'] (issues.map fun issue => issue.cause.message)

/-! ## Collecting issues -/

/-- A value, or the issues that prevent it. -/
inductive Checked (α : Type) where
  | valid (a : α)
  | issues (found : List Issue)

namespace Checked

variable {α β : Type}

/-- Applies a checked function to a checked value, with the issues of both. -/
protected def seq (f : Checked (α → β)) (x : Checked α) : Checked β :=
  match f, x with
  | valid f, valid a => valid (f a)
  | valid _, issues found => issues found
  | issues found, valid _ => issues found
  | issues found, issues more => issues (found ++ more)

/-- Changes the value. -/
protected def map (f : α → β) : Checked α → Checked β
  | valid a => valid (f a)
  | issues found => issues found

instance : Functor Checked where
  map := Checked.map

instance : Applicative Checked where
  pure := valid
  seq f x := Checked.seq f (x ())

/-- One issue. -/
def fail (location : List Text) (cause : Cause) : Checked α := issues [⟨location, cause⟩]

/-- The value of a check that can fail for one cause, at its location. -/
def atLocation (location : List Text) : Except Cause α → Checked α
  | .ok a => valid a
  | .error cause => fail location cause

end Checked

end ReleaseCatalog.Settings
