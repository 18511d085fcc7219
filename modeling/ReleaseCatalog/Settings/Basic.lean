import ReleaseCatalog.Calendar.Day
import ReleaseCatalog.Distinct
import ReleaseCatalog.Json.Reader
import ReleaseCatalog.Release.FileName
import ReleaseCatalog.Release.Parser
import ReleaseCatalog.Settings.Scalar
import ReleaseCatalog.Studio.AliasRegister

/-!
# Settings

The settings fix the years that are accepted, whether quality tags are
detected, the policy for ties, additional aliases of studios and the journal.
Each has a default.  Values are taken from variables of the environment, whose
names have a common beginning, and from values that are given directly.  The
latter win, except that aliases of both are put together.  Names are read
without regard to case, so one setting may be named several times: of variables
the last one counts, of directly given values the first.

Either there are settings, and then the range of years is not empty and has
years of four digits, or all issues are reported at once.
-/

namespace ReleaseCatalog

open Calendar (YearRange)

namespace Settings

/-- The settings of the library. -/
structure Values where
  /-- The years that are accepted. -/
  years : YearRange := {}
  /-- Whether quality tags are detected. -/
  detectsQuality : Bool := true
  tieBreak : Matching.TieBreak := .fewestPerformers
  /-- Additional aliases, in order. -/
  aliases : List AliasPair := []
  /-- The level from which the console shows the journal. -/
  journalLevel : Text := "INFO".toList
  /-- The file of the journal. -/
  journalFile : PosixPath := PosixPath.ofText "logs/reelmatch.log".toList
  /-- The size at which a new file is begun. -/
  rotationSize : Text := "10 MB".toList
  /-- The number of old files that are kept. -/
  keptFiles : Int := 5
deriving DecidableEq, Repr

/-! ## Where values come from -/

/-- Named values, each name once. -/
abbrev Given := List (Text × Json)

/-- The names of the settings in their order. -/
def names : List Text :=
  ["min_year", "max_year", "detect_quality_tags", "scene_tie_break", "studio_aliases",
   "log_level", "log_file", "log_rotation_size", "log_retention_count"].map String.toList

/-- The beginning of the names of variables. -/
def variableStem : Text := "reelmatch_".toList

/-- The name of the setting that holds aliases. -/
def aliasesName : Text := "studio_aliases".toList

/-- A name in small letters. -/
def smallName (name : Text) : Text := name.map Release.smallLetter

/-- The text of a setting in the environment: that of the last variable for it. -/
def findVariable (environment : List (Text × Text)) (name : Text) : Option Text :=
  (environment.reverse.find? fun v => smallName v.1 = variableStem ++ name).map Prod.snd

/-- The value of a setting in the environment.  Aliases are JSON, and no value if they are null. -/
def variableValue (environment : List (Text × Text)) (name : Text) :
    Except Refusal (Option Json) :=
  match findVariable environment name with
  | none => .ok none
  | some t =>
      if name = aliasesName then
        match Json.ofText? t with
        | some .null => .ok none
        | some value => .ok (some value)
        | none => .error .unreadableAliases
      else .ok (some (.string t))

/-- The values of settings in the environment. -/
def environmentValues (environment : List (Text × Text)) : List Text → Except Refusal Given
  | [] => .ok []
  | name :: rest => do
      let value ← variableValue environment name
      let others ← environmentValues environment rest
      return (value.map fun v => (name, v)).toList ++ others
termination_by structural names => names

/-- The setting that a directly given name means, or the name itself if it means none. -/
def settingNamed (name : Text) : Text :=
  if names.contains (smallName name) then smallName name else name

/-- Directly given values under the names of their settings, the first one for each setting. -/
def bySetting (direct : Given) : Given :=
  distinctBy Prod.fst (direct.map fun m => (settingNamed m.1, m.2))

/-- A directly given value put over one of the environment.  Dictionaries are united. -/
def override (below : Option Json) (above : Json) : Json :=
  match below, above with
  | some (.object members), .object more =>
      .object (more.foldl (fun kept m => Json.putMember kept m.1 m.2) members)
  | _, above => above

/-- The values of the environment with those given directly put over them. -/
def merge (environment direct : Given) : Given :=
  direct.foldl
    (fun kept m => Json.putMember kept m.1 (override (Json.findMember kept m.1) m.2)) environment

/-! ## Checking -/

/-- The setting of a name, or its default. -/
def field {α : Type} (given : Given) (name : String) (default : α)
    (read : Json → Except Cause α) : Checked α :=
  match Json.findMember given name.toList with
  | some value => Checked.atLocation [name.toList] (read value)
  | none => .valid default

/-- One alias of a dictionary. -/
def readAlias (name : Text) (value : Json) : Checked AliasPair :=
  Checked.atLocation [aliasesName, name] ((readText value).map fun t => ⟨name, t⟩)

/-- The aliases of a dictionary, in order. -/
def readAliasMembers : List (Text × Json) → Checked (List AliasPair)
  | [] => .valid []
  | (name, value) :: rest => List.cons <$> readAlias name value <*> readAliasMembers rest
termination_by structural members => members

/-- The aliases that are given. -/
def readAliases (given : Given) : Checked (List AliasPair) :=
  match Json.findMember given aliasesName with
  | none => .valid []
  | some (.object members) => readAliasMembers members
  | some _ => Checked.fail [aliasesName] .notDictionary

/-- The issues of values for which there is no setting. -/
def unknownSettings (given : Given) : Checked Unit :=
  match given.filter fun m => !names.contains m.1 with
  | [] => .valid ()
  | unknown => .issues (unknown.map fun m => ⟨[m.1], .unknownSetting⟩)

/-- The path of the journal's file. -/
def readJournalFile (home : Option Text) (given : Given) : Except Refusal PosixPath :=
  match Json.findMember given "log_file".toList with
  | none => .ok (PosixPath.ofText "logs/reelmatch.log".toList)
  | some value =>
      match readPath home value with
      | .ok p => .ok p
      | .error fault => .error (.path fault)

/-- The settings of checked fields, before the range of years is looked at. -/
def assemble (given : Given) (journalFile : PosixPath) : Checked Values :=
  (fun first last detect policy aliases level size count _ =>
    { years := ⟨first, last⟩, detectsQuality := detect, tieBreak := policy,
      aliases := aliases, journalLevel := level, journalFile, rotationSize := size,
      keptFiles := count })
    <$> field given "min_year" 1900 readYear
    <*> field given "max_year" 2099 readYear
    <*> field given "detect_quality_tags" true readTruth
    <*> field given "scene_tie_break" .fewestPerformers readPolicy
    <*> readAliases given
    <*> field given "log_level" "INFO".toList readText
    <*> field given "log_rotation_size" "10 MB".toList readText
    <*> field given "log_retention_count" 5 readInteger
    <*> unknownSettings given

/-- Settings whose range of years has a year. -/
def checkRange (values : Values) : Except Refusal Values :=
  if values.years.last < values.years.first then
    .error (.invalid [⟨[], .emptyRange values.years.first values.years.last⟩])
  else .ok values

/-- The settings of an environment, whose home directory may be known, and of given values. -/
def build (environment : List (Text × Text)) (home : Option Text) (direct : Given) :
    Except Refusal Values := do
  let base ← environmentValues environment names
  let given := merge base (bySetting direct)
  let journalFile ← readJournalFile home given
  match assemble given journalFile with
  | .valid values => checkRange values
  | .issues found => .error (.invalid found)

/-- The parser that settings ask for. -/
def Values.parser (values : Values) : Release.Parser := { years := values.years }

/-! ## Tests -/

example : (bySetting [("MIN_YEAR".toList, Json.null), ("Other".toList, Json.null),
    ("min_year".toList, Json.null)]).map Prod.fst = ["min_year".toList, "Other".toList] := by
  decide +kernel

example : (match build [(variableStem.map Char.toUpper ++ "Min_Year".toList, "1950".toList)]
      none [] with
    | .ok values => values.years
    | .error _ => {}) = ⟨1950, 2099⟩ := by decide +kernel

end Settings

end ReleaseCatalog
