import ReleaseCatalog.Journal.Traced
import ReleaseCatalog.Holdings.Store
import ReleaseCatalog.Matching.SceneRank
import ReleaseCatalog.Matching.TitleMatch
import ReleaseCatalog.Release.Parser
import ReleaseCatalog.Studio.AliasRegister

/-!
# Identifying a release

The engine attaches a name of a release to an entry of the library.  A scene is
looked up by its studio and its day: the studio's title first, then the titles
that the alias register relates to it, and of the scenes of that day the best
match.  Anything else is looked up by title and year.  The quality of a release
is read along with its name and decides nothing.  No match is an answer and not a
failure.  Failures are those of the store.
-/

namespace ReleaseCatalog

open Journal (Traced Event)

/-- A parser, a detector of quality, a store, a register of aliases and a policy for ties. -/
structure Engine where
  parser : Release.Parser
  detector : Release.Detector
  store : Store
  aliases : AliasRegister
  /-- Tells scenes of one day apart. -/
  tieBreak : Matching.TieBreak

namespace Engine

/-- A computation that asks the store. -/
abbrev Lookup (α : Type) := Traced StoreFailure α

/-- What a name says, with the quality that the detector finds in it. -/
def parse (engine : Engine) (raw : Text) : Lookup Release.NameReading := do
  let detection := engine.detector raw
  Traced.note (engine.parser.events detection raw)
  return engine.parser.parse detection raw

/-- The entry of a pool with an accepted title, nearest in year. -/
def nearestByTitle (titles : List Text) (year : Option Int) (excluded : List Int)
    (pool : List Entry) : Lookup (Option Entry) := do
  let entry := Matching.nearestByTitle titles year excluded pool
  if entry.isNone then Traced.note [.noEntry titles year]
  return entry

/-- The studios with one of several alternate titles of a studio. -/
def findByAliases (store : Store) (studioTitle : Text) : List Text → Lookup (List Studio)
  | [] => return []
  | alternate :: rest => do
      Traced.note [.aliasTried studioTitle alternate]
      let found ← Traced.ofExcept (store.studiosByTitle (Title.key alternate))
      let others ← findByAliases store studioTitle rest
      return found ++ others
termination_by structural alternates => alternates

/-- The studios with a title, or else with a related title, one for each foreign identifier. -/
def studiosNamed (engine : Engine) (studioTitle : Text) : Lookup (List Studio) := do
  let key := Title.key studioTitle
  if key = [] then return []
  let exact ← Traced.ofExcept (engine.store.studiosByTitle key)
  let studios ←
    if exact = [] then
      findByAliases engine.store studioTitle (engine.aliases.related studioTitle)
    else pure exact
  return distinctBy Studio.foreignId studios

/-- The entries that the store gives for a day of several studios. -/
def entriesOf (store : Store) (date : Text) : List Studio → Lookup (List Entry)
  | [] => return []
  | studio :: rest => do
      let found ← Traced.ofExcept (store.entriesByStudioAndDate studio.foreignId date)
      let others ← entriesOf store date rest
      return found ++ others
termination_by structural studios => studios

/-- The scene of a studio on a day that matches the words of a release best. -/
def findSceneOn (engine : Engine) (studioTitle date : Text) (words : List Text) :
    Lookup (Option Entry) := do
  let studios ← engine.studiosNamed studioTitle
  if studios = [] then
    Traced.note [.unknownStudio studioTitle]
    return none
  let entries ← entriesOf engine.store date studios
  let candidates := distinctBy Entry.id entries
  Traced.note (Matching.choiceEvents engine.tieBreak candidates date words)
  let entry := Matching.chosenScene engine.tieBreak candidates date words
  if entry.isNone then Traced.note [.noScene studioTitle date]
  return entry

/-- The scene of a studio on a day, if both are given and not empty. -/
def findScene (engine : Engine) (studioTitle date : Option Text) (words : List Text) :
    Lookup (Option Entry) :=
  match studioTitle.filter (· ≠ []), date.filter (· ≠ []) with
  | some studio, some day => engine.findSceneOn studio day words
  | _, _ => return none

/-- The entry that a name of a release belongs to. -/
def identify (engine : Engine) (raw : Text) (excluded : List Int) : Lookup (Option Entry) := do
  let parsed ← engine.parse raw
  if parsed.isScene then
    engine.findScene parsed.studioTitle parsed.releaseDate parsed.tokens
  else
    let key := Title.key parsed.title
    if key = [] then return none
    let pool ← Traced.ofExcept (engine.store.entriesByTitle [key])
    nearestByTitle [key] parsed.year excluded pool

end Engine

end ReleaseCatalog
