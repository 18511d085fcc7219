import ReleaseCatalog.Engine
import ReleaseCatalog.Holdings.Library
import ReleaseCatalog.Settings.Basic

/-!
# Sessions

A session is a library in use.  Its settings are fixed when it is opened, and
the alias register is built by the first step that needs it, from the studios as
they are then.  A register that was built stays in use, whatever happens to the
studios, until the session is rebuilt.  A build that fails leaves nothing
behind, and the next step that needs the register tries again.

A step is a question, a change of the library, or a change of the session
itself: new settings, or a store that fails.  Every step gives an answer or a
refusal, and the session that the next step sees.
-/

namespace ReleaseCatalog

open Journal (Traced Event)

/-- A library in use. -/
structure Session where
  library : Library
  /-- Whether the store disregards the day it is asked for. -/
  undated : Bool
  /-- The detector of quality tags, which is asked if the settings say so. -/
  detector : Release.Detector
  /-- The home directory, if it is known. -/
  home : Option Text
  /-- The questions on which the store fails, the latest failures first. -/
  failures : List (Question × StoreFailure)
  /-- The values from which the settings were last made or tried. -/
  given : Settings.Given
  settings : Settings.Values
  /-- The alias register, once it is built. -/
  register : Option AliasRegister

/-- Why a step is refused. -/
inductive StepRefusal where
  | store (failure : StoreFailure)
  | settings (refusal : Settings.Refusal)
  /-- There is nothing at the position. -/
  | noSuchPosition
deriving DecidableEq, Repr

/-- What a step answers. -/
inductive Answer where
  | entry (found : Option Entry)
  | entries (found : List Entry)
  | studio (found : Studio)
  | studios (found : List Studio)
  | reading (said : Release.NameReading)
  | aliases (pairs : List AliasPair)
  | titles (found : List Text)
  | policy (tieBreak : Matching.TieBreak)
  /-- Nothing but that the step was carried out. -/
  | done

/-- A step of a session. -/
inductive Step where
  | identify (raw : Text) (excluded : List Int)
  | parse (raw : Text)
  /-- Looks for an entry by title in a pool, or among all entries. -/
  | nearestByTitle (titles : List Text) (year : Option Int) (excluded : List Int)
      (pool : Option (List Entry))
  | findScene (studio date : Option Text) (words : List Text)
  | studiosNamed (title : Text)
  | aliases
  | related (title : Text)
  | entriesByTitle (titles : List Text)
  | entriesByStudioAndDate (studio date : Text)
  | allStudios
  | studiosByTitle (title : Text)
  | tieBreak
  | insertEntry (entry : Entry)
  | insertStudio (studio : Studio)
  /-- Changes the entry at a position, counted from the end if it is negative. -/
  | setEntry (position : Int) (change : Entry.Change)
  /-- Changes the studio at a position, counted from the end if it is negative. -/
  | setStudio (position : Int) (change : Studio.Change)
  /-- Starts afresh over the same library, perhaps from other values. -/
  | rebuild (given : Option Settings.Given)
  | fail (question : Question) (failure : StoreFailure)
  /-- Ends all failures of the store. -/
  | heal

namespace Session

/-- A session over a library, with the settings of given values. -/
def start (library : Library) (undated : Bool) (detector : Release.Detector) (home : Option Text)
    (given : Settings.Given) : Except Settings.Refusal Session := do
  let settings ← Settings.build [] home given
  return { library, undated, detector, home, failures := [], given, settings, register := none }

/-- The store of a session, with its failures. -/
def store (s : Session) : Store :=
  (if s.undated then s.library.undatedStore else s.library.store).failing fun question =>
    s.failures.lookup question

/-! ## The alias register -/

/-- Builds the alias register from the studios as they are. -/
def buildRegister (s : Session) : Engine.Lookup AliasRegister := do
  let studios ← Traced.ofExcept s.store.allStudios
  Traced.note (AliasRegister.buildEvents studios s.settings.aliases)
  return AliasRegister.ofStudios studios s.settings.aliases

/-- The alias register in use, or else a new one. -/
def needRegister (s : Session) : Engine.Lookup AliasRegister :=
  match s.register with
  | some register => return register
  | none => s.buildRegister

/-- The session after a step that needs the register. -/
def withRegister (s : Session) : Session :=
  match s.needRegister.outcome with
  | .ok register => { s with register := some register }
  | .error _ => s

/-- The engine of a session with an alias register. -/
def engine (s : Session) (aliases : AliasRegister) : Engine where
  parser := s.settings.parser
  detector := if s.settings.detectsQuality then s.detector else .off
  store := s.store
  aliases := aliases
  tieBreak := s.settings.tieBreak

/-! ## Steps -/

/-- The outcome of a step. -/
abbrev Outcome := Traced StepRefusal Answer

/-- The outcome of a computation that may fail with the store. -/
def ofLookup {α : Type} (x : Engine.Lookup α) (answer : α → Answer) : Outcome where
  outcome := match x.outcome with
    | .ok a => .ok (answer a)
    | .error failure => .error (.store failure)
  events := x.events

/-- The outcome of asking the store. -/
def ofStore {α : Type} (x : Except StoreFailure α) (answer : α → Answer) : Outcome :=
  ofLookup (Traced.ofExcept x) answer

/-- An outcome that notes nothing. -/
def ofOutcome (outcome : Except StepRefusal Answer) : Outcome := ⟨outcome, []⟩

/-- The outcome of a step that needs the alias register. -/
def ofRegister {α : Type} (s : Session) (ask : AliasRegister → Engine.Lookup α)
    (answer : α → Answer) : Outcome :=
  ofLookup (s.needRegister >>= ask) answer

/-- The outcome of a step that needs the engine. -/
def ofEngine {α : Type} (s : Session) (ask : Engine → Engine.Lookup α) (answer : α → Answer) :
    Outcome :=
  s.ofRegister (fun register => ask (s.engine register)) answer

/-- The index of a position in a list of some length.  A negative position counts from the end. -/
def indexOf? (length : Nat) (position : Int) : Option Nat :=
  let index := if position < 0 then position + length else position
  if index < 0 then none else some index.toNat

/-- Changes the element at a position.  It says what the element became and the list with it. -/
def changeAt {α : Type} (list : List α) (position : Int) (change : α → α) :
    Option (α × List α) := do
  let index ← indexOf? list.length position
  let a ← list[index]?
  return (change a, list.set index (change a))

/-- Starts afresh from given values, which are kept even if they are refused. -/
def restart (s : Session) (given : Settings.Given) : Session × Outcome :=
  match Settings.build [] s.home given with
  | .ok settings => ({ s with given, settings, register := none }, ofOutcome (.ok .done))
  | .error refusal => ({ s with given }, ofOutcome (.error (.settings refusal)))

/-- Carries a step out. -/
def step (s : Session) : Step → Session × Outcome
  | .identify raw excluded => (s.withRegister, s.ofEngine (·.identify raw excluded) .entry)
  | .parse raw => (s.withRegister, s.ofEngine (·.parse raw) .reading)
  | .nearestByTitle titles year excluded pool =>
      (s.withRegister, s.ofEngine
        (fun _ => Engine.nearestByTitle titles year excluded (pool.getD s.library.entries)) .entry)
  | .findScene studio date words =>
      (s.withRegister, s.ofEngine (·.findScene studio date words) .entry)
  | .studiosNamed title => (s.withRegister, s.ofEngine (·.studiosNamed title) .studios)
  | .aliases => (s.withRegister, s.ofRegister (fun register => return register.pairs) .aliases)
  | .related title =>
      (s.withRegister, s.ofRegister (fun register => return register.related title) .titles)
  | .entriesByTitle titles => (s, ofStore (s.store.entriesByTitle titles) .entries)
  | .entriesByStudioAndDate studio date =>
      (s, ofStore (s.store.entriesByStudioAndDate studio date) .entries)
  | .allStudios => (s, ofStore s.store.allStudios .studios)
  | .studiosByTitle title => (s, ofStore (s.store.studiosByTitle title) .studios)
  | .tieBreak => (s, ofOutcome (.ok (.policy s.settings.tieBreak)))
  | .insertEntry entry =>
      ({ s with library := { s.library with entries := s.library.entries ++ [entry] } },
        ofOutcome (.ok (.entry (some entry))))
  | .insertStudio studio =>
      ({ s with library := { s.library with studios := s.library.studios ++ [studio] } },
        ofOutcome (.ok (.studio studio)))
  | .setEntry position change =>
      match changeAt s.library.entries position (·.change change) with
      | some (entry, entries) =>
          ({ s with library := { s.library with entries } }, ofOutcome (.ok (.entry (some entry))))
      | none => (s, ofOutcome (.error .noSuchPosition))
  | .setStudio position change =>
      match changeAt s.library.studios position (·.change change) with
      | some (studio, studios) =>
          ({ s with library := { s.library with studios } }, ofOutcome (.ok (.studio studio)))
      | none => (s, ofOutcome (.error .noSuchPosition))
  | .rebuild given => s.restart (given.getD s.given)
  | .fail question failure =>
      ({ s with failures := (question, failure) :: s.failures }, ofOutcome (.ok .done))
  | .heal => ({ s with failures := [] }, ofOutcome (.ok .done))

/-- The outcomes of steps one after the other. -/
def run (s : Session) : List Step → List Outcome
  | [] => []
  | step :: rest => (s.step step).2 :: run (s.step step).1 rest
termination_by structural steps => steps

end Session

end ReleaseCatalog
