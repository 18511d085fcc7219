import ReleaseCatalog.Journal.Event
import ReleaseCatalog.Title.Key

/-!
# Entries and studios

The library holds *entries*, the scenes and films that releases are attached
to, with the performers they credit, and *studios*.  A scene is attributed to
the foreign identifier of its studio and to a day; an entry without either is
a film.  Entries and studios are compared by the keys of their titles.
-/

namespace ReleaseCatalog

/-- A performer's part in an entry. -/
structure Credit where
  /-- The role, which may be empty. -/
  character : Text := []
  /-- The full name of the performer. -/
  performerName : Text := []
deriving DecidableEq, Repr

/-- A scene or a film. -/
structure Entry where
  /-- The number of the entry in its store. -/
  id : Int
  title : Text := []
  /-- The year, if it is known. -/
  year : Option Int := none
  /-- The foreign identifier of the studio that published it. -/
  studioForeignId : Option Text := none
  releaseDate : Option Text := none
  credits : List Credit := []
deriving DecidableEq, Repr

namespace Entry

/-- The key of the present title. -/
def key (e : Entry) : Text := Title.key e.title

/-- The studio and the day of a scene, both not empty. -/
def attribution? (e : Entry) : Option (Text × Text) := do
  let studio ← e.studioForeignId
  let date ← e.releaseDate
  guard (studio ≠ [] ∧ date ≠ [])
  return (studio, date)

/-- Whether the entry is attributed to a studio and a day. -/
def isScene (e : Entry) : Bool := e.attribution?.isSome

/-- How an entry is shown: studio, day and title of a scene, title and year of a film. -/
def describe (e : Entry) : Text :=
  match e.attribution? with
  | some (studio, date) =>
      ['['] ++ studio ++ " - ".toList ++ date ++ " - ".toList ++ e.title ++ [']']
  | none => ['['] ++ e.title ++ " (".toList ++ Journal.Event.yearText e.year ++ ")]".toList

/-- A new value for one field of an entry. -/
inductive Change where
  | id (value : Int)
  | title (value : Text)
  | year (value : Option Int)
  | studioForeignId (value : Option Text)
  | releaseDate (value : Option Text)
  | credits (value : List Credit)
deriving DecidableEq, Repr

/-- The entry with one field changed. -/
def change (e : Entry) : Change → Entry
  | .id value => { e with id := value }
  | .title value => { e with title := value }
  | .year value => { e with year := value }
  | .studioForeignId value => { e with studioForeignId := value }
  | .releaseDate value => { e with releaseDate := value }
  | .credits value => { e with credits := value }

end Entry

/-- A studio. -/
structure Studio where
  /-- The number of the studio in its store. -/
  id : Int
  /-- The identifier that entries refer to. -/
  foreignId : Text
  title : Text := []
  /-- The network, under whose name sources may publish. -/
  network : Option Text := none
deriving DecidableEq, Repr

namespace Studio

/-- The key of the present title. -/
def key (s : Studio) : Text := Title.key s.title

/-- A new value for one field of a studio. -/
inductive Change where
  | id (value : Int)
  | foreignId (value : Text)
  | title (value : Text)
  | network (value : Option Text)
deriving DecidableEq, Repr

/-- The studio with one field changed. -/
def change (s : Studio) : Change → Studio
  | .id value => { s with id := value }
  | .foreignId value => { s with foreignId := value }
  | .title value => { s with title := value }
  | .network value => { s with network := value }

end Studio

/-! ## Tests -/

example : ({ id := 1, title := ['A'], year := some 2010 } : Entry).describe
    = "[A (2010)]".toList := by decide

end ReleaseCatalog
