import ReleaseCatalog.Text.Basic

/-!
# Levels of journal lines

Every line of the journal has a level.  The levels are ordered by how much
they matter, and a reader of the journal sees the lines from some level on.
-/

namespace ReleaseCatalog.Journal

/-- How much a line matters. -/
inductive Level where
  /-- The finest steps. -/
  | trace
  /-- The decisions taken. -/
  | debug
  /-- What happens once in a run. -/
  | info
  /-- What went well. -/
  | success
  /-- What may need attention. -/
  | warning
  /-- What failed. -/
  | error
  /-- What makes it impossible to go on. -/
  | critical
deriving DecidableEq, Repr

namespace Level

/-- The levels in ascending order. -/
def all : List Level := [trace, debug, info, success, warning, error, critical]

/-- The rank of a level. -/
def rank : Level → Nat
  | trace => 5
  | debug => 10
  | info => 20
  | success => 25
  | warning => 30
  | error => 40
  | critical => 50

/-- The name of a level. -/
def name : Level → Text
  | trace => "TRACE".toList
  | debug => "DEBUG".toList
  | info => "INFO".toList
  | success => "SUCCESS".toList
  | warning => "WARNING".toList
  | error => "ERROR".toList
  | critical => "CRITICAL".toList

/-- The level with a name, if there is one. -/
def ofName? (t : Text) : Option Level := all.find? fun level => level.name = t

end Level

end ReleaseCatalog.Journal
