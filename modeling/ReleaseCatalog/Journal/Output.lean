import ReleaseCatalog.Journal.Level

/-!
# Where the journal is written

The journal goes to the console and to a file.  The console shows the lines
from a chosen level on.  The file keeps every decision, that is every line from
`DEBUG` on, so that it can be read afterwards.  The first line says that the
journal was set up.

Levels are given by name.  A name that is no level is refused with
`UnknownLevel`.
-/

namespace ReleaseCatalog.Journal

/-- A line of the journal. -/
structure Line where
  level : Level
  text : Text
deriving DecidableEq, Repr

/-- A name that is no level. -/
structure UnknownLevel where
  name : Text
deriving DecidableEq, Repr

/-- The wording of the refusal. -/
def UnknownLevel.message (e : UnknownLevel) : Text :=
  "Level '".toList ++ e.name ++ "' does not exist".toList

/-- The lines that reached the two places. -/
structure Output where
  /-- What the console shows. -/
  console : List Line
  /-- What the file keeps. -/
  file : List Line
deriving DecidableEq, Repr

/-- The lines from a level on. -/
def linesFrom (level : Level) (lines : List Line) : List Line :=
  lines.filter fun line => level.rank ≤ line.level.rank

/-- The line that says that the journal was set up. -/
def openingLine : Line := ⟨.debug, "Logging du moteur configure".toList⟩

/-- What lines leave in the two places, the console shown from a level on. -/
def Output.ofLines (console : Level) (lines : List Line) : Output :=
  ⟨linesFrom console (openingLine :: lines), linesFrom .debug (openingLine :: lines)⟩

/-- The level with a name. -/
def readLevel (name : Text) : Except UnknownLevel Level :=
  match Level.ofName? name with
  | some level => .ok level
  | none => .error ⟨name⟩

/-- What messages with named levels leave in the two places. -/
def Output.ofMessages (console : Text) (messages : List (Text × Text)) :
    Except UnknownLevel Output := do
  let console ← readLevel console
  let lines ← messages.mapM fun m => do return Line.mk (← readLevel m.1) m.2
  return Output.ofLines console lines

end ReleaseCatalog.Journal
