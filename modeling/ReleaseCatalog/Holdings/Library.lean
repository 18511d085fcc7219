import ReleaseCatalog.Holdings.Store

/-!
# The library in memory

A `Library` holds entries and studios in the order in which they were added.
Its store filters these lists and never fails.  A second store disregards the
day it is asked for, as some sources do, and answers with all entries of the
studio.
-/

namespace ReleaseCatalog

/-- Entries and studios in the order in which they were added. -/
structure Library where
  entries : List Entry := []
  studios : List Studio := []
deriving DecidableEq, Repr

namespace Library

/-- The entries with the key of one of the titles. -/
def entriesByTitle (l : Library) (titles : List Text) : List Entry :=
  l.entries.filter fun e => (titles.map Title.key).contains e.key

/-- The entries of a studio published on a day. -/
def entriesByStudioAndDate (l : Library) (foreignId date : Text) : List Entry :=
  l.entries.filter fun e => e.studioForeignId = some foreignId && e.releaseDate = some date

/-- The entries of a studio, whatever their day. -/
def entriesByStudio (l : Library) (foreignId : Text) : List Entry :=
  l.entries.filter fun e => e.studioForeignId = some foreignId

/-- The studios with the key of a title. -/
def studiosByTitle (l : Library) (title : Text) : List Studio :=
  l.studios.filter fun s => s.key = Title.key title

/-- The store of the library. -/
def store (l : Library) : Store where
  entriesByTitle titles := .ok (l.entriesByTitle titles)
  entriesByStudioAndDate foreignId date := .ok (l.entriesByStudioAndDate foreignId date)
  allStudios := .ok l.studios
  studiosByTitle title := .ok (l.studiosByTitle title)

/-- The store of the library that disregards the day it is asked for. -/
def undatedStore (l : Library) : Store :=
  { l.store with entriesByStudioAndDate := fun foreignId _ => .ok (l.entriesByStudio foreignId) }

end Library

end ReleaseCatalog
