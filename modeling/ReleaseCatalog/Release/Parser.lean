import ReleaseCatalog.Journal.Event
import ReleaseCatalog.Release.BracketGroup
import ReleaseCatalog.Release.DateSearch
import ReleaseCatalog.Release.FileName
import ReleaseCatalog.Release.FilmYear
import ReleaseCatalog.Release.NameReading

/-!
# Reading a name of a release

A name is first *prepared*: the endings of a file name are dropped, a leading
studio is set apart and the groups of technical notes are removed.  What
remains is searched for a date.  A date makes it a scene, whose studio is the
leading one or what stands before the date.  No date makes it a film, if it has
a year with a title.  A malformed date makes it neither.  In every case that is
left the whole prepared name is the title, and the raw name if that is empty.

Detecting the quality is independent of all this: it only fills the quality of
the result.
-/

namespace ReleaseCatalog.Release

open Calendar (YearRange)
open Journal (Event)

/-- What a parser takes for granted. -/
structure Parser where
  /-- The years in which a date or film may lie. -/
  years : YearRange := {}
  /-- The styles of dates, in the order in which they are tried. -/
  styles : List DateStyle := defaultStyles
  /-- The extensions of files. -/
  extensions : List Text := videoFileExtensions

/-- A name prepared for the search of a date. -/
structure PreparedName where
  /-- The studio in brackets at the front. -/
  bracketStudio : Option Text
  /-- The rest of the name. -/
  body : Text
deriving DecidableEq, Repr

namespace Parser

/-- A name without what says nothing about the release, its leading studio set apart. -/
def prepare (parser : Parser) (raw : Text) : PreparedName :=
  let (studio, rest) :=
    studioAndRest (dropCounter (dropExtension parser.extensions (Text.trimBlank raw)))
  ⟨studio, dropGroups rest⟩

/-- The date in a prepared name, or else a malformed one. -/
def dateIn (parser : Parser) (body : Text) : Option FoundDate :=
  firstDate parser.styles parser.years body

/-- The scene that a prepared name with a date says. -/
def sceneAt (name : PreparedName) (start stop : Nat) (date : Text) : Recognition :=
  let before := name.body.take start
  let after := name.body.drop stop
  match name.bracketStudio with
  | some studio => .scene (some studio) date (titleText (before ++ [' '] ++ after))
  | none =>
      let studio := studioText before
      .scene (if studio = [] then none else some studio) date (titleText after)

/-- The title of a name in which nothing is recognised. -/
def wholeTitle (raw body : Text) : Text :=
  let title := titleText body
  let collapsed := Text.spacedWords raw
  if title ≠ [] then title
  else if collapsed ≠ [] then collapsed
  else Text.trimBlank raw

/-- What a name is recognised as. -/
def recognise (parser : Parser) (raw : Text) : Recognition :=
  let name := parser.prepare raw
  match parser.dateIn name.body with
  | some ⟨start, stop, some date⟩ => sceneAt name start stop date
  | some ⟨_, _, none⟩ => .malformedDate (wholeTitle raw name.body)
  | none =>
      match film? parser.years name.body with
      | some (title, year) => .film title year
      | none => .plain (wholeTitle raw name.body)

/-- What the detector says of a name.  It is not asked about a blank one. -/
def detectionOf (detection : Detection) (raw : Text) : Detection :=
  if raw.all Unicode.isBlank then .off else detection

/-- What a name says, given what the detector says. -/
def parse (parser : Parser) (detection : Detection) (raw : Text) : NameReading :=
  (parser.recognise raw).toReading raw (detectionOf detection raw).quality

/-- What the journal notes while a name is read. -/
def events (parser : Parser) (detection : Detection) (raw : Text) : List Event :=
  let unread := match detectionOf detection raw with
    | .failed reason => [Event.qualityUnread raw reason]
    | _ => []
  let recognised := match parser.recognise raw with
    | .scene studio date title => [Event.sceneRecognised studio date title]
    | .malformedDate _ => [Event.malformedDate raw]
    | _ => []
  unread ++ recognised

end Parser

/-! ## Tests -/

example : ({} : Parser).recognise "Studio.21.01.08.Quinn.Waters.XXX.1080p.mp4".toList
    = .scene (some "Studio".toList) "2021-01-08".toList "Quinn Waters".toList := by decide +kernel
example : ({} : Parser).recognise "[Studio] Quinn (Night / 08.01.2021) [1080p]".toList
    = .scene (some "Studio".toList) "2021-01-08".toList "Quinn Night".toList := by decide +kernel

end ReleaseCatalog.Release
