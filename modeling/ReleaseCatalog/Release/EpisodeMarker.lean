import ReleaseCatalog.Text.Segments
import ReleaseCatalog.Unicode.Alphanumeric

/-!
# Episode markers

A title may be numbered.  A *marker* is a volume with an optional episode
("Vol 1 E2"), a season with an episode ("S01E02"), or an episode alone
("Episode 200").  Letter case does not matter and blanks may stand between its
parts.  A marker begins and ends at the edge of a word, and a colon right
after it belongs to it.
-/

namespace ReleaseCatalog.Release

open Reader (all choice optional word many many1 between)

/-- Reads blanks, if there are any. -/
def blanks : Reader := many Unicode.isBlank

/-- Reads a number of any length. -/
def anyNumber : Reader := many1 Unicode.isDecimal

/-- Reads a volume, with an episode of it if there is one. -/
def volumeMarker : Reader := all [
  word "vol", optional (word "ume"), blanks, anyNumber,
  optional (all [blanks, choice [word "e", word "ep", word "episode"], blanks, anyNumber])]

/-- Reads a season and an episode of it. -/
def seasonMarker : Reader := all [
  word "s", between Unicode.isDecimal 1 2, blanks, word "e", between Unicode.isDecimal 1 3]

/-- Reads an episode alone. -/
def episodeMarker : Reader :=
  all [choice [word "episode", word "ep", word "e"], blanks, anyNumber]

/-- Whether a place beside a character, if there is one, is the edge of a word that ends there. -/
def isWordEdge (c : Option Char) : Bool := !c.any Unicode.isWordChar

/-- Finds a marker at the edges of words, with the colon after it. -/
def markerFinder : Finder Unit :=
  Finder.ofReader isWordEdge (all [
    choice [volumeMarker, seasonMarker, episodeMarker],
    Reader.before isWordEdge,
    optional (Reader.one fun c => c == ':')])

/-- A text with a space for each marker. -/
def blankMarkers (t : Text) : Text := markerFinder.replaceAll (fun _ _ => [' ']) t

/-! ## Tests -/

example : blankMarkers "Title Vol 1 E2: Night S01E02 Me2".toList
    = "Title   Night   Me2".toList := by decide +kernel

end ReleaseCatalog.Release
