import ReleaseCatalog.Release.EpisodeMarker
import ReleaseCatalog.Release.TechnicalTail
import ReleaseCatalog.Title.Tokens

/-!
# Readable titles and studios

What is left of a name around a date or a year becomes a title by the same
steps everywhere: brackets and slashes that belong to no group become spaces,
the technical tail is cut, separators become single spaces, episode markers
are removed, and spaces and a few punctuation marks are trimmed from the ends.
A studio is cleaned more gently, since it stands in front.
-/

namespace ReleaseCatalog.Release

/-- Whether a character is a bracket or a slash, which no title keeps. -/
def isStray (c : Char) : Bool :=
  c == '(' || c == ')' || c == '[' || c == ']' || c == '\x7b' || c == '\x7d' || c == '/' ||
    c == '|' || c == '\\'

/-- A text with a space for each bracket and slash. -/
def blankStray (t : Text) : Text := t.map fun c => if isStray c then ' ' else c

/-- Whether a character is trimmed from the ends of a title. -/
def isTitleEdge (c : Char) : Bool := c == ' ' || c == ':' || c == ';' || c == ','

/-- The title in a part of a name. -/
def titleText (t : Text) : Text :=
  let line := Text.spacedWords (beforeTail (blankStray t))
  Text.trim isTitleEdge (Text.collapse Unicode.isBlank (blankMarkers line))

/-- The studio in a part of a name, which may be empty. -/
def studioText (t : Text) : Text :=
  Text.trimBlank (Title.trimPunctuation (Text.spacedWords (blankStray t)))

/-! ## Tests -/

example : titleText ".Milk.&.Honey.E2.XXX.1080p".toList = "Milk & Honey".toList := by decide +kernel
example : studioText "Studio - ".toList = "Studio".toList := by decide +kernel

end ReleaseCatalog.Release
