import ReleaseCatalog.Text.Segments
import ReleaseCatalog.Text.Words

/-!
# Technical tags

Release names carry *technical tags*.  *Quality tags* name a resolution, a
codec or a source, and are never words of a title.  *Release flags* are words
that mark a release, such as "proper" or "internal", and may also be words of
a title.  Letter case does not matter.

In a name a tag is bounded: a separator or an end of the name stands on each
side.  A word by itself is a tag if a tag reads the whole of it.
-/

namespace ReleaseCatalog.Release

open Reader (all choice optional one word between)

/-- Two words with at most one hyphen, dot or space between them. -/
def compound (first second : String) : Reader :=
  all [word first, optional (one fun c => c == '-' || c == '.' || c == ' '), word second]

/-- Reads the last digit of a codec number. -/
def codecDigit : Reader := one fun c => c == '4' || c == '5'

/-- Reads a quality tag: a resolution, a codec or a source. -/
def qualityTag : Reader := choice [
  all [between Unicode.isDecimal 3 4, word "p"],
  all [one fun c => c == '2' || c == '4' || c == '5' || c == '8', word "k"],
  word "uhd",
  all [word "x26", codecDigit],
  all [word "h", optional (one fun c => c == '.'), word "26", codecDigit],
  word "hevc",
  word "avc",
  word "av1",
  word "xvid",
  word "divx",
  word "10bit",
  all [word "hdr", optional (word "10")],
  compound "web" "dl",
  compound "web" "rip",
  compound "blu" "ray",
  compound "bd" "rip",
  compound "br" "rip",
  compound "dvd" "rip",
  compound "hd" "rip",
  word "hdtv",
  word "remux"]

/-- Reads a release flag. -/
def releaseFlag : Reader :=
  choice [word "xxx", word "repack", word "proper", word "internal", word "mp4", word "mkv"]

/-- Reads a technical tag of either kind. -/
def technicalTag : Reader := choice [qualityTag, releaseFlag]

/-- Whether the character beside a tag, if there is one, separates it from the rest. -/
def isTagBoundary (c : Option Char) : Bool := c.all isSeparator

/-- Finds a tag that stands between separators or ends of the text. -/
def boundedTag (tag : Reader) : Finder Unit :=
  Finder.ofReader isTagBoundary (tag.seq (Reader.before isTagBoundary))

/-- Whether a whole text is a technical tag. -/
def isTechnicalTag (t : Text) : Bool := technicalTag.readsAll t

/-- Whether a whole text is a quality tag. -/
def isQualityTag (t : Text) : Bool := qualityTag.readsAll t

/-! ## Tests -/

example : isTechnicalTag "WEB-DL".toList = true ∧ isQualityTag "Proper".toList = false := by
  decide +kernel

end ReleaseCatalog.Release
