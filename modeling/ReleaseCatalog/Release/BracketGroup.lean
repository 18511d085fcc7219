import ReleaseCatalog.Release.Tag

/-!
# Groups in brackets

Brackets of the three kinds enclose technical notes.  Groups in square and
curly brackets are removed, and groups in parentheses if they have nothing but
technical tags.  A group in square brackets that is just a year stays, since
it dates a film.  A group has no bracket of its own kind inside.

A name that begins with a group in square brackets names its studio there,
unless the group is a technical tag or a year.
-/

namespace ReleaseCatalog.Release

/-- Finds a group with no bracket of its kind inside.  It says what is inside. -/
def groupFinder (opening closing : Char) : Finder Text := fun _ t =>
  match t with
  | [] => none
  | c :: rest =>
      let content := rest.takeWhile fun d => d != opening && d != closing
      if c = opening ∧ (rest.drop content.length).head? = some closing then
        some (content, content.length + 2)
      else none

/-- Whether a text is four decimal digits, blanks around them apart. -/
def isYearOnly (t : Text) : Bool :=
  let digits := Text.trimBlank t
  digits.length = 4 && digits.all Unicode.isDecimal

/-- Whether a text has words and all of them are technical tags. -/
def isTagList (t : Text) : Bool :=
  let words := Text.nameWords t
  words ≠ [] && words.all isTechnicalTag

/-- A name with a space for each group of technical notes. -/
def dropGroups (name : Text) : Text :=
  let name := (groupFinder '[' ']').replaceAll
    (fun group content => if isYearOnly content then group else [' ']) name
  let name := (groupFinder '\x7b' '\x7d').replaceAll (fun _ _ => [' ']) name
  (groupFinder '(' ')').replaceAll (fun group content => if isTagList content then [' '] else group)
    name

/-- The line a text consists of, if it has one line, which a line feed may end. -/
def singleLine? (t : Text) : Option Text :=
  let line := t.takeWhile (· ≠ '\n')
  let rest := t.drop line.length
  if rest = [] ∨ rest = ['\n'] then some line else none

/-- The studio in square brackets at the front of a name and the line after it. -/
def leadingGroup? (name : Text) : Option (Text × Text) := do
  let start := name.dropWhile Unicode.isBlank
  let (content, length) ← groupFinder '[' ']' none start
  guard (content ≠ [])
  let rest ← singleLine? ((start.drop length).dropWhile Unicode.isBlank)
  guard (rest ≠ [])
  return (Text.spacedWords content, rest)

/-- The leading studio of a name, if there is one, and the rest of the name. -/
def studioAndRest (name : Text) : Option Text × Text :=
  match leadingGroup? name with
  | some (studio, rest) =>
      if studio = [] ∨ isTechnicalTag studio ∨ isYearOnly studio then (none, name)
      else (some studio, rest)
  | none => (none, name)

/-! ## Tests -/

example : studioAndRest "[Studio] Title".toList = (some "Studio".toList, "Title".toList) := by
  decide +kernel
example : dropGroups "A [x] (x264 mp4) (Web-DL) [2010]".toList
    = "A     (Web-DL) [2010]".toList := by decide +kernel

end ReleaseCatalog.Release
