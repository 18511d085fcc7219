import ReleaseCatalog.Text.Basic
import ReleaseCatalog.Unicode.Decimal

/-!
# Endings of file names

Two endings of a file name say nothing about the release: the extension of a
video file, and the counter that tells copies apart ("Title E2_1").  A counter
is a low line and digits behind another digit, at the end of the name or
before a final line feed.  One extension and one counter are removed, and
never the whole name.
-/

namespace ReleaseCatalog.Release

/-- The extensions of video files. -/
def videoFileExtensions : List Text :=
  [".mkv", ".mp4", ".avi", ".mov", ".wmv", ".flv", ".webm", ".m4v", ".mpg", ".mpeg", ".ts",
   ".vob"].map String.toList

/-- The small letter of an ASCII capital and of the Kelvin sign, and another character itself. -/
def smallLetter (c : Char) : Char := if c = '\u212A' then 'k' else c.toLower

/-- Whether a name has the extension and something before it. -/
def hasExtension (name extension : Text) : Bool :=
  Text.endsWith (name.map smallLetter) extension && extension.length < name.length

/-- A name without its extension, if it has one of those listed. -/
def dropExtension (extensions : List Text) (name : Text) : Text :=
  match extensions.find? (hasExtension name) with
  | some extension => name.take (name.length - extension.length)
  | none => name

/-- What is before the counter of a name, if it has one.  Both are read from the end backwards. -/
def beforeCounter? (reversed : Text) : Option Text :=
  match reversed.dropWhile Unicode.isDecimal with
  | '_' :: digit :: rest =>
      if Unicode.isDecimal digit ∧ reversed.head?.any Unicode.isDecimal then some (digit :: rest)
      else none
  | _ => none

/-- A name without its counter of copies. -/
def dropCounter (name : Text) : Text :=
  match name.reverse with
  | '\n' :: reversed =>
      match beforeCounter? reversed with
      | some kept => ('\n' :: kept).reverse
      | none => name
  | reversed => ((beforeCounter? reversed).getD reversed).reverse

/-! ## Tests -/

example : dropExtension videoFileExtensions "Title.MKV".toList = "Title".toList := by decide +kernel
example : dropCounter "Title E2_1".toList = "Title E2".toList := by decide +kernel

end ReleaseCatalog.Release
