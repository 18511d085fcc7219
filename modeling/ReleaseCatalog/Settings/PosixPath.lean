import ReleaseCatalog.Text.Basic

/-!
# Paths

A path is a row of names below a root, or below the present directory if it has
no root.  Empty names and single dots mean nothing and vanish, while a double
dot stays, since what it means depends on the files.  A path that begins with
exactly two slashes keeps both.  A tilde as the first name of a path without a
root stands for the home directory.
-/

namespace ReleaseCatalog.Settings

/-- A path: the slashes of its root, if it has one, and its names. -/
structure PosixPath where
  /-- No text, one slash or two. -/
  root : Text
  names : List Text
deriving DecidableEq, Repr

namespace PosixPath

/-- The root that the slashes at the front of a path make. -/
def rootOf (t : Text) : Text :=
  match (t.takeWhile (· = '/')).length with
  | 0 => []
  | 2 => ['/', '/']
  | _ => ['/']

/-- The path that a text writes. -/
def ofText (t : Text) : PosixPath :=
  ⟨rootOf t, (t.splitOnP (· = '/')).filter fun name => name ≠ [] && name ≠ ['.']⟩

/-- A path as text.  The present directory is a dot. -/
def write (p : PosixPath) : Text :=
  if p.root = [] ∧ p.names = [] then ['.'] else p.root ++ Text.join ['/'] p.names

/-- The home directory as the text of a path.  Slashes at its end do not count. -/
def homeText (home : Text) : Text :=
  let bare := (home.reverse.dropWhile (· = '/')).reverse
  if bare = [] then ['/'] else bare

/-- The path with the home directory for a leading tilde, or nothing if the
tilde stands for a directory that is not known. -/
def expandHome? (home : Option Text) (p : PosixPath) : Option PosixPath :=
  match p.root, p.names with
  | [], ('~' :: user) :: rest => do
      guard (user = [])
      let home ← home
      guard (home.head? ≠ some '~')
      let directory := ofText (homeText home)
      return ⟨directory.root, directory.names ++ rest⟩
  | _, _ => some p

end PosixPath

/-! ## Tests -/

example : (PosixPath.ofText "./a//../b/".toList).write = "a/../b".toList := by decide +kernel
example : ((PosixPath.ofText "~/x".toList).expandHome? (some "/home/u/".toList)).map
    PosixPath.write = some "/home/u/x".toList := by decide +kernel

end ReleaseCatalog.Settings
