import ReleaseCatalog.Distinct
import ReleaseCatalog.Text.Words
import ReleaseCatalog.Unicode.CaseFold
import ReleaseCatalog.Unicode.Punctuation

/-!
# Tokens

The *tokens* of a title are the words that tell it from other titles.  Letter
case is folded, punctuation at the edges of a word and a possessive ending are
dropped, and the words that only join names are left out, so that "Quinn and
Carrie" and "Quinn & Carrie" have the same two tokens.

Tokens form a set.  It is written as a list without repetition, in the order
in which the tokens first appear.
-/

namespace ReleaseCatalog.Title

/-- A word without the punctuation at its edges. -/
def trimPunctuation (word : Text) : Text := Text.trim Unicode.isPunctuation word

/-- A possessive ending: an apostrophe of either form and an s. -/
def possessiveEndings : List Text := [['\x27', 's'], ['\u2019', 's']]

/-- What a possessive ending leaves of a word, if there is one and it leaves anything. -/
def possessor? (word : Text) : Option Text :=
  if 2 < word.length ∧ word.drop (word.length - 2) ∈ possessiveEndings then
    some (word.take (word.length - 2))
  else none

/-- A word without its edge punctuation and without one possessive ending. -/
def bareWord (word : Text) : Text :=
  let bare := trimPunctuation word
  match possessor? bare with
  | some owner => trimPunctuation owner
  | none => bare

/-- The words that join names. -/
def joiners : List Text := ["&".toList, "and".toList, "+".toList]

/-- A text with each ampersand a word of its own. -/
def isolateAmpersands (t : Text) : Text :=
  t.flatMap fun c => if c = '&' then " & ".toList else [c]

/-- The folded words of a title, joiners and repetitions included. -/
def bareWords (title : Text) : List Text :=
  (Text.words Unicode.isBlank (Unicode.foldCase (isolateAmpersands title))).map bareWord

/-- Whether a bare word is a token. -/
def isToken (word : Text) : Bool := word ≠ [] && !joiners.contains word

/-- The tokens of a title, each once. -/
def tokens (title : Text) : List Text := distinctBy id ((bareWords title).filter isToken)

/-! ## Tests -/

example : tokens "\"Quinn's\" and Carrie, & quinn".toList = ["quinn".toList, "carrie".toList] := by
  decide

end ReleaseCatalog.Title
