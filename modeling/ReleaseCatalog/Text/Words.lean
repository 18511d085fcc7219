import ReleaseCatalog.Text.Basic

/-!
# Words between separators

A text with a class of separators is a sequence of *words*, the longest runs
without a separator.  Two classes matter: blank characters, and the separators
of release names, which are the blank characters with the dot, the low line
and the hyphen.  Collapsing a text writes its words with single spaces, so it
forgets which separators stood between them, how many, and those at the ends.
-/

namespace ReleaseCatalog

namespace Text

/-- The longest runs of a text without a separator, in order. -/
def words (separator : Char → Bool) (t : Text) : List Text :=
  (t.splitOnP separator).filter (· ≠ [])

/-- The words of a text with single spaces between them. -/
def collapse (separator : Char → Bool) (t : Text) : Text := unwords (words separator t)

/-- No word is empty. -/
theorem ne_nil_of_mem_words {separator : Char → Bool} {t w : Text}
    (h : w ∈ words separator t) : w ≠ [] := by
  simpa using (List.mem_filter.mp h).2

end Text

/-- Whether a character separates the words of a release name. -/
def isSeparator (c : Char) : Bool := Unicode.isBlank c || c == '.' || c == '_' || c == '-'

/-- The words of a release name. -/
def Text.nameWords (t : Text) : List Text := Text.words isSeparator t

/-- A release name with every run of separators turned into one space. -/
def Text.spacedWords (t : Text) : Text := Text.collapse isSeparator t

/-! ## Tests -/

example : Text.spacedWords " a.-_b  c.".toList = "a b c".toList := by decide

end ReleaseCatalog
