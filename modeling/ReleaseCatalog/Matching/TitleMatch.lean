import ReleaseCatalog.Holdings.Entry

/-!
# The entry with a title

Of the entries with an accepted title, the one nearest in year is selected,
and of several the one with the lowest number.  An entry without a year is
farther than any with one.  If no year is asked for, the number alone decides.
The first in the list wins if even the numbers are equal.  As for scenes, ranks
are lists of integers that are compared part by part.
-/

namespace ReleaseCatalog.Matching

-- The order of the standard library, also where another one on lists is at hand.
attribute [local instance (high)] List.instLE

/-- The entries with the key of an accepted title whose numbers are not excluded. -/
def accepted (titles : List Text) (excluded : List Int) (candidates : List Entry) : List Entry :=
  candidates.filter fun e =>
    (titles.map Title.key).contains e.key && !excluded.contains e.id

/-- The rank of an entry for a year. -/
def yearRank (year : Option Int) (e : Entry) : List Int :=
  match year, e.year with
  | none, _ => [e.id]
  | some asked, some known => [0, ((known - asked).natAbs : Int), e.id]
  | some _, none => [1, 0, e.id]

/-- The entry with an accepted title that is nearest in year. -/
def nearestByTitle (titles : List Text) (year : Option Int) (excluded : List Int)
    (candidates : List Entry) : Option Entry :=
  (accepted titles excluded candidates).minOn? (yearRank year)

/-! ## Tests -/

example : (nearestByTitle [['a']] (some 2000) [] [{ id := 2, title := ['A'] },
    { id := 3, title := ['A'], year := some 2008 }]).map Entry.id = some 3 := by decide

end ReleaseCatalog.Matching
