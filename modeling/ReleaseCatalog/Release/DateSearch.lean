import ReleaseCatalog.Release.DateShape

/-!
# The release date in a name

A name may have several fragments in the shape of a date.  A search for one
style takes the first that names a day in the accepted years.  If none does,
it reports the first fragment as *malformed*, since a malformed date is told
apart from no date at all.  The search over a list of styles takes the first
style with a date, and again falls back to the first malformed fragment.
-/

namespace ReleaseCatalog.Release

open Calendar (YearRange normalizeDay)

/-- A fragment in the shape of a date. -/
structure FoundDate where
  /-- The position of its first character. -/
  start : Nat
  /-- The position behind its last character. -/
  stop : Nat
  /-- The day as text, absent if the fragment is malformed. -/
  day : Option Text
deriving DecidableEq, Repr

/-- Whether the fragment names a day. -/
def FoundDate.isDay (m : FoundDate) : Bool := m.day.isSome

namespace DateStyle

/-- The day that the numbers of a fragment name, if it is in the accepted years. -/
def dayOf (style : DateStyle) (range : YearRange) (fields : DateFields) : Option Text :=
  normalizeDay range (fields.year + style.century) fields.month fields.day

/-- The fragments of a text in the shape of the style, from left to right. -/
def fragments (style : DateStyle) (range : YearRange) (t : Text) : List FoundDate :=
  (style.shape.finder.occurrences t).map fun o =>
    ⟨o.before.length, o.before.length + o.fragment.length, style.dayOf range o.value⟩

/-- The first fragment that names a day, else the first malformed one. -/
def find (style : DateStyle) (range : YearRange) (t : Text) : Option FoundDate :=
  let found := style.fragments range t
  (found.find? FoundDate.isDay).or found.head?

end DateStyle

/-- The match of the first style that finds a day, else the first malformed one. -/
def firstDate (styles : List DateStyle) (range : YearRange) (t : Text) :
    Option FoundDate :=
  let found := styles.filterMap fun style => style.find range t
  (found.find? FoundDate.isDay).or found.head?

/-! ## Tests -/

example : firstDate defaultStyles {} "Studio.21.01.08.Title".toList
    = some ⟨7, 15, some "2021-01-08".toList⟩ := by decide +kernel
example : firstDate defaultStyles {} "2020-13-45".toList = some ⟨0, 10, none⟩ := by
  decide +kernel

end ReleaseCatalog.Release
