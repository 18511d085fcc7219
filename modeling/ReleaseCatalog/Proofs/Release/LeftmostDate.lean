import Mathlib.Order.Bounds.Defs
import ReleaseCatalog.Proofs.Release.DateRecognition

/-!
# The leftmost date of a style

The scan for a style comes to its fragments from left to right
(`DateStyle.pairwise_fragments`).  So a search reports the leftmost of those that name a
day, and if none does, the leftmost of all (`DateStyle.find_of_day`,
`DateStyle.find_of_malformed`).

In the three shapes whose fragments cannot overlap (`StandsAt.apart`) the scan comes to
every fragment that stands in the text.  There leftmost means leftmost in the text, and
nothing of the scan is left in the statement (`DateStyle.find_leftmost`).
-/

namespace ReleaseCatalog.Release

open Calendar (YearRange)

/-! ## The fragments of a scan in order -/

/-- Of fragments in order, the first that satisfies a condition is the leftmost that does. -/
theorem leftmost_of_find? {found : List FoundDate} {p : FoundDate → Bool} {m : FoundDate}
    (order : found.Pairwise fun m m' => m.start < m'.start) (h : found.find? p = some m) :
    ∀ m' ∈ found, p m' = true → m.start ≤ m'.start := by
  obtain ⟨-, earlier, later, rfl, none_before⟩ := List.find?_eq_some_iff_append.mp h
  intro m' member holds
  rcases List.mem_append.mp member with before | here
  · have fails := none_before m' before
    rw [holds] at fails
    cases fails
  · cases List.mem_cons.mp here with
    | inl same => rw [same]
    | inr behind =>
        have follows := (List.pairwise_append.mp order).2.1
        exact Nat.le_of_lt ((List.pairwise_cons.mp follows).1 m' behind)

namespace DateStyle

variable {style : DateStyle} {range : YearRange} {t : Text}

/-- A scan comes to its fragments from left to right. -/
theorem pairwise_fragments (style : DateStyle) (range : YearRange) (t : Text) :
    (style.fragments range t).Pairwise fun m m' => m.start < m'.start := by
  unfold fragments
  rw [List.pairwise_map]
  refine (Finder.pairwise_occurrences style.shape.finder t).imp_of_mem ?_
  intro o o' member _ ends
  obtain ⟨c, rest, fragment, -⟩ := (DateShape.stands_of_mem_occurrences member).spells.head_isDecimal
  rw [fragment, List.length_cons] at ends
  show o.before.length < o'.before.length
  omega

/-- If a fragment of the scan names a day, the leftmost such fragment is found. -/
theorem find_of_day {m : FoundDate} (member : m ∈ style.fragments range t)
    (day : m.isDay = true) :
    ∃ first ∈ style.fragments range t, first.isDay = true ∧ style.find range t = some first ∧
      ∀ m' ∈ style.fragments range t, m'.isDay = true → first.start ≤ m'.start := by
  cases found : (style.fragments range t).find? FoundDate.isDay with
  | none => exact absurd day (List.find?_eq_none.mp found m member)
  | some first =>
      exact ⟨first, List.mem_of_find?_eq_some found, List.find?_some found,
        (find_or_head_eq_some_iff (List.find?_some found)).mpr found,
        leftmost_of_find? (style.pairwise_fragments range t) found⟩

/-- If no fragment of the scan names a day, the leftmost fragment is found. -/
theorem find_of_malformed (malformed : ∀ m ∈ style.fragments range t, m.isDay = false)
    {m : FoundDate} (member : m ∈ style.fragments range t) :
    ∃ first ∈ style.fragments range t, style.find range t = some first ∧
      ∀ m' ∈ style.fragments range t, first.start ≤ m'.start := by
  have none : (style.fragments range t).find? FoundDate.isDay = none :=
    List.find?_eq_none.mpr fun m' member' day => by
      rw [malformed m' member'] at day
      cases day
  have order := style.pairwise_fragments range t
  unfold find
  cases all : style.fragments range t with
  | nil => rw [all] at member; cases member
  | cons first rest =>
      rw [all] at none order
      refine ⟨first, List.mem_cons_self, by simp [none], fun m' member' => ?_⟩
      cases List.mem_cons.mp member' with
      | inl same => rw [same]
      | inr later => exact Nat.le_of_lt ((List.pairwise_cons.mp order).1 m' later)

end DateStyle

/-! ## Shapes whose fragments cannot overlap -/

/-- Fragments of a shape other than the short one do not overlap. -/
theorem DateShape.StandsAt.apart {shape : DateShape} (long : shape ≠ .short) {t : Text}
    {position position' : Nat} {fields fields' : DateFields}
    (first : shape.StandsAt t position fields) (second : shape.StandsAt t position' fields')
    (before : position < position') : position + shape.width ≤ position' := by
  obtain ⟨shift, rfl⟩ := Nat.exists_eq_add_of_lt before
  by_contra inside
  exact long (overlap first second (Nat.succ_pos shift) (by omega)).1

/-- The positions of a text at which a fragment of the shape stands. -/
def DateShape.positions (shape : DateShape) (t : Text) : Set Nat :=
  {position | ∃ fields, shape.StandsAt t position fields}

namespace DateStyle

/-- A fragment of the style that stands at a position of a text names a day of the accepted
years. -/
def NamesAt (style : DateStyle) (range : YearRange) (t : Text) (position : Nat) (day : Text) :
    Prop :=
  ∃ fields, style.shape.StandsAt t position fields ∧ style.dayOf range fields = some day

/-- The positions of a text at which a fragment of the style names a day. -/
def dayPositions (style : DateStyle) (range : YearRange) (t : Text) : Set Nat :=
  {position | ∃ day, style.NamesAt range t position day}

variable {style : DateStyle} {range : YearRange} {t : Text}

/-- Where fragments cannot overlap, the scan comes to everything that stands in the text. -/
theorem mem_fragments_of_standsAt (long : style.shape ≠ .short) (range : YearRange)
    {position : Nat} {fields : DateFields} (stands : style.shape.StandsAt t position fields) :
    ⟨position, position + style.shape.width, style.dayOf range fields⟩ ∈
      style.fragments range t :=
  mem_fragments.mpr ⟨position, fields, stands.occursAt long, rfl⟩

theorem find_of_mem_dayPositions (long : style.shape ≠ .short)
    (day : (style.dayPositions range t).Nonempty) :
    ∃ first d, IsLeast (style.dayPositions range t) first ∧ style.NamesAt range t first d ∧
      style.find range t = some ⟨first, first + style.shape.width, some d⟩ := by
  obtain ⟨position, d, fields, stands, named⟩ := day
  have member := mem_fragments_of_standsAt long range stands
  obtain ⟨m, found, isDay, answer, least⟩ := find_of_day member (by simp [FoundDate.isDay, named])
  obtain ⟨first, fields', occurs, rfl⟩ := mem_fragments.mp found
  obtain ⟨d', named'⟩ := Option.isSome_iff_exists.mp isDay
  have here : style.NamesAt range t first d' := ⟨fields', occurs.standsAt, named'⟩
  refine ⟨first, d', ⟨⟨d', here⟩, ?_⟩, here, by rw [answer, ← named']⟩
  rintro other ⟨d₂, fields₂, stands₂, named₂⟩
  exact least _ (mem_fragments_of_standsAt long range stands₂) (by simp [FoundDate.isDay, named₂])

theorem find_of_mem_positions (long : style.shape ≠ .short)
    (malformed : ¬ (style.dayPositions range t).Nonempty)
    (shaped : (style.shape.positions t).Nonempty) :
    ∃ first, IsLeast (style.shape.positions t) first ∧
      style.find range t = some ⟨first, first + style.shape.width, none⟩ := by
  have none_named : ∀ position fields, style.shape.StandsAt t position fields →
      style.dayOf range fields = none := by
    intro position fields stands
    refine Option.eq_none_iff_forall_ne_some.mpr fun d named => malformed ?_
    exact ⟨position, d, fields, stands, named⟩
  obtain ⟨position, fields, stands⟩ := shaped
  have no_day : ∀ m ∈ style.fragments range t, m.isDay = false := by
    intro m member
    obtain ⟨position, fields, occurs, rfl⟩ := mem_fragments.mp member
    simp [FoundDate.isDay, none_named position fields occurs.standsAt]
  obtain ⟨m, found, answer, least⟩ :=
    find_of_malformed no_day (mem_fragments_of_standsAt long range stands)
  obtain ⟨first, fields', occurs, rfl⟩ := mem_fragments.mp found
  refine ⟨first, ⟨⟨fields', occurs.standsAt⟩, ?_⟩, ?_⟩
  · rintro other ⟨fields₂, stands₂⟩
    exact least _ (mem_fragments_of_standsAt long range stands₂)
  · rw [answer, none_named first fields' occurs.standsAt]

/-- A search for a style of another shape than the short one, whatever its century, finds the
leftmost fragment of the text that names an accepted day.  If no fragment does, it reports the
leftmost fragment of the shape as malformed, and if there is none, it finds nothing.  Such
fragments have ten characters, or eight without separators, and none reaches into the next. -/
theorem find_leftmost (long : style.shape ≠ .short) (range : YearRange) (t : Text) :
    ((style.dayPositions range t).Nonempty →
      ∃ first day, IsLeast (style.dayPositions range t) first ∧
        style.NamesAt range t first day ∧
        style.find range t = some ⟨first, first + style.shape.width, some day⟩) ∧
    (¬ (style.dayPositions range t).Nonempty → (style.shape.positions t).Nonempty →
      ∃ first, IsLeast (style.shape.positions t) first ∧
        style.find range t = some ⟨first, first + style.shape.width, none⟩) ∧
    (¬ (style.shape.positions t).Nonempty → style.find range t = none) ∧
    style.shape.width = (if style.shape = .compact then 8 else 10) ∧
    ∀ position ∈ style.shape.positions t, ∀ position' ∈ style.shape.positions t,
      position < position' → position + style.shape.width ≤ position' := by
  refine ⟨find_of_mem_dayPositions long, find_of_mem_positions long,
    fun absent => find_eq_none_iff.mpr fun position fields stands => absent ⟨position, fields, stands⟩,
    ?_, ?_⟩
  · cases shape : style.shape with
    | iso => rfl
    | dayFirst => rfl
    | compact => rfl
    | short => exact absurd shape long
  · rintro position ⟨fields, first⟩ position' ⟨fields', second⟩ before
    exact first.apart long second before

/-- A malformed fragment stands before the day that is found, and another day behind it. -/
theorem find_leftmost_behind_malformed :
    let style : DateStyle := ⟨.dayFirst, 0⟩
    let t := "31.02.2021.08/01/2021 09-01-2021".toList
    let day := "2021-01-08".toList
    style.shape ≠ .short ∧ style.NamesAt {} t 11 day ∧ IsLeast (style.dayPositions {} t) 11 ∧
      style.find {} t = some ⟨11, 11 + 10, some day⟩ := by
  intro style t day
  have long : style.shape ≠ .short := by decide
  have named : style.NamesAt {} t 11 day := by
    refine ⟨⟨2021, 1, 8⟩, ⟨"31.02.2021.".toList, "08/01/2021".toList, " 09-01-2021".toList,
      by decide, rfl, ?_, by decide, by decide⟩, by decide⟩
    exact .dayFirst (s := '/') (d := ['0', '8']) (m := ['0', '1']) (y := ['2', '0', '2', '1'])
      (by decide) ⟨rfl, by decide⟩ ⟨rfl, by decide⟩ ⟨rfl, by decide⟩
  have answer : style.find {} t = some ⟨11, 11 + 10, some day⟩ := by decide +kernel
  obtain ⟨first, day', least, -, found⟩ := (find_leftmost long {} t).1 ⟨11, day, named⟩
  rw [answer] at found
  cases found
  exact ⟨long, named, least, answer⟩

end DateStyle

end ReleaseCatalog.Release
