import ReleaseCatalog.Proofs.Release.DateRecognition

/-!
# A name whose only digits are a date

If a name has no digits but those of a date, no shape fits anywhere else.  A
fragment must begin at a digit, so it begins inside the date, and then its frame
is found among the digits of the date and some places that are none behind it
(`StandsAt.frame_isPrefix_within`).  There are finitely many such places, and
only the shape of the date itself fits, at its beginning (`StandsAt.sole`).  So
a search in the four styles finds the date and nothing else
(`firstDate_eq_of_sole`).
-/

namespace ReleaseCatalog.Release

open Calendar (YearRange)
open Unicode (isDecimal)

/-- A text without decimal digits. -/
def HasNoDigit (t : Text) : Prop := ∀ c ∈ t, isDecimal c = false

namespace DateShape

variable {shape shape' : DateShape} {t before middle date after : Text} {position : Nat}
  {fields fields' : DateFields}

/-! ## Where a fragment can begin -/

/-- A fragment begins with a digit. -/
theorem StandsAt.exists_digit (h : shape.StandsAt t position fields) :
    ∃ c, t[position]? = some c ∧ isDecimal c = true := by
  obtain ⟨before, fragment, after, rfl, rfl, spells, -, -⟩ := h
  obtain ⟨c, rest, rfl, digit⟩ := spells.head_isDecimal
  exact ⟨c, by simp, digit⟩

/-- Between texts without digits, a fragment begins inside what has digits. -/
theorem StandsAt.exists_shift (quiet : HasNoDigit before) (quiet' : HasNoDigit after)
    (h : shape.StandsAt (before ++ middle ++ after) position fields) :
    ∃ shift < middle.length, position = before.length + shift := by
  obtain ⟨c, place, digit⟩ := h.exists_digit
  rw [List.append_assoc] at place
  by_cases early : position < before.length
  · rw [List.getElem?_append_left early] at place
    have := quiet c (List.mem_of_getElem? place)
    rw [digit] at this
    cases this
  · rw [List.getElem?_append_right (by omega)] at place
    by_cases late : position - before.length < middle.length
    · exact ⟨position - before.length, late, by omega⟩
    · rw [List.getElem?_append_right (by omega)] at place
      have := quiet' c (List.mem_of_getElem? place)
      rw [digit] at this
      cases this

/-- The place before a text, its characters and a number of places without a digit behind it. -/
def marksWithin (middle : Text) (behind : Nat) : List Bool :=
  false :: (middle.map isDecimal ++ List.replicate behind false)

theorem marksWithin_isPrefix (middle : Text) (n m : Nat) :
    marksWithin middle n <+: marksWithin middle (n + m) := by
  unfold marksWithin
  rw [← List.replicate_append_replicate, ← List.append_assoc]
  exact (List.prefix_cons_inj _).mpr (List.prefix_append _ _)

theorem map_isDecimal_of_hasNoDigit (quiet : HasNoDigit t) :
    t.map isDecimal = List.replicate t.length false :=
  List.map_eq_replicate_iff.mpr quiet

theorem digitMarks_drop (quiet : HasNoDigit before) (quiet' : HasNoDigit after) :
    (digitMarks (before ++ middle ++ after)).drop before.length =
      marksWithin middle (after.length + 1) := by
  have front : false :: List.replicate before.length false =
      List.replicate before.length false ++ [false] := by
    rw [← List.replicate_succ, List.replicate_succ']
  have whole : digitMarks (before ++ middle ++ after) =
      List.replicate before.length false ++ marksWithin middle (after.length + 1) := by
    unfold digitMarks marksWithin
    rw [List.map_append, List.map_append, map_isDecimal_of_hasNoDigit quiet,
      map_isDecimal_of_hasNoDigit quiet', List.append_assoc, List.append_assoc,
      ← List.replicate_succ', ← List.cons_append, front, List.append_assoc,
      List.singleton_append]
  rw [whole]
  exact List.drop_left' List.length_replicate

theorem length_frame_le (shape : DateShape) : shape.frame.length ≤ 12 := by
  cases shape <;> decide

/-- The frame of a fragment is found among the digits of what has digits, with
twelve places behind it, whatever follows. -/
theorem StandsAt.frame_isPrefix_within (quiet : HasNoDigit before) (quiet' : HasNoDigit after)
    (h : shape.StandsAt (before ++ middle ++ after) position fields) :
    ∃ shift < middle.length, position = before.length + shift ∧
      shape.frame <+: (marksWithin middle 12).drop shift := by
  obtain ⟨shift, inside, rfl⟩ := h.exists_shift quiet quiet'
  refine ⟨shift, inside, rfl, ?_⟩
  have found := h.frame_isPrefix
  rw [← List.drop_drop, digitMarks_drop quiet quiet'] at found
  have found' : shape.frame <+: (marksWithin middle (after.length + 1 + 12)).drop shift :=
    found.trans ((marksWithin_isPrefix _ _ _).drop shift)
  have padded : (marksWithin middle 12).drop shift <+:
      (marksWithin middle (after.length + 1 + 12)).drop shift := by
    rw [Nat.add_comm]
    exact (marksWithin_isPrefix _ _ _).drop shift
  refine List.prefix_of_prefix_length_le found' padded ?_
  have short := shape.length_frame_le
  simp only [marksWithin, List.length_drop, List.length_cons, List.length_append,
    List.length_map, List.length_replicate]
  omega

/-! ## The only fragment -/

/-- Fragments of one shape at one position spell the same numbers. -/
theorem StandsAt.fields_unique (h : shape.StandsAt t position fields)
    (h' : shape.StandsAt t position fields') : fields = fields' := by
  obtain ⟨before, fragment, after, rfl, rfl, stands⟩ := h
  obtain ⟨before', fragment', after', split, place, stands'⟩ := h'
  rw [List.append_assoc, List.append_assoc] at split
  have rest := List.append_inj_right split place.symm
  have same : fragment = fragment' :=
    List.append_inj_left rest (stands.spells.length_eq.trans stands'.spells.length_eq.symm)
  subst same
  exact stands.spells.unique stands'.spells

/-- In a name whose only digits are a date, a fragment is the date. -/
theorem StandsAt.sole (spells : shape.Spells date fields) (quiet : HasNoDigit before)
    (quiet' : HasNoDigit after)
    (h : shape'.StandsAt (before ++ date ++ after) position fields') :
    shape' = shape ∧ position = before.length := by
  obtain ⟨shift, inside, rfl, found⟩ := h.frame_isPrefix_within quiet quiet'
  rw [spells.length_eq] at inside
  rw [marksWithin, spells.map_isDecimal] at found
  have frames : ∀ shift < shape.width,
      shape'.frame <+: (false :: (shape.profile ++ List.replicate 12 false)).drop shift →
        shape' = shape ∧ shift = 0 := by
    cases shape <;> cases shape' <;> decide
  obtain ⟨rfl, rfl⟩ := frames shift inside found
  exact ⟨rfl, rfl⟩

theorem stands_of_hasNoDigit (spells : shape.Spells date fields) (quiet : HasNoDigit before)
    (quiet' : HasNoDigit after) : shape.Stands before date after fields := by
  refine ⟨spells, ?_, ?_⟩
  · cases last : before.getLast? with
    | none => rfl
    | some c => exact quiet c (List.mem_of_getLast? last)
  · cases first : after.head? with
    | none => rfl
    | some c => exact quiet' c (List.mem_of_head? first)

/-- The scan for its shape comes to the date. -/
theorem occursAt_of_sole (spells : shape.Spells date fields) (quiet : HasNoDigit before)
    (quiet' : HasNoDigit after) :
    shape.OccursAt (before ++ date ++ after) before.length fields := by
  have stands := (stands_of_hasNoDigit spells quiet quiet').standsAt
  cases stands.occursAt_or_crossed with
  | inl occurs => exact occurs
  | inr crossed =>
      obtain ⟨earlier, shift, fields', place, positive, -, occurs⟩ := crossed
      have := (occurs.standsAt.sole spells quiet quiet').2
      omega

end DateShape

/-! ## What a search finds -/

/-- Of fragments that are all the same, that one is taken. -/
theorem find_or_head_eq {found : List FoundDate} {m : FoundDate} (nonempty : found ≠ [])
    (same : ∀ x ∈ found, x = m) : (found.find? FoundDate.isDay).or found.head? = some m := by
  cases h : (found.find? FoundDate.isDay).or found.head? with
  | some x => rw [same x (mem_of_find_or_head h)]
  | none => exact absurd (List.head?_eq_none_iff.mp (Option.or_eq_none_iff.mp h).2) nonempty

variable {shape : DateShape} {before date after : Text} {fields : DateFields}

/-- A scan comes to the date if the style has its shape, and to nothing else. -/
theorem DateStyle.mem_fragments_of_sole (spells : shape.Spells date fields)
    (quiet : HasNoDigit before) (quiet' : HasNoDigit after) {style : DateStyle}
    (range : YearRange) {m : FoundDate} :
    m ∈ style.fragments range (before ++ date ++ after) ↔
      style.shape = shape ∧
        m = ⟨before.length, before.length + date.length, style.dayOf range fields⟩ := by
  rw [mem_fragments, spells.length_eq]
  have date_occurs := DateShape.occursAt_of_sole spells quiet quiet'
  constructor
  · rintro ⟨position, fields', occurs, rfl⟩
    obtain ⟨same, rfl⟩ := occurs.standsAt.sole spells quiet quiet'
    rw [same] at occurs ⊢
    rw [occurs.standsAt.fields_unique date_occurs.standsAt]
    exact ⟨rfl, rfl⟩
  · rintro ⟨rfl, rfl⟩
    exact ⟨before.length, fields, date_occurs, rfl⟩

/-- In a name whose only digits are a date, a search for a style of its shape finds the date. -/
theorem DateStyle.find_eq_of_sole {style : DateStyle} (spells : style.shape.Spells date fields)
    (quiet : HasNoDigit before) (quiet' : HasNoDigit after) (range : YearRange) :
    style.find range (before ++ date ++ after) =
      some ⟨before.length, before.length + date.length, style.dayOf range fields⟩ := by
  have date_found := (mem_fragments_of_sole spells quiet quiet' range).mpr ⟨rfl, rfl⟩
  exact find_or_head_eq (List.ne_nil_of_mem date_found) fun m member =>
    ((mem_fragments_of_sole spells quiet quiet' range).mp member).2

/-- In a fragment that is the whole text, a search for a style of its shape finds the fragment. -/
theorem DateStyle.find_fragment {style : DateStyle} (spells : style.shape.Spells date fields)
    (range : YearRange) :
    style.find range date = some ⟨0, date.length, style.dayOf range fields⟩ := by
  have quiet : HasNoDigit [] := by simp [HasNoDigit]
  simpa using find_eq_of_sole spells quiet quiet range

/-- In a name whose only digits are a date, a search in the four styles finds the date. -/
theorem firstDate_eq_of_sole (spells : shape.Spells date fields) (quiet : HasNoDigit before)
    (quiet' : HasNoDigit after) (range : YearRange) :
    firstDate defaultStyles range (before ++ date ++ after) =
      some ⟨before.length, before.length + date.length, shape.style.dayOf range fields⟩ := by
  have own : shape.style.shape.Spells date fields := by rwa [DateShape.shape_style]
  have found := DateStyle.find_eq_of_sole own quiet quiet' range
  have default : shape.style ∈ defaultStyles := DateShape.mem_defaultStyles.mpr ⟨shape, rfl⟩
  refine find_or_head_eq ?_ fun m member => ?_
  · exact List.ne_nil_of_mem (List.mem_filterMap.mpr ⟨shape.style, default, found⟩)
  · obtain ⟨style, hs, found'⟩ := List.mem_filterMap.mp member
    obtain ⟨shape', rfl⟩ := DateShape.mem_defaultStyles.mp hs
    obtain ⟨same, rfl⟩ :=
      (DateStyle.mem_fragments_of_sole spells quiet quiet' range).mp (mem_of_find_or_head found')
    rw [DateShape.shape_style] at same
    rw [same]

end ReleaseCatalog.Release
