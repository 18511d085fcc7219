import ReleaseCatalog.Proofs.Release.DateFragment

/-!
# When a date is recognised

A search recognises a date if one of the fragments that its scan comes to names
a day.  In the shapes whose fragments cannot overlap the scan comes to every
fragment.  In the short shape it passes over a fragment that begins inside one
it has come to, whether or not that one names a day.  Such a fragment is
*covered*.

`firstDate_isDay_iff` is the exact condition: a search in the four styles
recognises a date if and only if some fragment names a day in the accepted years
and is not a covered fragment of the short shape.  `covered_day_missed` shows a
name with a good date that is missed because a number stands just before it.
-/

namespace ReleaseCatalog.Release

open Calendar (YearRange normalizeDay)

/-! ## Covered fragments -/

/-- At a position of a text, a fragment of the short shape is covered: one that
is not covered itself begins three or six characters before it. -/
def Covered (t : Text) : Nat → Prop
  | n + 6 =>
      ((∃ fields, DateShape.short.StandsAt t (n + 3) fields) ∧ ¬ Covered t (n + 3)) ∨
        ((∃ fields, DateShape.short.StandsAt t n fields) ∧ ¬ Covered t n)
  | n + 3 => (∃ fields, DateShape.short.StandsAt t n fields) ∧ ¬ Covered t n
  | _ => False

theorem covered_add_three {t : Text} {n : Nat}
    (stands : ∃ fields, DateShape.short.StandsAt t n fields) (free : ¬ Covered t n) :
    Covered t (n + 3) := by
  match n with
  | 0 | 1 | 2 => exact ⟨stands, free⟩
  | n + 3 => exact .inl ⟨stands, free⟩

theorem covered_add_six {t : Text} {n : Nat}
    (stands : ∃ fields, DateShape.short.StandsAt t n fields) (free : ¬ Covered t n) :
    Covered t (n + 6) := .inr ⟨stands, free⟩

theorem exists_of_covered {t : Text} {n : Nat} (h : Covered t n) :
    ∃ m shift, n = m + shift ∧ (shift = 3 ∨ shift = 6) ∧
      (∃ fields, DateShape.short.StandsAt t m fields) ∧ ¬ Covered t m := by
  match n with
  | 0 | 1 | 2 => exact h.elim
  | 3 | 4 | 5 => exact ⟨_, 3, rfl, .inl rfl, h⟩
  | n + 6 =>
      cases h with
      | inl h => exact ⟨n + 3, 3, rfl, .inl rfl, h⟩
      | inr h => exact ⟨n, 6, rfl, .inr rfl, h⟩

/-! ## Which fragments a scan comes to -/

namespace DateShape

/-- A scan comes to a fragment of a shape at a position. -/
def OccursAt (shape : DateShape) (t : Text) (position : Nat) (fields : DateFields) : Prop :=
  ∃ o ∈ shape.finder.occurrences t, o.before.length = position ∧ o.value = fields

theorem OccursAt.standsAt {shape : DateShape} {t : Text} {position : Nat} {fields : DateFields}
    (h : shape.OccursAt t position fields) : shape.StandsAt t position fields := by
  obtain ⟨o, member, rfl, rfl⟩ := h
  exact ⟨o.before, o.fragment, o.after, (Finder.split_of_mem_occurrences member).symm, rfl,
    stands_of_mem_occurrences member⟩

/-- A fragment occurs unless one that occurs begins before it and reaches into it. -/
theorem StandsAt.occursAt_or_crossed {shape : DateShape} {t : Text} {position : Nat}
    {fields : DateFields} (h : shape.StandsAt t position fields) :
    shape.OccursAt t position fields ∨
      ∃ earlier shift fields', position = earlier + shift ∧ 0 < shift ∧ shift < shape.width ∧
        shape.OccursAt t earlier fields' := by
  obtain ⟨before, fragment, after, rfl, rfl, stands⟩ := h
  cases stands.mem_or_crossed with
  | inl member => exact .inl ⟨_, member, rfl, rfl⟩
  | inr crossed =>
      obtain ⟨o, member, starts, ends⟩ := crossed
      exact .inr ⟨o.before.length, before.length - o.before.length, o.value, by omega, by omega,
        by omega, o, member, rfl, rfl⟩

/-- Two fragments that a scan comes to do not overlap. -/
theorem OccursAt.not_overlapping {shape : DateShape} {t : Text} {position shift : Nat}
    {fields fields' : DateFields} (first : shape.OccursAt t position fields)
    (second : shape.OccursAt t (position + shift) fields') (positive : 0 < shift) :
    shape.width ≤ shift := by
  obtain ⟨o, member, rfl, rfl⟩ := first
  obtain ⟨o', member', place, rfl⟩ := second
  have ends := Finder.ends_before member member' (by omega)
  rw [(stands_of_mem_occurrences member).spells.length_eq] at ends
  omega

/-- Where the fragments of a shape cannot overlap, each one occurs. -/
theorem StandsAt.occursAt {shape : DateShape} {t : Text} {position : Nat} {fields : DateFields}
    (h : shape.StandsAt t position fields) (long : shape ≠ .short) :
    shape.OccursAt t position fields := by
  cases h.occursAt_or_crossed with
  | inl occurs => exact occurs
  | inr crossed =>
      obtain ⟨earlier, shift, fields', rfl, positive, inside, occurs⟩ := crossed
      exact absurd (overlap occurs.standsAt h positive inside).1 long

/-- The induction is on the position: what a scan comes to is decided by the
fragments three and six characters before. -/
theorem short_occursAt_iff {t : Text} (position : Nat) : ∀ {fields : DateFields},
    short.OccursAt t position fields ↔
      short.StandsAt t position fields ∧ ¬ Covered t position := by
  induction position using Nat.strongRecOn with
  | _ position ih =>
      intro fields
      constructor
      · intro occurs
        refine ⟨occurs.standsAt, fun covered => ?_⟩
        obtain ⟨earlier, shift, rfl, near, ⟨fields', stands⟩, free⟩ := exists_of_covered covered
        have positive : 0 < shift := by omega
        have first := (ih earlier (by omega)).mpr ⟨stands, free⟩
        have apart : 8 ≤ shift := first.not_overlapping occurs positive
        omega
      · rintro ⟨stands, free⟩
        cases stands.occursAt_or_crossed with
        | inl occurs => exact occurs
        | inr crossed =>
            obtain ⟨earlier, shift, fields', rfl, positive, inside, occurs⟩ := crossed
            have first := (ih earlier (by omega)).mp occurs
            refine absurd ?_ free
            cases (overlap first.1 stands positive inside).2 with
            | inl three => subst three; exact covered_add_three ⟨fields', first.1⟩ first.2
            | inr six => subst six; exact covered_add_six ⟨fields', first.1⟩ first.2

/-- A scan comes to every fragment but the covered ones of the short shape. -/
theorem occursAt_iff {shape : DateShape} {t : Text} {position : Nat} {fields : DateFields} :
    shape.OccursAt t position fields ↔
      shape.StandsAt t position fields ∧ (shape = .short → ¬ Covered t position) := by
  by_cases short : shape = .short
  · subst short
    rw [short_occursAt_iff]
    exact ⟨fun h => ⟨h.1, fun _ => h.2⟩, fun h => ⟨h.1, h.2 rfl⟩⟩
  · exact ⟨fun h => ⟨h.standsAt, fun h' => absurd h' short⟩, fun h => h.1.occursAt short⟩

@[simp] theorem shape_style (shape : DateShape) : shape.style.shape = shape := by
  cases shape <;> rfl

theorem mem_defaultStyles {style : DateStyle} :
    style ∈ defaultStyles ↔ ∃ shape : DateShape, shape.style = style := by
  constructor
  · intro h
    obtain ⟨shape, -, same⟩ := List.mem_map.mp h
    exact ⟨shape, same⟩
  · rintro ⟨shape, rfl⟩
    cases shape <;> decide

end DateShape

/-! ## When a search recognises a date -/

theorem mem_of_find_or_head {found : List FoundDate} {m : FoundDate}
    (h : (found.find? FoundDate.isDay).or found.head? = some m) : m ∈ found := by
  cases hf : found.find? FoundDate.isDay with
  | some m' =>
      rw [hf, Option.some_or] at h
      rw [← Option.some.inj h]
      exact List.mem_of_find?_eq_some hf
  | none =>
      rw [hf, Option.none_or] at h
      exact List.mem_of_mem_head? h

/-- A day is taken exactly if it is the first one. -/
theorem find_or_head_eq_some_iff {found : List FoundDate} {m : FoundDate} (day : m.isDay = true) :
    (found.find? FoundDate.isDay).or found.head? = some m ↔
      found.find? FoundDate.isDay = some m := by
  constructor
  · intro h
    cases hf : found.find? FoundDate.isDay with
    | some m' => rwa [hf, Option.some_or] at h
    | none => exact absurd day (List.find?_eq_none.mp hf m (mem_of_find_or_head h))
  · intro h
    rw [h, Option.some_or]

theorem find_or_head_eq_none_iff {found : List FoundDate} :
    (found.find? FoundDate.isDay).or found.head? = none ↔ found = [] := by
  rw [Option.or_eq_none_iff, List.head?_eq_none_iff]
  constructor
  · exact And.right
  · rintro rfl
    exact ⟨rfl, rfl⟩

theorem DateShape.occurrences_eq_nil_iff {shape : DateShape} {t : Text} :
    shape.finder.occurrences t = [] ↔ ∀ position fields, ¬ shape.StandsAt t position fields := by
  constructor
  · intro none position fields stands
    have absent : ∀ {position fields}, ¬ shape.OccursAt t position fields := by
      rintro position fields ⟨o, member, -, -⟩
      rw [none] at member
      cases member
    rcases stands.occursAt_or_crossed with occurs | ⟨_, _, _, -, -, -, occurs⟩
    · exact absent occurs
    · exact absent occurs
  · intro absent
    refine List.eq_nil_iff_forall_not_mem.mpr fun o member => ?_
    exact absent _ _ (DateShape.OccursAt.standsAt ⟨o, member, rfl, rfl⟩)

/-- A search for a style finds nothing exactly if no fragment has its shape. -/
theorem DateStyle.find_eq_none_iff {style : DateStyle} {range : YearRange} {t : Text} :
    style.find range t = none ↔ ∀ position fields, ¬ style.shape.StandsAt t position fields := by
  unfold DateStyle.find DateStyle.fragments
  rw [find_or_head_eq_none_iff, List.map_eq_nil_iff, DateShape.occurrences_eq_nil_iff]

/-- The fragments of a scan are where the scan comes to one, with the day that it names. -/
theorem DateStyle.mem_fragments {style : DateStyle} {range : YearRange} {t : Text}
    {m : FoundDate} :
    m ∈ style.fragments range t ↔ ∃ position fields, style.shape.OccursAt t position fields ∧
      m = ⟨position, position + style.shape.width, style.dayOf range fields⟩ := by
  unfold fragments
  rw [List.mem_map]
  constructor
  · rintro ⟨o, member, rfl⟩
    refine ⟨_, _, ⟨o, member, rfl, rfl⟩, ?_⟩
    rw [(DateShape.stands_of_mem_occurrences member).spells.length_eq]
  · rintro ⟨_, _, ⟨o, member, rfl, rfl⟩, rfl⟩
    refine ⟨o, member, ?_⟩
    rw [(DateShape.stands_of_mem_occurrences member).spells.length_eq]

/-- What a search reports occurs in the shape of one of its styles. -/
theorem exists_occurrence_of_firstDate {styles : List DateStyle} {range : YearRange} {t : Text}
    {m : FoundDate} (h : firstDate styles range t = some m) :
    ∃ style ∈ styles, ∃ o ∈ style.shape.finder.occurrences t,
      m = ⟨o.before.length, o.before.length + o.fragment.length, style.dayOf range o.value⟩ := by
  obtain ⟨style, hs, found⟩ := List.mem_filterMap.mp (mem_of_find_or_head h)
  obtain ⟨o, ho, same⟩ := List.mem_map.mp (mem_of_find_or_head found)
  exact ⟨style, hs, o, ho, same.symm⟩

/-- A day is taken before a malformed fragment, wherever it is in the list. -/
theorem exists_isDay_iff {found : List FoundDate} :
    (∃ m, (found.find? FoundDate.isDay).or found.head? = some m ∧ m.isDay = true) ↔
      ∃ m ∈ found, m.isDay = true := by
  constructor
  · rintro ⟨m, h, day⟩
    exact ⟨m, mem_of_find_or_head h, day⟩
  · rintro ⟨m, member, day⟩
    cases hf : found.find? FoundDate.isDay with
    | some m' => exact ⟨m', rfl, List.find?_some hf⟩
    | none => exact absurd day (List.find?_eq_none.mp hf m member)

theorem DateStyle.find_isDay_iff {style : DateStyle} {range : YearRange} {t : Text} :
    (∃ m, style.find range t = some m ∧ m.isDay = true) ↔
      ∃ position fields, style.shape.OccursAt t position fields ∧
        (style.dayOf range fields).isSome = true := by
  unfold DateStyle.find
  rw [exists_isDay_iff]
  constructor
  · rintro ⟨m, member, day⟩
    obtain ⟨position, fields, occurs, rfl⟩ := mem_fragments.mp member
    exact ⟨position, fields, occurs, day⟩
  · rintro ⟨position, fields, occurs, day⟩
    exact ⟨_, mem_fragments.mpr ⟨position, fields, occurs, rfl⟩, day⟩

theorem firstDate_isDay_iff_exists_style {styles : List DateStyle} {range : YearRange} {t : Text} :
    (∃ m, firstDate styles range t = some m ∧ m.isDay = true) ↔
      ∃ style ∈ styles, ∃ m, style.find range t = some m ∧ m.isDay = true := by
  unfold firstDate
  rw [exists_isDay_iff]
  constructor
  · rintro ⟨m, member, day⟩
    obtain ⟨style, hs, found⟩ := List.mem_filterMap.mp member
    exact ⟨style, hs, m, found, day⟩
  · rintro ⟨style, hs, m, found, day⟩
    exact ⟨m, List.mem_filterMap.mpr ⟨style, hs, found⟩, day⟩

/-- A search in the four styles recognises a date if and only if a fragment of
one of the shapes names a day in the accepted years and is not a covered
fragment of the short shape. -/
theorem firstDate_isDay_iff (range : YearRange) (t : Text) :
    (∃ m, firstDate defaultStyles range t = some m ∧ m.isDay = true) ↔
      ∃ (shape : DateShape) (position : Nat) (fields : DateFields),
        shape.StandsAt t position fields ∧
        (normalizeDay range (fields.year + shape.style.century) fields.month
          fields.day).isSome = true ∧
        (shape = .short → ¬ Covered t position) := by
  rw [firstDate_isDay_iff_exists_style]
  constructor
  · rintro ⟨style, hs, found⟩
    obtain ⟨shape, rfl⟩ := DateShape.mem_defaultStyles.mp hs
    obtain ⟨position, fields, occurs, day⟩ := DateStyle.find_isDay_iff.mp found
    rw [DateShape.shape_style] at occurs
    obtain ⟨stands, free⟩ := DateShape.occursAt_iff.mp occurs
    exact ⟨shape, position, fields, stands, day, free⟩
  · rintro ⟨shape, position, fields, stands, day, free⟩
    refine ⟨shape.style, DateShape.mem_defaultStyles.mpr ⟨shape, rfl⟩,
      DateStyle.find_isDay_iff.mpr ⟨position, fields, ?_, day⟩⟩
    rw [DateShape.shape_style]
    exact DateShape.occursAt_iff.mpr ⟨stands, free⟩

/-- The number 99 hides the date 21.01.08 behind it, since the scan reads 99.21.01 first. -/
theorem covered_day_missed :
    (∃ position fields,
        DateShape.short.StandsAt "Studio.99.21.01.08.Title".toList position fields ∧
        (normalizeDay {} (fields.year + DateShape.short.style.century) fields.month
          fields.day).isSome = true) ∧
      ¬ ∃ m, firstDate defaultStyles {} "Studio.99.21.01.08.Title".toList = some m ∧
        m.isDay = true := by
  constructor
  · refine ⟨10, ⟨21, 1, 8⟩, ⟨"Studio.99.".toList, "21.01.08".toList, ".Title".toList, by decide,
      rfl, ?_, by decide, by decide⟩, by decide⟩
    exact .short (s := '.') (y := ['2', '1']) (m := ['0', '1']) (d := ['0', '8']) (by decide)
      ⟨rfl, by decide⟩ ⟨rfl, by decide⟩ ⟨rfl, by decide⟩
  · have missed : firstDate defaultStyles {} "Studio.99.21.01.08.Title".toList
        = some ⟨7, 15, none⟩ := by decide +kernel
    rintro ⟨m, found, day⟩
    rw [missed] at found
    cases found
    cases day

end ReleaseCatalog.Release
