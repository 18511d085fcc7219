import ReleaseCatalog.Proofs.Release.TagFragment
import ReleaseCatalog.Release.TechnicalTail

/-!
# Every tag of a text is scanned

Some tags have separators inside, so two tags might share characters.  They do not: no tag
begins behind a separator of another one, and no tag begins with another one and goes on with
a separator.  Both are decided on the forms of the tags (`forms_apart`).  So of two tags that
stand in a text one ends before the other begins, if they are not the same
(`TagStands.eq_or_apart`).

Hence a scan passes over no tag.  Its occurrences are exactly the tags that stand in the text
(`ReadsTags.mem_occurrences_iff`), and what is left without them are the characters that no
tag covers (`isOnlyTags_iff`).

A tag begins and ends with no separator.  So a part of a text with a separator at its end has
the tags that it has in the text (`TagStands.extend_after`, `TagStands.extend_before`), and of two
parts with a tag between them it is enough to know the tags of each.
-/

namespace ReleaseCatalog.Release

open Reader (Local Reads)

/-! ## Tags that share characters -/

/-- One of two texts begins with the other, and there ends or goes on with a separator. -/
def MeetAtGap (x y : Text) : Prop :=
  (x <+: y ∧ isTagBoundary (y.drop x.length).head? = true) ∨
    (y <+: x ∧ isTagBoundary (x.drop y.length).head? = true)

instance (x y : Text) : Decidable (MeetAtGap x y) := by unfold MeetAtGap; infer_instance

theorem meetAtGap_append {x rest : Text} (closes : isTagBoundary rest.head? = true) :
    MeetAtGap x (x ++ rest) :=
  .inl ⟨List.prefix_append .., by rwa [List.drop_left]⟩

theorem MeetAtGap.symm {x y : Text} (h : MeetAtGap x y) : MeetAtGap y x := Or.symm h

theorem isTagBoundary_map (c : Option Char) : isTagBoundary (c.map tagForm) = isTagBoundary c := by
  cases c with
  | none => rfl
  | some c => exact isSeparator_tagForm c

theorem MeetAtGap.map {x y : Text} (h : MeetAtGap x y) :
    MeetAtGap (x.map tagForm) (y.map tagForm) := by
  have side : ∀ {x y : Text}, x <+: y ∧ isTagBoundary (y.drop x.length).head? = true →
      x.map tagForm <+: y.map tagForm ∧
        isTagBoundary ((y.map tagForm).drop (x.map tagForm).length).head? = true := by
    rintro x y ⟨begins, closes⟩
    refine ⟨begins.map tagForm, ?_⟩
    rwa [List.length_map, ← List.map_drop, List.head?_map, isTagBoundary_map]
  exact h.imp side side

/-- A tag meets no other one at its beginning, and none at all behind a separator in it. -/
theorem forms_apart : ∀ a ∈ tagForms, ∀ n < a.length, isTagBoundary (a.take n).getLast? = true →
    ∀ b ∈ tagForms, MeetAtGap (a.drop n) b → n = 0 ∧ a.length = b.length := by
  decide +kernel

variable {tag : Reader} {t before fragment after before' fragment' after' : Text}

/-- Two tags of a text are the same if one begins in the other. -/
theorem TagStands.eq_of_overlap (first : TagStands technicalTag before fragment after)
    (second : TagStands technicalTag before' fragment' after')
    (split : before ++ (fragment ++ after) = before' ++ (fragment' ++ after'))
    (starts : before.length ≤ before'.length)
    (inside : before'.length < before.length + fragment.length) :
    before = before' ∧ fragment = fragment' := by
  obtain ⟨u, rfl⟩ : before <+: before' :=
    List.prefix_of_prefix_length_le ⟨_, split⟩ (List.prefix_append ..) starts
  rw [List.append_assoc] at split
  have split' := List.append_cancel_left split
  rw [List.length_append] at inside
  obtain ⟨v, rfl⟩ : u <+: fragment :=
    List.prefix_of_prefix_length_le ⟨_, split'.symm⟩ (List.prefix_append ..) (by omega)
  rw [List.append_assoc] at split'
  have meets : MeetAtGap v fragment' := by
    rcases List.append_eq_append_iff.mp (List.append_cancel_left split') with
      ⟨w, rfl, rfl⟩ | ⟨w, rfl, rfl⟩
    · exact meetAtGap_append (isTagBoundary_head_of_append first.closes)
    · exact (meetAtGap_append (isTagBoundary_head_of_append second.closes)).symm
  have opens : isTagBoundary u.getLast? = true := isTagBoundary_last_of_append second.opens
  have short : u.length < (u ++ v).length := by omega
  obtain ⟨none, long⟩ := forms_apart _ (hasForms_technicalTag.mem_forms _ first.reads) u.length
    (by rwa [List.length_map])
    (by rwa [← List.map_take, List.take_left, List.getLast?_map, isTagBoundary_map]) _
    (hasForms_technicalTag.mem_forms _ second.reads)
    (by rw [← List.map_drop, List.drop_left]; exact meets.map)
  obtain rfl := List.length_eq_zero_iff.mp none
  rw [List.length_map, List.length_map] at long
  exact ⟨(List.append_nil _).symm, List.append_inj_left split' long⟩

/-- Of two tags that stand in a text one ends before the other begins, if they are not the
same. -/
theorem TagStands.eq_or_apart (first : TagStands technicalTag before fragment after)
    (second : TagStands technicalTag before' fragment' after')
    (split : before ++ (fragment ++ after) = before' ++ (fragment' ++ after')) :
    before = before' ∧ fragment = fragment' ∨
      (∃ back, before' = before ++ fragment ++ back ∧ after = back ++ (fragment' ++ after')) ∨
      ∃ back, before = before' ++ fragment' ++ back ∧ after' = back ++ (fragment ++ after) := by
  have behind : ∀ {x y z x' rest : Text}, x ++ (y ++ z) = x' ++ rest →
      x.length + y.length ≤ x'.length → ∃ back, x' = x ++ y ++ back ∧ z = back ++ rest := by
    intro x y z x' rest split far
    rw [← List.append_assoc] at split
    obtain ⟨back, rfl⟩ : x ++ y <+: x' :=
      List.prefix_of_prefix_length_le ⟨_, split⟩ (List.prefix_append ..) (by simpa using far)
    rw [List.append_assoc (x ++ y)] at split
    exact ⟨back, rfl, List.append_cancel_left split⟩
  rcases Nat.lt_or_ge before'.length (before.length + fragment.length) with inside | far
  · rcases Nat.lt_or_ge before.length (before'.length + fragment'.length) with inside' | far
    · rcases Nat.le_total before.length before'.length with le | le
      · exact .inl (first.eq_of_overlap second split le inside)
      · obtain ⟨rfl, rfl⟩ := second.eq_of_overlap first split.symm le inside'
        exact .inl ⟨rfl, rfl⟩
    · exact .inr (.inr (behind split.symm far))
  · exact .inr (.inl (behind split far))

/-! ## Scanning for tags -/

/-- A reader reads nothing but technical tags. -/
structure ReadsTags (tag : Reader) : Prop where
  isLocal : Local tag
  technical : ∀ {fragment : Text}, tag.Reads fragment → technicalTag.Reads fragment

theorem reads_technicalTag :
    technicalTag.Reads fragment ↔ qualityTag.Reads fragment ∨ releaseFlag.Reads fragment := by
  unfold technicalTag
  simp [Reader.reads_choice]

theorem readsTags_technicalTag : ReadsTags technicalTag := ⟨hasForms_technicalTag.isLocal, id⟩

theorem readsTags_qualityTag : ReadsTags qualityTag :=
  ⟨hasForms_qualityTag.isLocal, fun reads => reads_technicalTag.mpr (.inl reads)⟩

theorem ReadsTags.stands (h : ReadsTags tag) (stands : TagStands tag before fragment after) :
    TagStands technicalTag before fragment after :=
  ⟨h.technical stands.reads, stands.opens, stands.closes⟩

theorem ReadsTags.solid (h : ReadsTags tag) : ¬ tag.Reads [] :=
  fun reads => not_reads_nil (h.technical reads)

theorem ReadsTags.length_pos (h : ReadsTags tag) (reads : tag.Reads fragment) :
    0 < fragment.length :=
  List.length_pos_of_ne_nil fun empty => h.solid (empty ▸ reads)

theorem ReadsTags.length_before_lt (h : ReadsTags tag) (reads : tag.Reads fragment)
    (before after : Text) : before.length < (before ++ fragment ++ after).length := by
  have long := h.length_pos reads
  simp only [List.length_append]
  omega

/-- The occurrences of a tag are the places where it stands. -/
theorem ReadsTags.mem_occurrences_iff (h : ReadsTags tag) {o : Occurrence Unit} :
    o ∈ (boundedTag tag).occurrences t ↔
      t = o.before ++ o.fragment ++ o.after ∧ TagStands tag o.before o.fragment o.after := by
  constructor
  · intro member
    exact ⟨(Finder.split_of_mem_occurrences member).symm,
      tagStands_of_mem_occurrences h.isLocal member⟩
  · obtain ⟨before, fragment, after, ⟨⟩⟩ := o
    rintro ⟨rfl, stands⟩
    have long := h.length_pos stands.reads
    obtain ⟨read, rest, split, -, stands', found⟩ := stands.exists_found h.isLocal h.solid
    obtain ⟨-, rfl⟩ := (h.stands stands).eq_of_overlap (h.stands stands')
      (congrArg (before ++ ·) split) (Nat.le_refl _) (Nat.lt_add_of_pos_right long)
    obtain ⟨length, measure⟩ := Nat.exists_eq_add_one_of_ne_zero (Nat.ne_of_gt long)
    have nonempty : fragment ++ after ≠ [] :=
      List.append_ne_nil_of_left_ne_nil (List.ne_nil_of_length_pos long) _
    rw [measure] at found
    rw [List.append_assoc]
    rcases Finder.mem_occurrences_or_crossed found nonempty with member | ⟨o, member, starts, ends⟩
    · rwa [← measure, List.take_left, List.drop_left] at member
    · have standing := tagStands_of_mem_occurrences h.isLocal member
      have split' := Finder.split_of_mem_occurrences member
      rw [List.append_assoc] at split'
      obtain ⟨same, -⟩ := (h.stands standing).eq_of_overlap (h.stands stands) split'
        (Nat.le_of_lt starts) ends
      rw [same] at starts
      exact absurd starts (Nat.lt_irrefl _)

theorem ReadsTags.mem_occurrences (h : ReadsTags tag) (split : t = before ++ fragment ++ after)
    (stands : TagStands tag before fragment after) :
    ⟨before, fragment, after, ()⟩ ∈ (boundedTag tag).occurrences t :=
  h.mem_occurrences_iff.mpr ⟨split, stands⟩

/-! ## What is left without the tags -/

/-- Every character of a text other than a separator belongs to a technical tag of the text. -/
def HasOnlyTags (t : Text) : Prop :=
  ∀ front c back, t = front ++ c :: back → isSeparator c = false →
    ∃ before x y after, front = before ++ x ∧ back = y ++ after ∧
      TagStands technicalTag before (x ++ c :: y) after

theorem isOnlyTags_iff : isOnlyTags t = true ↔ HasOnlyTags t := by
  unfold isOnlyTags
  rw [Finder.all_replaceAll_iff fun _ _ => by decide]
  constructor
  · intro covered front c back split other
    obtain ⟨o, member, starts, ends⟩ := covered front c back split other
    obtain ⟨split', stands⟩ := readsTags_technicalTag.mem_occurrences_iff.mp member
    rcases Text.place_cases (split.symm.trans split') with ⟨rest, rfl, -⟩ | ⟨rest, -, before⟩ |
      ⟨x, y, fragment, rfl, rfl⟩
    · simp only [List.length_append] at ends
      omega
    · rw [before, List.length_append, List.length_cons] at starts
      omega
    · rw [fragment] at stands
      exact ⟨o.before, x, y, o.after, rfl, rfl, stands⟩
  · intro only front c back split other
    obtain ⟨before, x, y, after, rfl, rfl, stands⟩ := only front c back split other
    refine ⟨⟨before, x ++ c :: y, after, ()⟩, ?_, ?_, ?_⟩
    · exact readsTags_technicalTag.mem_occurrences_iff.mpr ⟨by simp [split], stands⟩
    · show before.length ≤ (before ++ x).length
      simp
    · show (before ++ x).length < before.length + (x ++ c :: y).length
      simp

/-! ## Tags in parts of a text -/

/-- A tag of a text stands in every part of the text that begins where it did. -/
theorem TagStands.cut_after {rest : Text} (stands : TagStands tag before fragment (after ++ rest)) :
    TagStands tag before fragment after :=
  ⟨stands.reads, stands.opens, isTagBoundary_head_of_append stands.closes⟩

/-- A tag of a text stands in every part of the text that ends where it did. -/
theorem TagStands.cut_before {front : Text}
    (stands : TagStands tag (front ++ before) fragment after) :
    TagStands tag before fragment after :=
  ⟨stands.reads, isTagBoundary_last_of_append stands.opens, stands.closes⟩

/-- A tag of a text that ends with a separator stands in every continuation of the text. -/
theorem TagStands.extend_after (h : ReadsTags tag) (stands : TagStands tag before fragment after)
    (closed : isTagBoundary (before ++ fragment ++ after).getLast? = true) (rest : Text) :
    TagStands tag before fragment (after ++ rest) := by
  refine ⟨stands.reads, stands.opens, ?_⟩
  cases after with
  | nil =>
      rw [List.append_nil, not_isTagBoundary_last_of_reads (h.technical stands.reads)] at closed
      cases closed
  | cons c after => exact stands.closes

/-- A tag of a text that begins with a separator stands in the text behind every other one. -/
theorem TagStands.extend_before (h : ReadsTags tag) (stands : TagStands tag before fragment after)
    (opened : isTagBoundary (before ++ (fragment ++ after)).head? = true) (front : Text) :
    TagStands tag (front ++ before) fragment after := by
  refine ⟨stands.reads, ?_, stands.closes⟩
  cases before using List.reverseRecOn with
  | nil =>
      rw [List.nil_append, not_isTagBoundary_head_of_reads (h.technical stands.reads)] at opened
      cases opened
  | append_singleton before c =>
      have opens := stands.opens
      rw [List.getLast?_concat] at opens
      rwa [← List.append_assoc, List.getLast?_concat]

/-- A tag of a text with a technical tag in it stands before the technical tag, or behind it, or is
the technical tag. -/
theorem HasTag.of_append_tag (h : ReadsTags tag) {x tag' y : Text}
    (stands : TagStands technicalTag x tag' y) (tagged : HasTag tag (x ++ tag' ++ y)) :
    HasTag tag x ∨ tag.Reads tag' ∨ HasTag tag y := by
  obtain ⟨before, fragment, after, split, other⟩ := tagged
  rw [List.append_assoc, List.append_assoc] at split
  rcases stands.eq_or_apart (h.stands other) split with ⟨-, rfl⟩ | ⟨back, rfl, rfl⟩ | ⟨back, rfl, rfl⟩
  · exact .inr (.inl other.reads)
  · exact .inr (.inr ⟨back, fragment, after, (List.append_assoc ..).symm, other.cut_before⟩)
  · exact .inl ⟨before, fragment, back, rfl, other.cut_after⟩

/-- Texts with nothing but tags have nothing but tags together, if a tag stands between them. -/
theorem HasOnlyTags.append_tag {x tag' y : Text} (left : HasOnlyTags x)
    (stands : TagStands technicalTag x tag' y) (right : HasOnlyTags y) :
    HasOnlyTags (x ++ tag' ++ y) := by
  intro front c back split other
  rcases Text.place_cases split.symm with ⟨gap, rfl, rfl⟩ | ⟨gap, rfl, rfl⟩ | ⟨u, v, rfl, rfl, rfl⟩
  · obtain ⟨before, u, v, after, rfl, rfl, standing⟩ := right gap c back rfl other
    refine ⟨x ++ tag' ++ before, u, v, after, by simp, rfl, ?_⟩
    have opened := stands.closes
    exact standing.extend_before readsTags_technicalTag (by simpa using opened) _
  · obtain ⟨before, u, v, after, rfl, rfl, standing⟩ := left front c gap rfl other
    refine ⟨before, u, v, after ++ (tag' ++ y), rfl, by simp, ?_⟩
    have closed := stands.opens
    exact standing.extend_after readsTags_technicalTag (by simpa using closed) _
  · exact ⟨x, u, v, y, rfl, rfl, stands⟩

end ReleaseCatalog.Release
