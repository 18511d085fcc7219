import ReleaseCatalog.Proofs.Release.TagScan

/-!
# Where the technical tail begins

A name is cut at the first tag that starts a tail.  `StartsTail` says which tags do, in
terms of the tags that stand in the name and with no search: quality tags, and tags with
something before them that only technical tags follow up to the next quality tag
(`startsTail_iff`).

A tag that is kept starts no tail of the name (`not_startsTail_of_kept`).  It starts none of
what is kept either (`not_startsTail_of_beforeTail`).  With the end of the name cut off, a tag
might be followed by technical tags only that was not before.  But what was cut off begins with
a quality tag, or with technical tags up to the next quality tag, so only those would follow the
tag in the whole name too (`exists_upToQualityTag`).

From this the cut is exact (`beforeTail_exact`): what is kept has nothing that starts a tail,
what is cut off starts with such a tag, and cutting again changes nothing.
-/

namespace ReleaseCatalog.Release

variable {t before tag after part rest : Text}

/-! ## Up to the next quality tag -/

/-- A part of a text ends where the first quality tag of the text begins, or with the text. -/
def UpToQualityTag (part rest : Text) : Prop :=
  ¬ HasTag qualityTag part ∧
    (rest = [] ∨ ∃ tag after, rest = tag ++ after ∧ TagStands qualityTag part tag after)

theorem upToQualityTag_beforeQualityTag (t : Text) :
    ∃ rest, t = beforeQualityTag t ++ rest ∧ UpToQualityTag (beforeQualityTag t) rest := by
  unfold beforeQualityTag
  rw [Finder.first?_eq_find?]
  split
  · next o found =>
      obtain ⟨split, stands⟩ :=
        readsTags_qualityTag.mem_occurrences_iff.mp (List.mem_of_find?_eq_some found)
      refine ⟨o.fragment ++ o.after, by rw [← List.append_assoc, ← split], ?_,
        .inr ⟨o.fragment, o.after, rfl, stands⟩⟩
      rintro ⟨before, tag, after, kept, earlier⟩
      have standing := earlier.extend_after readsTags_qualityTag (kept ▸ stands.opens)
        (o.fragment ++ o.after)
      have starts : before.length < o.before.length := by
        rw [kept]
        exact readsTags_qualityTag.length_before_lt earlier.reads before after
      have whole : t = before ++ tag ++ (after ++ (o.fragment ++ o.after)) := by
        rw [split, kept]
        simp
      have member := readsTags_qualityTag.mem_occurrences whole standing
      cases Finder.eq_false_of_before_find? found member starts
  · next none =>
      refine ⟨[], (List.append_nil t).symm, ?_, .inl rfl⟩
      rintro ⟨before, tag, after, split, stands⟩
      exact List.find?_eq_none.mp none _ (readsTags_qualityTag.mem_occurrences split stands) rfl

theorem UpToQualityTag.beforeQualityTag_eq (upTo : UpToQualityTag part rest) :
    beforeQualityTag (part ++ rest) = part := by
  unfold beforeQualityTag
  rw [Finder.first?_eq_find?]
  obtain ⟨untagged, rfl | ⟨tag, after, rfl, stands⟩⟩ := upTo
  · rw [List.append_nil,
      (tags_eq_nil_iff readsTags_qualityTag.isLocal readsTags_qualityTag.solid).mpr untagged]
    rfl
  · have member := readsTags_qualityTag.mem_occurrences (List.append_assoc ..).symm stands
    rw [Finder.find?_occurrences_eq member rfl ?_]
    intro o member'
    obtain ⟨split, standing⟩ := readsTags_qualityTag.mem_occurrences_iff.mp member'
    rw [List.append_assoc] at split
    rcases (readsTags_qualityTag.stands stands).eq_or_apart (readsTags_qualityTag.stands standing)
      split with ⟨same, -⟩ | ⟨back, behind, -⟩ | ⟨back, ahead, rest⟩
    · exact Nat.le_of_eq (congrArg List.length same)
    · rw [behind]
      simp only [List.length_append]
      omega
    · rw [rest] at standing
      exact absurd ⟨_, _, _, ahead, standing.cut_after⟩ untagged

/-! ## Tags that start a tail -/

/-- A tag starts the tail of a text if it is a quality tag, or if something other than separators
stands before it and nothing but technical tags behind it, up to the next quality tag. -/
def StartsTail (before tag after : Text) : Prop :=
  qualityTag.Reads tag ∨
    (∃ c ∈ before, isSeparator c = false) ∧
      ∃ part rest, after = part ++ rest ∧ UpToQualityTag part rest ∧ HasOnlyTags part

theorem startsTail_iff {o : Occurrence Unit} :
    startsTail o = true ↔ StartsTail o.before o.fragment o.after := by
  have headed : (!o.before.all isSeparator) = true ↔ ∃ c ∈ o.before, isSeparator c = false := by
    simp
  have followed : isOnlyTags (beforeQualityTag o.after) = true ↔
      ∃ part rest, o.after = part ++ rest ∧ UpToQualityTag part rest ∧ HasOnlyTags part := by
    rw [isOnlyTags_iff]
    constructor
    · intro only
      obtain ⟨rest, split, upTo⟩ := upToQualityTag_beforeQualityTag o.after
      exact ⟨_, rest, split, upTo, only⟩
    · rintro ⟨part, rest, split, upTo, only⟩
      rwa [split, upTo.beforeQualityTag_eq]
  unfold startsTail StartsTail isQualityTag
  rw [Bool.or_eq_true, Bool.and_eq_true, Reader.readsAll_iff, headed, followed]

/-- Of the technical tags only release flags need something before them, and technical tags behind
them, to start a tail. -/
theorem StartsTail.quality_or_flag (reads : technicalTag.Reads tag)
    (starts : StartsTail before tag after) :
    qualityTag.Reads tag ∨
      releaseFlag.Reads tag ∧ (∃ c ∈ before, isSeparator c = false) ∧
        ∃ part rest, after = part ++ rest ∧ UpToQualityTag part rest ∧ HasOnlyTags part := by
  by_cases quality : qualityTag.Reads tag
  · exact .inl quality
  · exact .inr ⟨(reads_technicalTag.mp reads).resolve_left quality, starts.resolve_left quality⟩

/-- What is cut off a text starts with a tag that starts a tail. -/
theorem exists_tail (t : Text) :
    ∃ tail, t = beforeTail t ++ tail ∧
      (tail = [] ∨ ∃ tag after, tail = tag ++ after ∧
        TagStands technicalTag (beforeTail t) tag after ∧ StartsTail (beforeTail t) tag after) := by
  unfold beforeTail
  split
  · next o found =>
      obtain ⟨split, stands⟩ :=
        readsTags_technicalTag.mem_occurrences_iff.mp (List.mem_of_find?_eq_some found)
      exact ⟨o.fragment ++ o.after, by rw [← List.append_assoc, ← split],
        .inr ⟨o.fragment, o.after, rfl, stands, startsTail_iff.mp (List.find?_some found)⟩⟩
  · exact ⟨[], (List.append_nil t).symm, .inl rfl⟩

/-- No tag of a text that is kept starts a tail of the text. -/
theorem not_startsTail_of_kept {tail : Text} (split : t = beforeTail t ++ tail)
    (kept : beforeTail t = before ++ tag ++ after)
    (stands : TagStands technicalTag before tag (after ++ tail)) :
    ¬ StartsTail before tag (after ++ tail) := by
  have whole : t = before ++ tag ++ (after ++ tail) :=
    split.trans (by rw [kept, List.append_assoc])
  have member := readsTags_technicalTag.mem_occurrences whole stands
  have earlier : before.length < (beforeTail t).length := by
    rw [kept]
    exact readsTags_technicalTag.length_before_lt stands.reads before after
  intro starts
  unfold beforeTail at earlier
  split at earlier
  · next o found =>
      have other := Finder.eq_false_of_before_find? found member earlier
      rw [startsTail_iff.mpr starts] at other
      cases other
  · next none => exact List.find?_eq_none.mp none _ member (startsTail_iff.mpr starts)

/-! ## What is kept -/

/-- A tag of what is kept of a text is a tag of the text. -/
theorem TagStands.of_kept {reader : Reader} {tail : Text} (h : ReadsTags reader)
    (stands : TagStands reader before tag after)
    (ends : tail = [] ∨ isTagBoundary (before ++ tag ++ after).getLast? = true) :
    TagStands reader before tag (after ++ tail) := by
  rcases ends with rfl | closed
  · rwa [List.append_nil]
  · exact stands.extend_after h closed tail

/-- No quality tag stands before the tail. -/
theorem not_hasTag_beforeTail (t : Text) : ¬ HasTag qualityTag (beforeTail t) := by
  rintro ⟨before, tag, after, kept, stands⟩
  obtain ⟨tail, split, ends⟩ := exists_tail t
  have closed : tail = [] ∨ isTagBoundary (before ++ tag ++ after).getLast? = true := by
    refine ends.imp_right ?_
    rintro ⟨_, _, -, standing, -⟩
    rw [← kept]
    exact standing.opens
  have standing := readsTags_qualityTag.stands (stands.of_kept readsTags_qualityTag closed)
  exact not_startsTail_of_kept split kept standing (.inl stands.reads)

/-- If nothing but technical tags stands at the end of what is kept, then nothing else stands there
in the whole text, up to the next quality tag. -/
theorem exists_upToQualityTag {front last tail : Text} (untagged : ¬ HasTag qualityTag last)
    (only : HasOnlyTags last)
    (ends : tail = [] ∨ ∃ tag after, tail = tag ++ after ∧
      TagStands technicalTag (front ++ last) tag after ∧ StartsTail (front ++ last) tag after) :
    ∃ part rest, last ++ tail = part ++ rest ∧ UpToQualityTag part rest ∧ HasOnlyTags part := by
  rcases ends with rfl | ⟨tag, after, rfl, stands, starts⟩
  · exact ⟨last, [], rfl, ⟨untagged, .inl rfl⟩, only⟩
  have stands := stands.cut_before
  by_cases quality : qualityTag.Reads tag
  · exact ⟨last, tag ++ after, rfl,
      ⟨untagged, .inr ⟨tag, after, rfl, quality, stands.opens, stands.closes⟩⟩, only⟩
  · obtain ⟨-, part, rest, rfl, ⟨untagged', ends⟩, only'⟩ := starts.resolve_left quality
    refine ⟨last ++ tag ++ part, rest, by simp, ⟨fun tagged => ?_, ?_⟩,
      only.append_tag stands.cut_after only'⟩
    · rcases tagged.of_append_tag readsTags_qualityTag stands.cut_after with
        left | same | right
      · exact untagged left
      · exact quality same
      · exact untagged' right
    · refine ends.imp_right ?_
      rintro ⟨next, rest, rfl, standing⟩
      exact ⟨next, rest, rfl, standing.extend_before readsTags_qualityTag stands.closes _⟩

/-- No quality tag stands behind a tag that is kept. -/
theorem not_hasTag_behind (kept : beforeTail t = before ++ tag ++ after)
    (closes : isTagBoundary after.head? = true) : ¬ HasTag qualityTag after := by
  rintro ⟨front, next, rest, rfl, quality⟩
  have whole : beforeTail t = (before ++ tag ++ front) ++ next ++ rest := by
    rw [kept]
    simp
  rw [List.append_assoc] at closes
  exact not_hasTag_beforeTail t
    ⟨_, next, rest, whole, quality.extend_before readsTags_qualityTag closes _⟩

/-- A tag that is kept, with something before it, is not followed by technical tags only. -/
theorem not_hasOnlyTags_of_beforeTail (kept : beforeTail t = before ++ tag ++ after)
    (stands : TagStands technicalTag before tag after)
    (headed : ∃ c ∈ before, isSeparator c = false) : ¬ HasOnlyTags after := by
  intro only
  obtain ⟨tail, split, ends⟩ := exists_tail t
  rw [kept] at ends
  have standing := stands.of_kept readsTags_technicalTag
    (ends.imp_right fun ⟨_, _, _, standing, _⟩ => standing.opens)
  have untagged := not_hasTag_behind kept stands.closes
  exact not_startsTail_of_kept split kept standing
    (.inr ⟨headed, exists_upToQualityTag untagged only ends⟩)

/-- A tag of what is kept of a text starts no tail of it. -/
theorem not_startsTail_of_beforeTail (kept : beforeTail t = before ++ tag ++ after)
    (stands : TagStands technicalTag before tag after) : ¬ StartsTail before tag after := by
  rintro (quality | ⟨headed, part, rest, rfl, ⟨-, ends⟩, only⟩)
  · exact not_hasTag_beforeTail t
      ⟨before, tag, after, kept, quality, stands.opens, stands.closes⟩
  · rcases ends with rfl | ⟨next, rest, rfl, standing⟩
    · rw [List.append_nil] at kept stands
      exact not_hasOnlyTags_of_beforeTail kept stands headed only
    · exact not_hasTag_behind kept stands.closes
        ⟨part, next, rest, (List.append_assoc ..).symm, standing⟩

/-- What is left without the technical tail is left alone by another cut. -/
theorem beforeTail_idem (t : Text) : beforeTail (beforeTail t) = beforeTail t := by
  have none : ((boundedTag technicalTag).occurrences (beforeTail t)).find? startsTail = none := by
    refine List.find?_eq_none.mpr fun o member starts => ?_
    obtain ⟨kept, stands⟩ := readsTags_technicalTag.mem_occurrences_iff.mp member
    exact not_startsTail_of_beforeTail kept stands (startsTail_iff.mp starts)
  unfold beforeTail at none ⊢
  rw [none]

/-- The technical tail is cut exactly.  No quality tag is kept.  A release flag that is kept, with
something before it, is not followed by technical tags only.  What is cut off starts with a tag
that starts a tail, and cutting again changes nothing. -/
theorem beforeTail_exact (t : Text) :
    ∃ tail, t = beforeTail t ++ tail ∧
      ¬ HasTag qualityTag (beforeTail t) ∧
      (∀ before flag after, beforeTail t = before ++ flag ++ after →
        TagStands releaseFlag before flag after → (∃ c ∈ before, isSeparator c = false) →
          ¬ HasOnlyTags after) ∧
      (tail ≠ [] → ∃ tag after, tail = tag ++ after ∧
        TagStands technicalTag (beforeTail t) tag after ∧
        (qualityTag.Reads tag ∨
          releaseFlag.Reads tag ∧ (∃ c ∈ beforeTail t, isSeparator c = false) ∧
            ∃ part rest, after = part ++ rest ∧ UpToQualityTag part rest ∧ HasOnlyTags part)) ∧
      beforeTail (beforeTail t) = beforeTail t := by
  obtain ⟨tail, split, ends⟩ := exists_tail t
  refine ⟨tail, split, not_hasTag_beforeTail t, ?flags, ?cut, beforeTail_idem t⟩
  case flags =>
    intro before flag after kept stands headed
    have reads := reads_technicalTag.mpr (.inr stands.reads)
    exact not_hasOnlyTags_of_beforeTail kept ⟨reads, stands.opens, stands.closes⟩ headed
  case cut =>
    intro nonempty
    obtain ⟨tag, after, same, stands, starts⟩ := ends.resolve_left nonempty
    exact ⟨tag, after, same, stands, starts.quality_or_flag stands.reads⟩

end ReleaseCatalog.Release
