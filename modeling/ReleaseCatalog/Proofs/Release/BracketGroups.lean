import Mathlib.Data.List.TakeWhile
import ReleaseCatalog.Proofs.Release.Preparing

/-!
# Names with bracket groups

Replacing the groups of a text goes from group to group: what stands before an
opening bracket is left alone, and a group is replaced whatever precedes it
(`replaceAll_append`, `replaceAll_group`).  A group in square brackets at the front
of a name, with a line behind it, names a studio (`studioAndRest_group`), unless it
is a tag or a year.  A studio that is set apart is always written there
(`exists_opensWith_of_studioAndRest`).
-/

namespace ReleaseCatalog.Release

open Unicode (isBlank isDecimal)

/-! ## Replacing groups -/

variable {opening closing : Char} {replacement : Text → Text → Text} {content rest t : Text}

theorem groupFinder_neverLooksBack (opening closing : Char) :
    (groupFinder opening closing).NeverLooksBack := fun _ _ _ => rfl

/-- The finder finds the group at the front of a text. -/
theorem groupFinder_group (ho : opening ∉ content) (hc : closing ∉ content)
    (previous : Option Char) (rest : Text) :
    groupFinder opening closing previous (opening :: (content ++ closing :: rest)) =
      some (content, content.length + 2) := by
  have inner : ∀ d ∈ content, (d != opening && d != closing) = true := by
    intro d hd
    rw [Bool.and_eq_true, bne_iff_ne, bne_iff_ne]
    exact ⟨fun h => ho (h ▸ hd), fun h => hc (h ▸ hd)⟩
  have taken : (content ++ closing :: rest).takeWhile (fun d => d != opening && d != closing) =
      content := by
    rw [List.takeWhile_append_of_pos inner, List.takeWhile_cons_of_neg (by simp),
      List.append_nil]
  simp only [groupFinder, taken, List.drop_left, List.head?_cons, and_self, if_true]

/-- What the finder finds is a group with no bracket of its kind inside. -/
theorem exists_of_groupFinder_eq_some {previous : Option Char} {length : Nat}
    (h : groupFinder opening closing previous t = some (content, length)) :
    ∃ rest, t = opening :: (content ++ closing :: rest) ∧ opening ∉ content ∧ closing ∉ content ∧
      length = content.length + 2 := by
  cases t with
  | nil => cases h
  | cons c tail =>
      simp only [groupFinder] at h
      split at h
      · next both =>
          obtain ⟨rfl, closes⟩ := both
          obtain ⟨rfl, rfl⟩ := Prod.mk.inj (Option.some.inj h)
          have inner : ∀ d ∈ tail.takeWhile (fun d => d != c && d != closing),
              d ≠ c ∧ d ≠ closing := by
            intro d hd
            have both := List.mem_takeWhile_imp hd
            rwa [Bool.and_eq_true, bne_iff_ne, bne_iff_ne] at both
          obtain ⟨rest, behind⟩ := List.head?_eq_some_iff.mp closes
          refine ⟨rest, ?_, fun ho => (inner _ ho).1 rfl, fun hc => (inner _ hc).2 rfl, rfl⟩
          rw [← behind, ← List.prefix_append_drop (List.takeWhile_prefix _)]
      · cases h

/-- A text without an opening bracket is left alone. -/
theorem replaceAll_append {s : Text} (h : opening ∉ s) (t : Text) :
    (groupFinder opening closing).replaceAll replacement (s ++ t) =
      s ++ (groupFinder opening closing).replaceAll replacement t := by
  induction s with
  | nil => rfl
  | cons c s ih =>
      obtain ⟨other, absent⟩ := not_or.mp (mt List.mem_cons.mpr h)
      have nothing : (groupFinder opening closing).FindsNothing none (c :: (s ++ t)) := by
        intro value length found
        simp only [groupFinder] at found
        rw [if_neg fun both => other both.1.symm] at found
        cases found
      rw [List.cons_append, (groupFinder_neverLooksBack opening closing).replaceAll_cons nothing, ih absent,
        List.cons_append]

/-- A group is replaced, and what follows it by itself. -/
theorem replaceAll_group (ho : opening ∉ content) (hc : closing ∉ content) (rest : Text) :
    (groupFinder opening closing).replaceAll replacement
        (opening :: (content ++ closing :: rest)) =
      replacement (opening :: (content ++ [closing])) content ++
        (groupFinder opening closing).replaceAll replacement rest := by
  have split : opening :: (content ++ closing :: rest) =
      (opening :: (content ++ [closing])) ++ rest := by simp
  have found := groupFinder_group ho hc none rest
  rw [split] at found ⊢
  refine (groupFinder_neverLooksBack opening closing).replaceAll_hit (List.cons_ne_nil _ _) ?_
  rw [found, List.length_cons, List.length_append, List.length_singleton]

/-- A group in parentheses that is no list of tags stays, if it is the only one. -/
theorem roundGroup_stays {front : Text} (before : '(' ∉ front) (ho : '(' ∉ content)
    (hc : ')' ∉ content) (behind : '(' ∉ rest) (noTags : isTagList content = false) :
    (groupFinder '(' ')').replaceAll
        (fun group content => if isTagList content then [' '] else group)
        (front ++ '(' :: (content ++ ')' :: rest)) = front ++ '(' :: (content ++ ')' :: rest) := by
  rw [replaceAll_append before, replaceAll_group ho hc, noTags, if_neg Bool.false_ne_true,
    Finder.replaceAll_eq_self (groups_eq_nil behind)]
  simp

/-! ## The leading studio -/

theorem singleLine?_eq (line : '\n' ∉ t) : singleLine? t = some t := by
  have whole : t.takeWhile (fun c => decide (c ≠ '\n')) = t := by
    refine List.takeWhile_eq_self_iff.mpr fun c hc => decide_eq_true ?_
    rintro rfl
    exact line hc
  simp only [singleLine?, whole, List.drop_length, true_or, if_true]

theorem isPrefix_of_singleLine?_eq_some {line : Text} (h : singleLine? t = some line) :
    line <+: t := by
  simp only [singleLine?] at h
  split at h
  · rw [← Option.some.inj h]
    exact List.takeWhile_prefix _
  · cases h

/-- A name begins with a group in square brackets, blanks before it apart, in which the studio is
written, and `behind` follows. -/
def OpensWith (name studio behind : Text) : Prop :=
  ∃ front content, name = front ++ '[' :: (content ++ ']' :: behind) ∧
    (∀ c ∈ front, isBlank c = true) ∧ '[' ∉ content ∧ ']' ∉ content ∧
    studio = Text.spacedWords content

/-- A studio that is set apart is written in the group at the front of the name, and what is left
of the name stands behind the group. -/
theorem exists_opensWith_of_studioAndRest {name studio : Text}
    (h : studioAndRest name = (some studio, rest)) :
    studio ≠ [] ∧ ∃ behind, OpensWith name studio behind ∧ rest <:+: behind := by
  have group : leadingGroup? name = some (studio, rest) ∧ studio ≠ [] := by
    unfold studioAndRest at h
    split at h
    · next studio' rest' found =>
        split at h
        · cases h
        · next named =>
            cases h
            exact ⟨found, fun empty => named (.inl empty)⟩
    · cases h
  obtain ⟨found, named⟩ := group
  obtain ⟨⟨content, length⟩, opens, found⟩ := Option.bind_eq_some_iff.mp found
  obtain ⟨-, -, found⟩ := Option.bind_eq_some_iff.mp found
  obtain ⟨line, single, found⟩ := Option.bind_eq_some_iff.mp found
  obtain ⟨-, -, found⟩ := Option.bind_eq_some_iff.mp found
  cases found
  obtain ⟨behind, start, ho, hc, rfl⟩ := exists_of_groupFinder_eq_some opens
  refine ⟨named, behind, ⟨name.takeWhile isBlank, content, ?_,
    fun c hc => List.mem_takeWhile_imp hc, ho, hc, rfl⟩, ?_⟩
  · rw [← start, List.takeWhile_append_dropWhile]
  · have dropped : (name.dropWhile isBlank).drop (content.length + 2) = behind := by
      rw [start, List.drop_succ_cons, List.append_cons, ← List.length_singleton (a := ']'),
        ← List.length_append, List.drop_left]
    have line := (isPrefix_of_singleLine?_eq_some single).isInfix
    rw [dropped] at line
    exact line.trans (List.dropWhile_suffix _).isInfix

/-- A studio in square brackets is set apart from the line behind it. -/
theorem studioAndRest_group {gap line : Text} (ho : '[' ∉ content) (hc : ']' ∉ content)
    (blank : ∀ c ∈ gap, isBlank c = true) (oneLine : '\n' ∉ line)
    (nonempty : line ≠ []) (front : ∀ c ∈ line.head?, isBlank c = false)
    (named : Text.spacedWords content ≠ [])
    (noTag : isTechnicalTag (Text.spacedWords content) = false)
    (noYear : isYearOnly (Text.spacedWords content) = false) :
    studioAndRest ('[' :: (content ++ ']' :: (gap ++ line))) =
      (some (Text.spacedWords content), line) := by
  have inside : content ≠ [] := by
    rintro rfl
    exact named rfl
  have start : ('[' :: (content ++ ']' :: (gap ++ line))).dropWhile isBlank =
      '[' :: (content ++ ']' :: (gap ++ line)) := List.dropWhile_cons_of_neg (by decide)
  have behind : ('[' :: (content ++ ']' :: (gap ++ line))).drop (content.length + 2) =
      gap ++ line := by
    rw [List.drop_succ_cons, List.append_cons, ← List.length_singleton (a := ']'),
      ← List.length_append, List.drop_left]
  have trimmed : (gap ++ line).dropWhile isBlank = line := by
    rw [List.dropWhile_append_of_pos blank, Text.dropWhile_eq_self front]
  have group : leadingGroup? ('[' :: (content ++ ']' :: (gap ++ line))) =
      some (Text.spacedWords content, line) := by
    have found := groupFinder_group ho hc none (gap ++ line)
    have oneLine' : singleLine? (((('[' :: (content ++ ']' :: (gap ++ line))).dropWhile isBlank).drop
        (content.length + 2)).dropWhile isBlank) = some line := by
      rw [start, behind, trimmed, singleLine?_eq oneLine]
    rw [← start] at found
    exact Option.bind_eq_some_iff.mpr ⟨_, found, Option.bind_eq_some_iff.mpr ⟨(), if_pos inside,
      Option.bind_eq_some_iff.mpr ⟨line, oneLine', Option.bind_eq_some_iff.mpr
        ⟨(), if_pos nonempty, rfl⟩⟩⟩⟩
  unfold studioAndRest
  rw [group]
  simp [named, noTag, noYear]

end ReleaseCatalog.Release
