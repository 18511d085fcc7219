import Mathlib.Data.List.Basic
import ReleaseCatalog.Text.Segments

/-!
# What a scan finds

A scan tries a finder from left to right and goes on behind each fragment.
`Finder.Scans` says this as a relation between a text and its segments, with
one rule for a character outside every fragment and one for a fragment.  The
segments of a text satisfy it (`scans_segments`), and all else here is by
induction on its derivations.

An occurrence is a fragment that the finder finds in its place
(`found_of_mem_occurrences`).  A fragment that the finder finds at a place need
not be an occurrence.  It is one unless an occurrence that begins before the
place reaches beyond it (`mem_occurrences_or_crossed`).  So a text has no
occurrences if and only if the finder finds nothing anywhere in it
(`occurrences_eq_nil_iff`), and such a text is left alone by every replacement.

What is left of a text without its occurrences is what none of them covers
(`all_replaceAll_iff`).

A finder that does not look at the character before the place scans the rest of a
text as a text of its own, so a replacement goes from fragment to fragment
(`NeverLooksBack.replaceAll_cons`, `NeverLooksBack.replaceAll_hit`).
-/

namespace ReleaseCatalog

namespace Finder

variable {α : Type} {find : Finder α}

/-! ## The scan as a relation -/

/-- The character before a place, behind a passed text: its last one, or the one before it. -/
def lastOr (previous : Option Char) (passed : Text) : Option Char := passed.getLast?.or previous

@[simp] theorem lastOr_nil (previous : Option Char) : lastOr previous [] = previous := rfl

@[simp] theorem lastOr_none (passed : Text) : lastOr none passed = passed.getLast? := by
  simp [lastOr]

theorem lastOr_cons (previous : Option Char) (c : Char) (passed : Text) :
    lastOr previous (c :: passed) = lastOr (some c) passed := by
  unfold lastOr
  rw [List.getLast?_cons]
  cases passed.getLast? with
  | none => rfl
  | some d => rfl

theorem lastOr_append (previous : Option Char) (passed more : Text) :
    lastOr previous (passed ++ more) = lastOr (lastOr previous passed) more := by
  unfold lastOr
  rw [List.getLast?_append, Option.or_assoc]

/-- The finder finds no fragment at a place that has a character. -/
def FindsNothing (find : Finder α) (previous : Option Char) (t : Text) : Prop :=
  ∀ value length, find previous t ≠ some (value, length + 1)

/-- The segments that a scan of a text makes, given the character before the text. -/
inductive Scans (find : Finder α) : Option Char → Text → List (Segment α) → Prop where
  | done {previous : Option Char} : Scans find previous [] []
  | plain {previous : Option Char} {c : Char} {rest : Text} {segments : List (Segment α)} :
      find.FindsNothing previous (c :: rest) → Scans find (some c) rest segments →
      Scans find previous (c :: rest) (.plain c :: segments)
  | hit {previous : Option Char} {c : Char} {rest : Text} {value : α} {length : Nat}
      {segments : List (Segment α)} :
      find previous (c :: rest) = some (value, length + 1) →
      Scans find (lastOr (some c) (rest.take length)) (rest.drop length) segments →
      Scans find previous (c :: rest) (.hit ((c :: rest).take (length + 1)) value :: segments)

theorem scans_segmentsFrom (find : Finder α) (t : Text) :
    ∀ (previous : Option Char) (skip : Nat),
      Scans find (lastOr previous (t.take skip)) (t.drop skip)
        (segmentsFrom find previous skip t) := by
  induction t with
  | nil =>
      intro previous skip
      rw [List.take_nil, List.drop_nil]
      exact .done
  | cons c rest ih =>
      intro previous skip
      cases skip with
      | succ skip =>
          rw [List.take_succ_cons, List.drop_succ_cons, lastOr_cons]
          exact ih (some c) skip
      | zero =>
          rw [List.take_zero, List.drop_zero, lastOr_nil]
          unfold segmentsFrom
          split
          · next value length found => exact .hit found (ih (some c) length)
          · next nothing => exact .plain (fun value length => nothing value length) (ih (some c) 0)

/-- The segments of a text are those that its scan makes. -/
theorem scans_segments (find : Finder α) (t : Text) : Scans find none t (find.segments t) := by
  have h := scans_segmentsFrom find t none 0
  rwa [List.take_zero, List.drop_zero, lastOr_nil] at h

theorem Scans.text_eq {previous : Option Char} {t : Text} {segments : List (Segment α)}
    (scan : Scans find previous t segments) : Segment.text segments = t := by
  induction scan with
  | done => rfl
  | @plain previous c rest segments nothing scan ih =>
      rw [Segment.text, List.flatMap_cons, ← Segment.text, ih]
      rfl
  | @hit previous c rest value length segments found scan ih =>
      rw [Segment.text, List.flatMap_cons, ← Segment.text, ih, List.take_succ_cons]
      simp only [Segment.chars]
      rw [List.cons_append, List.take_append_drop]

/-! ## Occurrences are found -/

theorem Scans.found {previous : Option Char} {t : Text} {segments : List (Segment α)}
    (scan : Scans find previous t segments) :
    ∀ {passed : Text} {o : Occurrence α}, o ∈ occurrencesFrom passed segments →
      ∃ gone length, o.before = passed.reverse ++ gone ∧
        find (lastOr previous gone) (o.fragment ++ o.after) = some (o.value, length + 1) ∧
        o.fragment = (o.fragment ++ o.after).take (length + 1) ∧ o.fragment ≠ [] := by
  induction scan with
  | done => intro passed o h; cases h
  | @plain previous c rest segments nothing scan ih =>
      intro passed o h
      obtain ⟨gone, length, before, found, fragment⟩ := ih h
      refine ⟨c :: gone, length, ?_, ?_, fragment⟩
      · rw [before, List.reverse_cons, List.append_assoc, List.singleton_append]
      · rw [lastOr_cons]; exact found
  | @hit previous c rest value length segments found scan ih =>
      intro passed o h
      cases List.mem_cons.mp h with
      | inl same =>
          subst same
          have whole : (c :: rest).take (length + 1) ++ Segment.text segments = c :: rest := by
            rw [scan.text_eq, ← List.drop_succ_cons (a := c), List.take_append_drop]
          refine ⟨[], length, (List.append_nil _).symm, ?_, ?_, by simp⟩
          · rw [lastOr_nil, whole]; exact found
          · rw [whole]
      | inr later =>
          obtain ⟨gone, length', before, found', fragment⟩ := ih later
          refine ⟨(c :: rest).take (length + 1) ++ gone, length', ?_, ?_, fragment⟩
          · rw [before, List.reverse_append, List.reverse_reverse, List.append_assoc]
          · rw [lastOr_append, List.take_succ_cons, lastOr_cons]; exact found'

/-- In the place of an occurrence the finder finds its fragment and its value. -/
theorem found_of_mem_occurrences {t : Text} {o : Occurrence α} (h : o ∈ find.occurrences t) :
    ∃ length, find o.before.getLast? (o.fragment ++ o.after) = some (o.value, length + 1) ∧
      o.fragment = (o.fragment ++ o.after).take (length + 1) ∧ o.fragment ≠ [] := by
  obtain ⟨gone, length, before, found, fragment⟩ := (scans_segments find t).found h
  rw [List.reverse_nil, List.nil_append] at before
  rw [lastOr_none, ← before] at found
  exact ⟨length, found, fragment⟩

/-- A fragment among segments is an occurrence between the texts of the others. -/
theorem mem_occurrencesFrom_append {front back : List (Segment α)} {fragment : Text} {value : α} :
    ∀ passed : Text, ⟨passed.reverse ++ Segment.text front, fragment, Segment.text back, value⟩ ∈
      occurrencesFrom passed (front ++ .hit fragment value :: back) := by
  induction front with
  | nil =>
      intro passed
      rw [Segment.text, List.flatMap_nil, List.append_nil]
      exact List.mem_cons_self
  | cons s front ih =>
      intro passed
      cases s with
      | plain c =>
          have later := ih (c :: passed)
          rwa [List.reverse_cons, List.append_assoc] at later
      | hit fragment' value' =>
          have later := ih (fragment'.reverse ++ passed)
          rw [List.reverse_append, List.reverse_reverse, List.append_assoc] at later
          exact List.mem_cons_of_mem _ later

theorem mem_occurrences_of_segments {front back : List (Segment α)} {fragment : Text} {value : α}
    {t : Text} (h : find.segments t = front ++ .hit fragment value :: back) :
    ⟨Segment.text front, fragment, Segment.text back, value⟩ ∈ find.occurrences t := by
  unfold occurrences
  rw [h]
  exact mem_occurrencesFrom_append []

/-! ## Occurrences follow one another -/

theorem length_le_before {segments : List (Segment α)} :
    ∀ {passed : Text} {o : Occurrence α}, o ∈ occurrencesFrom passed segments →
      passed.length ≤ o.before.length := by
  induction segments with
  | nil => intro passed o h; cases h
  | cons s rest ih =>
      intro passed o h
      cases s with
      | plain c =>
          have := ih h
          rw [List.length_cons] at this
          omega
      | hit fragment value =>
          cases List.mem_cons.mp h with
          | inl same => subst same; exact Nat.le_of_eq List.length_reverse.symm
          | inr later =>
              have := ih later
              rw [List.length_append] at this
              omega

theorem pairwise_occurrencesFrom (segments : List (Segment α)) :
    ∀ passed : Text, (occurrencesFrom passed segments).Pairwise fun o o' =>
      o.before.length + o.fragment.length ≤ o'.before.length := by
  induction segments with
  | nil => intro passed; exact .nil
  | cons s rest ih =>
      intro passed
      cases s with
      | plain c => exact ih (c :: passed)
      | hit fragment value =>
          refine .cons (fun o' later => ?_) (ih _)
          have := length_le_before later
          rw [List.length_append, List.length_reverse] at this
          show passed.reverse.length + fragment.length ≤ o'.before.length
          rw [List.length_reverse]
          omega

/-- Each occurrence ends before the next begins. -/
theorem pairwise_occurrences (find : Finder α) (t : Text) :
    (find.occurrences t).Pairwise fun o o' =>
      o.before.length + o.fragment.length ≤ o'.before.length :=
  pairwise_occurrencesFrom _ _

/-- If the first of two occurrences begins before the second, it ends before it too. -/
def EndsBefore (o o' : Occurrence α) : Prop :=
  o.before.length < o'.before.length → o.before.length + o.fragment.length ≤ o'.before.length

/-- An occurrence that begins before another also ends before it begins. -/
theorem ends_before {t : Text} {o o' : Occurrence α} (h : o ∈ find.occurrences t)
    (h' : o' ∈ find.occurrences t) (starts : o.before.length < o'.before.length) :
    o.before.length + o.fragment.length ≤ o'.before.length := by
  have later : (find.occurrences t).Pairwise EndsBefore := by
    refine (pairwise_occurrences find t).imp ?_
    intro o o' ends _
    exact ends
  have earlier : (find.occurrences t).Pairwise (flip EndsBefore) := by
    refine (pairwise_occurrences find t).imp ?_
    intro o o' ends back
    omega
  have never : ∀ o ∈ find.occurrences t, EndsBefore o o :=
    fun o _ back => absurd back (Nat.lt_irrefl _)
  exact later.forall_of_forall_of_flip never earlier h h' starts

/-- An occurrence that none begins before is the first of its kind. -/
theorem find?_occurrences_eq {t : Text} {o : Occurrence α} {p : Occurrence α → Bool}
    (member : o ∈ find.occurrences t) (holds : p o = true)
    (first : ∀ o' ∈ find.occurrences t, o.before.length ≤ o'.before.length) :
    (find.occurrences t).find? p = some o := by
  have order := pairwise_occurrences find t
  have solid : ∀ o' ∈ find.occurrences t, o'.fragment ≠ [] := by
    intro o' ho'
    obtain ⟨_, -, -, nonempty⟩ := found_of_mem_occurrences ho'
    exact nonempty
  cases all : find.occurrences t with
  | nil => rw [all] at member; cases member
  | cons o₁ rest =>
      rw [all] at member order first solid
      cases List.mem_cons.mp member with
      | inl same => rw [same] at holds ⊢; exact List.find?_cons_of_pos holds
      | inr later =>
          have ends := (List.pairwise_cons.mp order).1 o later
          have starts := first o₁ List.mem_cons_self
          have long := List.length_pos_of_ne_nil (solid o₁ List.mem_cons_self)
          omega

/-- Before the first occurrence of its kind begins no other one of this kind. -/
theorem eq_false_of_before_find? {t : Text} {o o' : Occurrence α} {p : Occurrence α → Bool}
    (found : (find.occurrences t).find? p = some o) (member : o' ∈ find.occurrences t)
    (starts : o'.before.length < o.before.length) : p o' = false := by
  obtain ⟨-, earlier, later, split, others⟩ := List.find?_eq_some_iff_append.mp found
  have order := pairwise_occurrences find t
  rw [split] at member order
  rcases List.mem_append.mp member with ahead | behind
  · simpa using others o' ahead
  · rcases List.mem_cons.mp behind with rfl | behind
    · exact absurd starts (Nat.lt_irrefl _)
    · have := (List.pairwise_cons.mp (List.pairwise_append.mp order).2.1).1 o' behind
      omega

theorem first?_eq_find? (t : Text) :
    find.first? t = (find.occurrences t).find? fun _ => true := by
  unfold first?
  cases find.occurrences t with
  | nil => rfl
  | cons o rest => rfl

/-- An occurrence that none begins behind is the last. -/
theorem exists_concat_of_last {t : Text} {o : Occurrence α} (member : o ∈ find.occurrences t)
    (last : ∀ o' ∈ find.occurrences t, o'.before.length ≤ o.before.length) :
    ∃ earlier, find.occurrences t = earlier ++ [o] := by
  obtain ⟨earlier, later, split⟩ := List.append_of_mem member
  obtain ⟨_, -, -, nonempty⟩ := found_of_mem_occurrences member
  cases later with
  | nil => exact ⟨earlier, split⟩
  | cons o' later =>
      have order := pairwise_occurrences find t
      rw [split] at order
      have behind := (List.pairwise_append.mp order).2.1
      have ends := (List.pairwise_cons.mp behind).1 o' List.mem_cons_self
      have starts := last o' (by rw [split]; simp)
      have long := List.length_pos_of_ne_nil nonempty
      omega

/-- What stands before an occurrence is a beginning of the text. -/
theorem before_isPrefix {t : Text} {o : Occurrence α} (h : o ∈ find.occurrences t) :
    o.before <+: t := by
  rw [← split_of_mem_occurrences h, List.append_assoc]
  exact List.prefix_append ..

/-- What stands after an occurrence is an end of the text. -/
theorem after_isSuffix {t : Text} {o : Occurrence α} (h : o ∈ find.occurrences t) :
    o.after <:+ t := by
  rw [← split_of_mem_occurrences h]
  exact List.suffix_append ..

/-! ## What is found occurs, or is crossed -/

/-- An occurrence is one of a list, unless one of the list that begins before it reaches beyond its
beginning. -/
def MemOrCrossed (o : Occurrence α) (list : List (Occurrence α)) : Prop :=
  o ∈ list ∨ ∃ o' ∈ list, o'.before.length < o.before.length ∧
    o.before.length < o'.before.length + o'.fragment.length

theorem MemOrCrossed.cons {o : Occurrence α} {list : List (Occurrence α)}
    (h : MemOrCrossed o list) (first : Occurrence α) : MemOrCrossed o (first :: list) := by
  rcases h with member | ⟨o', member, crosses⟩
  · exact .inl (List.mem_cons_of_mem first member)
  · exact .inr ⟨o', List.mem_cons_of_mem first member, crosses⟩

/-- If a place of a text is not inside a beginning of the text, the beginning stands before it, and
behind the beginning the text goes on to the place. -/
theorem exists_behind_take {t gone rest : Text} {length : Nat} (split : t = gone ++ rest)
    (reaches : (t.take length).length ≤ gone.length) :
    ∃ more, gone = t.take length ++ more ∧ t.drop length = more ++ rest := by
  obtain ⟨more, behind⟩ : t.take length <+: gone :=
    List.prefix_of_prefix_length_le (List.take_prefix ..) ⟨rest, split.symm⟩ reaches
  have joined : t.take length ++ t.drop length = t.take length ++ (more ++ rest) := by
    rw [List.take_append_drop, ← List.append_assoc, behind]
    exact split
  exact ⟨more, behind.symm, List.append_cancel_left joined⟩

/-- A place inside a fragment is its beginning, where nothing else is found, or is crossed by it. -/
theorem memOrCrossed_inside {previous : Option Char} {t passed gone rest : Text} {value value' : α}
    {length length' : Nat} {others : List (Occurrence α)} (split : t = gone ++ rest)
    (found' : find previous t = some (value', length' + 1))
    (found : find (lastOr previous gone) rest = some (value, length + 1))
    (inside : gone.length < (t.take (length' + 1)).length) :
    MemOrCrossed ⟨passed ++ gone, rest.take (length + 1), rest.drop (length + 1), value⟩
      (⟨passed, t.take (length' + 1), t.drop (length' + 1), value'⟩ :: others) := by
  cases gone with
  | nil =>
      obtain rfl : t = rest := split
      rw [lastOr_nil, found'] at found
      cases found
      rw [List.append_nil]
      exact .inl List.mem_cons_self
  | cons d gone =>
      refine .inr ⟨_, List.mem_cons_self, ?_, ?_⟩
      · show passed.length < (passed ++ d :: gone).length
        rw [List.length_append, List.length_cons]
        omega
      · show (passed ++ d :: gone).length < passed.length + (t.take (length' + 1)).length
        rw [List.length_append]
        omega

/-- The induction is on the scan.  `passed` and `gone` are the text before the
place: what the scan had passed at the start and what it has still to pass. -/
theorem Scans.memOrCrossed {previous : Option Char} {t : Text} {segments : List (Segment α)}
    (scan : Scans find previous t segments) :
    ∀ (passed : Text) {gone rest : Text} {value : α} {length : Nat}, t = gone ++ rest → rest ≠ [] →
      find (lastOr previous gone) rest = some (value, length + 1) →
      MemOrCrossed ⟨passed.reverse ++ gone, rest.take (length + 1), rest.drop (length + 1), value⟩
        (occurrencesFrom passed segments) := by
  induction scan with
  | done =>
      intro passed gone rest value length split nonempty _
      exact absurd (List.append_eq_nil_iff.mp split.symm).2 nonempty
  | @plain previous c tail segments nothing scan ih =>
      intro passed gone rest value length split nonempty found
      cases gone with
      | nil =>
          rw [List.nil_append] at split
          rw [lastOr_nil, ← split] at found
          exact absurd found (nothing value length)
      | cons d gone =>
          obtain ⟨rfl, split'⟩ := List.cons.inj (split.trans (List.cons_append ..))
          rw [lastOr_cons] at found
          have later := ih (c :: passed) split' nonempty found
          rwa [List.reverse_cons, List.append_assoc, List.singleton_append] at later
  | @hit previous c tail value' length' segments found' scan ih =>
      intro passed gone rest value length split nonempty found
      by_cases reaches : ((c :: tail).take (length' + 1)).length ≤ gone.length
      · -- The place is not inside the fragment, so the scan goes on to it.
        obtain ⟨more, rfl, split'⟩ := exists_behind_take split reaches
        rw [lastOr_append, List.take_succ_cons, lastOr_cons] at found
        have later := ih (((c :: tail).take (length' + 1)).reverse ++ passed) split' nonempty found
        rw [List.reverse_append, List.reverse_reverse, List.append_assoc] at later
        exact later.cons _
      · rw [occurrencesFrom, scan.text_eq]
        exact memOrCrossed_inside split found' found (Nat.lt_of_not_le reaches)

/-- A fragment found at a place is an occurrence, unless one that begins before
the place reaches beyond it. -/
theorem mem_occurrences_or_crossed {before rest : Text} {value : α} {length : Nat}
    (found : find before.getLast? rest = some (value, length + 1)) (nonempty : rest ≠ []) :
    ⟨before, rest.take (length + 1), rest.drop (length + 1), value⟩ ∈
        find.occurrences (before ++ rest) ∨
      ∃ o ∈ find.occurrences (before ++ rest), o.before.length < before.length ∧
        before.length < o.before.length + o.fragment.length := by
  rw [← lastOr_none] at found
  exact (scans_segments find (before ++ rest)).memOrCrossed [] rfl nonempty found

/-! ## Texts without occurrences -/

/-- A text has no occurrences if and only if the finder finds nothing at any place of it. -/
theorem occurrences_eq_nil_iff {t : Text} :
    find.occurrences t = [] ↔
      ∀ before rest, t = before ++ rest → rest ≠ [] →
        find.FindsNothing before.getLast? rest := by
  constructor
  · rintro none before rest rfl nonempty value length found
    cases mem_occurrences_or_crossed found nonempty with
    | inl member => rw [none] at member; cases member
    | inr crossed =>
        obtain ⟨o, member, _⟩ := crossed
        rw [none] at member
        cases member
  · intro nothing
    refine List.eq_nil_iff_forall_not_mem.mpr fun o member => ?_
    obtain ⟨length, found, _, nonempty⟩ := found_of_mem_occurrences member
    have split := split_of_mem_occurrences member
    rw [List.append_assoc] at split
    exact nothing _ _ split.symm (List.append_ne_nil_of_left_ne_nil nonempty _) _ _ found

theorem plain_of_occurrencesFrom_eq_nil {segments : List (Segment α)} :
    ∀ {passed : Text}, occurrencesFrom passed segments = [] →
      ∀ s ∈ segments, ∃ c, s = .plain c := by
  induction segments with
  | nil => intro passed _ s hs; cases hs
  | cons first rest ih =>
      intro passed none s hs
      cases first with
      | hit fragment value => cases none
      | plain c =>
          cases List.mem_cons.mp hs with
          | inl same => exact ⟨c, same⟩
          | inr later => exact ih none s later

/-- A replacement leaves a text without occurrences as it is. -/
theorem replaceAll_eq_self {replacement : Text → α → Text} {t : Text}
    (none : find.occurrences t = []) : find.replaceAll replacement t = t := by
  have plain := plain_of_occurrencesFrom_eq_nil none
  unfold replaceAll
  refine (List.flatMap_congr fun s hs => ?_).trans (text_segments find t)
  obtain ⟨c, rfl⟩ := plain s hs
  rfl

/-! ## What no occurrence covers -/

/-- The character at a position of a text belongs to an occurrence. -/
def Covers (o : Occurrence α) (position : Nat) : Prop :=
  o.before.length ≤ position ∧ position < o.before.length + o.fragment.length

/-- A character outside every fragment stands at a place that no occurrence covers. -/
theorem exists_uncovered_of_plain {segments : List (Segment α)} {c : Char} :
    ∀ passed : Text, .plain c ∈ segments →
      ∃ front back, Segment.text segments = front ++ c :: back ∧
        ∀ o ∈ occurrencesFrom passed segments, ¬ Covers o (passed.length + front.length) := by
  induction segments with
  | nil => intro passed h; cases h
  | cons s rest ih =>
      intro passed h
      cases s with
      | plain d =>
          cases List.mem_cons.mp h with
          | inl same =>
              obtain rfl := Segment.plain.inj same
              refine ⟨[], Segment.text rest, rfl, fun o member covers => ?_⟩
              have behind : (c :: passed).length ≤ o.before.length := length_le_before member
              have starts : o.before.length ≤ passed.length := covers.1
              rw [List.length_cons] at behind
              omega
          | inr later =>
              obtain ⟨front, back, split, free⟩ := ih (d :: passed) later
              refine ⟨d :: front, back, congrArg (d :: ·) split, fun o member => ?_⟩
              rw [List.length_cons, Nat.add_comm front.length, ← Nat.add_assoc]
              exact free o member
      | hit fragment value =>
          cases List.mem_cons.mp h with
          | inl same => cases same
          | inr later =>
              obtain ⟨front, back, split, free⟩ := ih (fragment.reverse ++ passed) later
              refine ⟨fragment ++ front, back, ?_, fun o member covers => ?_⟩
              · rw [Segment.text, List.flatMap_cons, ← Segment.text, split, List.append_assoc]
                rfl
              · rw [List.length_append] at covers
                cases List.mem_cons.mp member with
                | inl same =>
                    subst same
                    have ends : passed.length + (fragment.length + front.length) <
                        passed.reverse.length + fragment.length := covers.2
                    rw [List.length_reverse] at ends
                    omega
                | inr later' =>
                    refine free o later' ?_
                    rwa [List.length_append, List.length_reverse, Nat.add_comm fragment.length,
                      Nat.add_assoc]

/-- A character that no occurrence covers is outside every fragment. -/
theorem plain_or_covered {segments : List (Segment α)} :
    ∀ (passed : Text) {front back : Text} {c : Char}, Segment.text segments = front ++ c :: back →
      .plain c ∈ segments ∨
        ∃ o ∈ occurrencesFrom passed segments, Covers o (passed.length + front.length) := by
  induction segments with
  | nil =>
      intro passed front back c split
      exact absurd split.symm (List.append_ne_nil_of_right_ne_nil _ (List.cons_ne_nil c back))
  | cons s rest ih =>
      intro passed front back c split
      cases s with
      | plain d =>
          cases front with
          | nil =>
              obtain ⟨rfl, -⟩ := List.cons.inj split
              exact .inl List.mem_cons_self
          | cons e front =>
              obtain ⟨rfl, split'⟩ := List.cons.inj split
              refine (ih (d :: passed) split').imp (List.mem_cons_of_mem _) ?_
              rintro ⟨o, member, covers⟩
              refine ⟨o, member, ?_⟩
              rwa [List.length_cons, Nat.add_comm front.length, ← Nat.add_assoc]
      | hit fragment value =>
          rw [Segment.text, List.flatMap_cons, ← Segment.text, Segment.chars] at split
          by_cases inside : front.length < fragment.length
          · refine .inr ⟨_, List.mem_cons_self, ?_, ?_⟩
            · show passed.reverse.length ≤ passed.length + front.length
              rw [List.length_reverse]
              omega
            · show passed.length + front.length < passed.reverse.length + fragment.length
              rw [List.length_reverse]
              omega
          · obtain ⟨front', rfl⟩ : fragment <+: front :=
              List.prefix_of_prefix_length_le ⟨_, split⟩ (List.prefix_append ..) (by omega)
            rw [List.append_assoc] at split
            refine (ih (fragment.reverse ++ passed) (List.append_cancel_left split)).imp
              (List.mem_cons_of_mem _) ?_
            rintro ⟨o, member, covers⟩
            refine ⟨o, List.mem_cons_of_mem _ member, ?_⟩
            rw [List.length_append, List.length_reverse, Nat.add_comm fragment.length,
              Nat.add_assoc] at covers
            rwa [List.length_append]

/-- If every fragment is replaced by characters of a kind, all that is left is of this kind exactly
if occurrences cover everything else. -/
theorem all_replaceAll_iff {replacement : Text → α → Text} {p : Char → Bool}
    (replaced : ∀ fragment value, (replacement fragment value).all p = true) {t : Text} :
    (find.replaceAll replacement t).all p = true ↔
      ∀ front c back, t = front ++ c :: back → p c = false →
        ∃ o ∈ find.occurrences t, Covers o front.length := by
  have left : (find.replaceAll replacement t).all p = true ↔
      ∀ c, .plain c ∈ find.segments t → p c = true := by
    unfold replaceAll
    rw [List.all_flatMap, List.all_eq_true]
    constructor
    · intro all c member
      simpa using all _ member
    · intro all s member
      cases s with
      | plain c => simpa using all c member
      | hit fragment value => exact replaced fragment value
  rw [left]
  constructor
  · intro all front c back split other
    have text : Segment.text (find.segments t) = front ++ c :: back :=
      (text_segments find t).trans split
    rcases plain_or_covered [] text with plain | ⟨o, member, covers⟩
    · rw [all c plain] at other
      cases other
    · exact ⟨o, member, by rwa [List.length_nil, Nat.zero_add] at covers⟩
  · intro all c plain
    by_contra other
    obtain ⟨front, back, split, free⟩ := exists_uncovered_of_plain [] plain
    rw [text_segments] at split
    obtain ⟨o, member, covers⟩ := all front c back split (Bool.eq_false_iff.mpr other)
    refine free o member ?_
    rwa [List.length_nil, Nat.zero_add]

/-! ## Finders that do not look back -/

/-- What the finder finds does not depend on the character before the place. -/
def NeverLooksBack (find : Finder α) : Prop :=
  ∀ previous previous' t, find previous t = find previous' t

theorem NeverLooksBack.segmentsFrom_eq (h : find.NeverLooksBack) (t : Text) :
    ∀ (previous : Option Char) (skip : Nat),
      segmentsFrom find previous skip t = find.segments (t.drop skip) := by
  induction t with
  | nil =>
      intro previous skip
      rw [List.drop_nil]
      rfl
  | cons c rest ih =>
      intro previous skip
      cases skip with
      | succ skip => exact ih (some c) skip
      | zero =>
          show _ = segmentsFrom find none 0 (c :: rest)
          unfold segmentsFrom
          rw [h previous none]

/-- A character at which nothing is found is left alone. -/
theorem NeverLooksBack.replaceAll_cons (h : find.NeverLooksBack) {replacement : Text → α → Text}
    {c : Char} {rest : Text} (nothing : find.FindsNothing none (c :: rest)) :
    find.replaceAll replacement (c :: rest) = c :: find.replaceAll replacement rest := by
  have plain : find.segments (c :: rest) = .plain c :: find.segments rest := by
    show segmentsFrom find none 0 (c :: rest) = _
    unfold segmentsFrom
    split
    · next value length found => exact absurd found (nothing value length)
    · rw [h.segmentsFrom_eq rest (some c) 0, List.drop_zero]
  unfold replaceAll
  rw [plain]
  rfl

/-- A fragment that is found is replaced, and the rest of the text by itself. -/
theorem NeverLooksBack.replaceAll_hit (h : find.NeverLooksBack) {replacement : Text → α → Text}
    {fragment rest : Text} {value : α} (nonempty : fragment ≠ [])
    (found : find none (fragment ++ rest) = some (value, fragment.length)) :
    find.replaceAll replacement (fragment ++ rest) =
      replacement fragment value ++ find.replaceAll replacement rest := by
  cases fragment with
  | nil => exact absurd rfl nonempty
  | cons c fragment =>
      rw [List.cons_append, List.length_cons] at found
      have hit : find.segments (c :: (fragment ++ rest)) =
          .hit (c :: fragment) value :: find.segments rest := by
        show segmentsFrom find none 0 (c :: (fragment ++ rest)) = _
        unfold segmentsFrom
        rw [found]
        simp only [h.segmentsFrom_eq, List.drop_left, List.take_succ_cons, List.take_left]
      unfold replaceAll
      rw [List.cons_append, hit]
      rfl

end Finder

end ReleaseCatalog
