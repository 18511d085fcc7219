import Mathlib.Data.Finset.Card
import Mathlib.Data.Prod.Lex
import Mathlib.Order.WithBot
import ReleaseCatalog.Matching.TitleMatch
import ReleaseCatalog.Proofs.Matching.Lowest

/-!
# Retrying with exclusions

A caller that is not content with the entry that a title selects excludes its number and asks
again.  `titleKey` is what entries are selected by, with years that are not known after all
others, and `nearestByTitle_eq_some_iff` says which entry an answer is: the first accepted one
whose key is lowest.

`retries` are the answers of such calls.  Excluding a number takes this one number from those
that are open, together with every entry that has it (`openNumbers_cons`), and no key that is
left is below that of the answer.  So by induction on the open numbers the answers go through
all of them, each once and with keys that never fall, and then there is none
(`enumerates_of_card`).
-/

namespace ReleaseCatalog.Matching

variable {titles : List Text} {year : Option Int} {excluded : List Int} {candidates : List Entry}
variable {e : Entry}

/-! ## Keys -/

/-- How many years an entry is away from a year.  An entry without a year is farther than any
other. -/
def yearDistance (asked : Int) (e : Entry) : WithTop ℕ :=
  match e.year with
  | some known => WithTop.some (known - asked).natAbs
  | none => ⊤

/-- What entries are selected by: the distance from the year that is asked for, if one is, and
then the number. -/
def titleKey : Option Int → Entry → WithTop ℕ ×ₗ ℤ
  | some asked, e => toLex (yearDistance asked e, e.id)
  | none, e => toLex (WithTop.some 0, e.id)

/-- Ranks of entries compare as their keys. -/
theorem yearRank_le_iff {e e' : Entry} :
    yearRank year e ≤ yearRank year e' ↔ titleKey year e ≤ titleKey year e' := by
  rw [← rank_le_iff]
  cases year with
  | none =>
      show @LE.le _ List.instLE [e.id] [e'.id] ↔ toLex _ ≤ toLex _
      rw [List.cons_le_cons_iff, Prod.Lex.toLex_le_toLex]
      simp [le_iff_lt_or_eq]
  | some asked =>
      show _ ↔ toLex (yearDistance asked e, e.id) ≤ toLex (yearDistance asked e', e'.id)
      rw [Prod.Lex.toLex_le_toLex]
      unfold yearRank yearDistance
      cases e.year with
      | none =>
          cases e'.year with
          | none => simp [List.cons_le_cons_iff, le_iff_lt_or_eq]
          | some known => simp [List.cons_le_cons_iff]
      | some known =>
          cases e'.year with
          | none => simp [List.cons_le_cons_iff]
          | some known' =>
              simp only [List.cons_le_cons_iff, Int.ofNat_lt, Int.ofNat_inj, WithTop.coe_lt_coe,
                WithTop.coe_inj]
              simp [le_iff_lt_or_eq]

/-! ## The entry that is selected -/

section First

variable {α β : Type} [LinearOrder β] {key : α → β} {list : List α} {a : α}

/-- The first element with the lowest key has a lower key than all before it, and none behind it has
a lower one. -/
theorem minOn?_eq_some_iff :
    list.minOn? key = some a ↔ ∃ front back, list = front ++ a :: back ∧
      (∀ b ∈ front, key a < key b) ∧ ∀ b ∈ back, key a ≤ key b := by
  constructor
  · intro found
    induction list with
    | nil => cases found
    | cons first rest ih =>
        rw [List.minOn?_cons] at found
        cases foundLater : rest.minOn? key with
        | none =>
            obtain rfl : rest = [] := minOn?_eq_none_iff.mp foundLater
            cases found
            exact ⟨[], [], rfl, by simp, by simp⟩
        | some best =>
            rw [foundLater] at found
            by_cases below : key first ≤ key best
            · obtain rfl : first = a := by simpa [minOn_eq_left below] using found
              refine ⟨[], rest, rfl, by simp, fun b hb => ?_⟩
              exact below.trans (key_le_of_minOn? foundLater hb)
            · obtain rfl : best = a := by simpa [minOn_eq_right below] using found
              obtain ⟨front, back, rfl, before, behind⟩ := ih foundLater
              refine ⟨first :: front, back, rfl, fun b hb => ?_, behind⟩
              cases List.mem_cons.mp hb with
              | inl same => rw [same]; exact not_le.mp below
              | inr later => exact before b later
  · rintro ⟨front, back, rfl, before, behind⟩
    have last : (a :: back).minOn? key = some a := by
      rw [List.minOn?_cons]
      cases found : back.minOn? key with
      | none => rfl
      | some best => exact congrArg some (minOn_eq_left (behind best (List.minOn?_mem found)))
    rw [List.minOn?_append, last]
    cases found : front.minOn? key with
    | none => rfl
    | some best =>
        exact congrArg some (minOn_eq_right (before best (List.minOn?_mem found)).not_ge)

/-- The first element with the lowest key among those that are kept has its place among all. -/
theorem minOn?_filter_eq_some_iff {keep : α → Bool} :
    (list.filter keep).minOn? key = some a ↔
      keep a = true ∧ ∃ front back, list = front ++ a :: back ∧
        (∀ b ∈ front, keep b = true → key a < key b) ∧
        ∀ b ∈ back, keep b = true → key a ≤ key b := by
  rw [minOn?_eq_some_iff]
  constructor
  · rintro ⟨front, back, split, before, behind⟩
    obtain ⟨front, rest, rfl, rfl, restEq⟩ := List.filter_eq_append_iff.mp split
    obtain ⟨skipped, back, rfl, dropped, kept, rfl⟩ := List.filter_eq_cons_iff.mp restEq
    refine ⟨kept, front ++ skipped, back, by simp, fun b hb keeps => ?_, fun b hb keeps => ?_⟩
    · cases List.mem_append.mp hb with
      | inl listed => exact before b (List.mem_filter.mpr ⟨listed, keeps⟩)
      | inr between => exact absurd keeps (dropped b between)
    · exact behind b (List.mem_filter.mpr ⟨hb, keeps⟩)
  · rintro ⟨kept, front, back, rfl, before, behind⟩
    refine ⟨front.filter keep, back.filter keep, ?_, fun b hb => ?_, fun b hb => ?_⟩
    · rw [List.filter_append, List.filter_cons_of_pos kept]
    · exact before b (List.mem_filter.mp hb).1 (List.mem_filter.mp hb).2
    · exact behind b (List.mem_filter.mp hb).1 (List.mem_filter.mp hb).2

end First

/-- The candidates that may be answered have the key of an accepted title and a number that is not
excluded. -/
def IsOpen (titles : List Text) (excluded : List Int) (e : Entry) : Prop :=
  e.key ∈ titles.map Title.key ∧ e.id ∉ excluded

theorem isOpen_iff : ((titles.map Title.key).contains e.key && !excluded.contains e.id) = true ↔
    IsOpen titles excluded e := by
  unfold IsOpen
  simp

theorem mem_accepted_iff :
    e ∈ accepted titles excluded candidates ↔ e ∈ candidates ∧ IsOpen titles excluded e := by
  unfold accepted
  rw [List.mem_filter, isOpen_iff]

/-- An answer is the first of the candidates that may be answered whose key is lowest: the keys of
those before it are higher, and no key of those behind it is lower. -/
theorem nearestByTitle_eq_some_iff :
    nearestByTitle titles year excluded candidates = some e ↔
      IsOpen titles excluded e ∧ ∃ front back, candidates = front ++ e :: back ∧
        (∀ b ∈ front, IsOpen titles excluded b → titleKey year e < titleKey year b) ∧
        ∀ b ∈ back, IsOpen titles excluded b → titleKey year e ≤ titleKey year b := by
  rw [nearestByTitle_eq_minOn?, minOn?_congr fun _ _ => yearRank_le_iff]
  unfold accepted
  rw [minOn?_filter_eq_some_iff]
  simp only [isOpen_iff]

/-- There is no answer exactly if no candidate may be answered. -/
theorem nearestByTitle_eq_none_iff :
    nearestByTitle titles year excluded candidates = none ↔
      ∀ e ∈ candidates, ¬IsOpen titles excluded e := by
  rw [nearestByTitle_eq_minOn?, minOn?_eq_none_iff, List.eq_nil_iff_forall_not_mem]
  simp only [mem_accepted_iff, not_and]

/-! ## Retries -/

/-- The answers of calls in a row, each of which excludes the numbers of the answers before it
too. -/
def retries (titles : List Text) (year : Option Int) (candidates : List Entry) :
    Nat → List Int → List (Option Entry)
  | 0, _ => []
  | n + 1, excluded =>
      match nearestByTitle titles year excluded candidates with
      | some e => some e :: retries titles year candidates n (e.id :: excluded)
      | none => none :: retries titles year candidates n excluded
termination_by structural n => n

/-- The numbers of the candidates that may be answered. -/
def openNumbers (titles : List Text) (excluded : List Int) (candidates : List Entry) :
    Finset Int :=
  ((accepted titles excluded candidates).map Entry.id).toFinset

theorem mem_openNumbers {i : Int} : i ∈ openNumbers titles excluded candidates ↔
    ∃ e ∈ candidates, IsOpen titles excluded e ∧ e.id = i := by
  unfold openNumbers
  simp only [List.mem_toFinset, List.mem_map, mem_accepted_iff, and_assoc]

theorem isOpen_cons {i : Int} :
    IsOpen titles (i :: excluded) e ↔ IsOpen titles excluded e ∧ e.id ≠ i := by
  unfold IsOpen
  rw [List.mem_cons, not_or]
  tauto

/-- Excluding a number closes the entries that have it, and no others. -/
theorem openNumbers_cons {i : Int} : openNumbers titles (i :: excluded) candidates =
    (openNumbers titles excluded candidates).erase i := by
  ext j
  rw [Finset.mem_erase, mem_openNumbers, mem_openNumbers]
  constructor
  · rintro ⟨e, listed, opened, rfl⟩
    obtain ⟨opened, differ⟩ := isOpen_cons.mp opened
    exact ⟨differ, e, listed, opened, rfl⟩
  · rintro ⟨differ, e, listed, opened, rfl⟩
    exact ⟨e, listed, isOpen_cons.mpr ⟨opened, differ⟩, rfl⟩

/-- An answer is a candidate that may be answered, and the key of none is lower. -/
theorem lowest_of_nearestByTitle
    (answer : nearestByTitle titles year excluded candidates = some e) :
    e ∈ candidates ∧ IsOpen titles excluded e ∧
      ∀ b ∈ candidates, IsOpen titles excluded b → titleKey year e ≤ titleKey year b := by
  obtain ⟨opened, front, back, rfl, before, behind⟩ := nearestByTitle_eq_some_iff.mp answer
  refine ⟨by simp, opened, fun b hb openedOther => ?_⟩
  rcases List.mem_append.mp hb with listed | listed
  · exact (before b listed openedOther).le
  · cases List.mem_cons.mp listed with
    | inl same => rw [same]
    | inr later => exact behind b later openedOther

/-- The entries are the answers of repeated calls.  There is one for each number of a candidate
that may be answered, it is of the lowest key of those with its number, and no answer has a lower
key than an earlier one.  Then no more entries are found. -/
structure Enumerates (titles : List Text) (year : Option Int) (excluded : List Int)
    (candidates found : List Entry) : Prop where
  answers : ∀ more, retries titles year candidates (found.length + more) excluded =
    found.map some ++ List.replicate more none
  numbers : ∀ i, i ∈ found.map Entry.id ↔ i ∈ openNumbers titles excluded candidates
  distinct : (found.map Entry.id).Nodup
  listed : ∀ e ∈ found, e ∈ candidates ∧ IsOpen titles excluded e
  lowest : ∀ e ∈ found, ∀ b ∈ candidates, IsOpen titles excluded b → b.id = e.id →
    titleKey year e ≤ titleKey year b
  ordered : found.Pairwise fun e later => titleKey year e ≤ titleKey year later

theorem enumerates_nil (closed : nearestByTitle titles year excluded candidates = none) :
    Enumerates titles year excluded candidates [] where
  answers more := by
    rw [List.length_nil, Nat.zero_add, List.map_nil, List.nil_append]
    induction more with
    | zero => rfl
    | succ more ih =>
        rw [retries, closed, List.replicate_succ]
        exact congrArg (none :: ·) ih
  numbers i := by
    rw [mem_openNumbers]
    refine iff_of_false List.not_mem_nil ?_
    rintro ⟨e, member, opened, _⟩
    exact nearestByTitle_eq_none_iff.mp closed e member opened
  distinct := List.nodup_nil
  listed := fun _ member => absurd member List.not_mem_nil
  lowest := fun _ member => absurd member List.not_mem_nil
  ordered := List.Pairwise.nil

/-- The answers to calls that exclude the first answer's number follow the first answer. -/
theorem Enumerates.cons {found : List Entry}
    (answer : nearestByTitle titles year excluded candidates = some e)
    (rest : Enumerates titles year (e.id :: excluded) candidates found) :
    Enumerates titles year excluded candidates (e :: found) := by
  obtain ⟨member, opened, lowest⟩ := lowest_of_nearestByTitle answer
  have listedLater : ∀ later ∈ found, later ∈ candidates ∧ IsOpen titles excluded later ∧
      later.id ≠ e.id := fun later found =>
    ⟨(rest.listed later found).1, isOpen_cons.mp (rest.listed later found).2⟩
  constructor
  case answers =>
    intro more
    rw [List.length_cons, Nat.succ_add, retries, answer, List.map_cons, List.cons_append]
    exact congrArg (some e :: ·) (rest.answers more)
  case numbers =>
    intro i
    have tail := rest.numbers i
    rw [openNumbers_cons, Finset.mem_erase] at tail
    rw [List.map_cons, List.mem_cons, tail]
    have numbered := mem_openNumbers.mpr ⟨e, member, opened, rfl⟩
    constructor
    · rintro (rfl | ⟨_, listed⟩)
      · exact numbered
      · exact listed
    · intro listed
      by_cases same : i = e.id
      · exact .inl same
      · exact .inr ⟨same, listed⟩
  case distinct =>
    refine List.nodup_cons.mpr ⟨fun again => ?_, rest.distinct⟩
    obtain ⟨later, found, same⟩ := List.mem_map.mp again
    exact (listedLater later found).2.2 same
  case listed =>
    intro later hl
    cases List.mem_cons.mp hl with
    | inl same => exact same ▸ ⟨member, opened⟩
    | inr found => exact ⟨(listedLater later found).1, (listedLater later found).2.1⟩
  case lowest =>
    intro later hl b hb openedOther same
    cases List.mem_cons.mp hl with
    | inl first => exact first ▸ lowest b hb openedOther
    | inr found =>
        refine rest.lowest later found b hb (isOpen_cons.mpr ⟨openedOther, ?_⟩) same
        exact same ▸ (listedLater later found).2.2
  case ordered =>
    refine List.pairwise_cons.mpr ⟨fun later found => ?_, rest.ordered⟩
    exact lowest later (listedLater later found).1 (listedLater later found).2.1

/-- The induction is on the numbers that are open.  The number of an answer is one of them, and
the next call excludes it. -/
theorem enumerates_of_card (titles : List Text) (year : Option Int) (candidates : List Entry)
    (left : Nat) (excluded : List Int)
    (card : (openNumbers titles excluded candidates).card = left) :
    ∃ found, Enumerates titles year excluded candidates found := by
  induction left generalizing excluded with
  | zero =>
      refine ⟨[], enumerates_nil (nearestByTitle_eq_none_iff.mpr fun e member opened => ?_)⟩
      have numbered := mem_openNumbers.mpr ⟨e, member, opened, rfl⟩
      rw [Finset.card_eq_zero.mp card] at numbered
      exact Finset.notMem_empty _ numbered
  | succ left ih =>
      cases answer : nearestByTitle titles year excluded candidates with
      | none => exact ⟨[], enumerates_nil answer⟩
      | some e =>
          obtain ⟨member, opened, _⟩ := lowest_of_nearestByTitle answer
          have numbered := mem_openNumbers.mpr ⟨e, member, opened, rfl⟩
          obtain ⟨found, rest⟩ := ih (e.id :: excluded) (by
            rw [openNumbers_cons, Finset.card_erase_of_mem numbered, card, Nat.add_sub_cancel])
          exact ⟨e :: found, rest.cons answer⟩

/-- There are as many answers as open numbers. -/
theorem Enumerates.length_eq {found : List Entry}
    (h : Enumerates titles year excluded candidates found) :
    found.length = (openNumbers titles excluded candidates).card := by
  have numbers : (found.map Entry.id).toFinset = openNumbers titles excluded candidates :=
    Finset.ext fun i => List.mem_toFinset.trans (h.numbers i)
  rw [← numbers, List.toFinset_card_of_nodup h.distinct, List.length_map]

/-- The answer is the first candidate with an accepted title and a number that is not excluded
whose key is lowest, and there is none exactly if there is no such candidate.  Calls that each
exclude the number of the last answer too answer every number of such candidates once, in the
order of the keys, and after as many calls as there are numbers they answer nothing. -/
theorem retries_enumerate (titles : List Text) (year : Option Int) (excluded : List Int)
    (candidates : List Entry) :
    (∀ e, nearestByTitle titles year excluded candidates = some e ↔
      IsOpen titles excluded e ∧ ∃ front back, candidates = front ++ e :: back ∧
        (∀ b ∈ front, IsOpen titles excluded b → titleKey year e < titleKey year b) ∧
        ∀ b ∈ back, IsOpen titles excluded b → titleKey year e ≤ titleKey year b) ∧
    (nearestByTitle titles year excluded candidates = none ↔
      ∀ e ∈ candidates, ¬IsOpen titles excluded e) ∧
    ∃ found, Enumerates titles year excluded candidates found ∧
      found.length = (openNumbers titles excluded candidates).card := by
  refine ⟨fun e => nearestByTitle_eq_some_iff, nearestByTitle_eq_none_iff, ?_⟩
  obtain ⟨found, enumerated⟩ := enumerates_of_card titles year candidates _ excluded rfl
  exact ⟨found, enumerated, enumerated.length_eq⟩

/-- The second entry has the number of the first and goes with it, and the last one has no year. -/
example : (retries [['a']] (some 2000)
    [{ id := 2, title := ['A'], year := some 2008 }, { id := 2, title := ['A'] },
     { id := 3, title := ['A'], year := some 2001 }, { id := 1, title := ['A'] }] 4 []).map
      (Option.map Entry.id) = [some 3, some 2, some 1, none] := by decide

end ReleaseCatalog.Matching
