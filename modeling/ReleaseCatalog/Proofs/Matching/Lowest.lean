import Mathlib.Data.Int.Order.Basic
import Mathlib.Data.List.Lex
import Mathlib.Data.List.Nodup
import Mathlib.Order.Lattice
import ReleaseCatalog.Matching.TitleMatch

/-!
# The choice of a lowest rank

The candidates with the lowest rank are found by the searching and sorting of the standard
library.  It compares lists in an order of its own, which is the linear order of lists
(`rank_le_iff`), and only how ranks compare matters for what is found (`minOn?_congr`).

`ChoosesLowest` says what a choice by rank answers, without saying how it goes through the
list: an element that no other ranks below, or nothing if there is no element.  Several
elements can have the lowest rank, so the answer may depend on their order.  Its rank does
not: two choices among the same elements have answers of the same rank
(`ChoosesLowest.map_rank_eq`), and so of the same number, if every rank ends on the number
of its element (`ChoosesLowest.map_eq`).
-/

namespace ReleaseCatalog.Matching

/-- Ranks are compared in the linear order of lists. -/
theorem rank_le_iff {a b : List Int} : @LE.le _ List.instLE a b ↔ a ≤ b := not_lt

/-! ## The first element with the lowest key -/

section First

variable {α β γ : Type} {list : List α} {a b : α}

/-- Only how keys compare matters for which element is the first with the lowest one. -/
theorem minOn?_congr {_ : LE β} {_ : DecidableLE β} [LE γ] [DecidableLE γ] {key : α → β}
    {key' : α → γ} (same : ∀ a b, key a ≤ key b ↔ key' a ≤ key' b) (list : List α) :
    list.minOn? key = list.minOn? key' := by
  have lower : minOn key = minOn key' := funext₂ fun a b => if_congr (same a b) rfl rfl
  cases list with
  | nil => rfl
  | cons a rest => exact congrArg (fun choose => some (rest.foldl choose a)) lower

theorem minOn?_eq_none_iff [LE β] [DecidableLE β] {key : α → β} :
    list.minOn? key = none ↔ list = [] := by
  rw [← Option.not_isSome_iff_eq_none, List.isSome_minOn?_iff, not_not]

theorem key_le_of_minOn? [LinearOrder β] {key : α → β} (found : list.minOn? key = some a)
    (member : b ∈ list) : key a ≤ key b := by
  have lowest := List.apply_get_minOn?_le_of_mem (f := key) member
  simpa only [found, Option.get_some] using lowest

end First

/-- The nearest entry is the first accepted one with the lowest rank. -/
theorem nearestByTitle_eq_minOn? (titles : List Text) (year : Option Int) (excluded : List Int)
    (candidates : List Entry) :
    nearestByTitle titles year excluded candidates =
      (accepted titles excluded candidates).minOn? (yearRank year) :=
  minOn?_congr (fun _ _ => rank_le_iff) _

variable {α : Type} {rank : α → List Int} {list list' : List α} {answer answer' : Option α}

/-! ## Sorting -/

/-- A list sorted by rank. -/
def sortedBy (rank : α → List Int) (list : List α) : List α :=
  list.mergeSort fun a b => rank a ≤ rank b

theorem decide_rank_trans (rank : α → List Int) (a b c : α) :
    decide (rank a ≤ rank b) = true → decide (rank b ≤ rank c) = true →
      decide (rank a ≤ rank c) = true := by
  simpa only [decide_eq_true_eq] using le_trans

theorem decide_rank_total (rank : α → List Int) (a b : α) :
    (decide (rank a ≤ rank b) || decide (rank b ≤ rank a)) = true := by
  simpa only [Bool.or_eq_true, decide_eq_true_eq] using le_total (rank a) (rank b)

theorem perm_sortedBy (rank : α → List Int) (list : List α) : (sortedBy rank list).Perm list :=
  List.mergeSort_perm _ _

/-- Lower ranks come first. -/
theorem pairwise_sortedBy (rank : α → List Int) (list : List α) :
    (sortedBy rank list).Pairwise fun a b => rank a ≤ rank b :=
  (List.pairwise_mergeSort (decide_rank_trans rank) (decide_rank_total rank) list).imp
    of_decide_eq_true

/-- What is in order already keeps its order. -/
theorem sublist_sortedBy (part : list.Sublist list')
    (sorted : list.Pairwise fun a b => rank a ≤ rank b) :
    list.Sublist (sortedBy rank list') :=
  List.sublist_mergeSort (decide_rank_trans rank) (decide_rank_total rank)
    (sorted.imp decide_eq_true) part

/-! ## Choices -/

/-- The answer is an element whose rank is as low as any, or none if there is no element. -/
def ChoosesLowest (rank : α → List Int) (list : List α) : Option α → Prop
  | none => list = []
  | some a => a ∈ list ∧ ∀ b ∈ list, rank a ≤ rank b

theorem choosesLowest_minOn? (rank : α → List Int) (list : List α) :
    ChoosesLowest rank list (list.minOn? rank) := by
  cases found : list.minOn? rank with
  | none => exact minOn?_eq_none_iff.mp found
  | some a => exact ⟨List.minOn?_mem found, fun _ member => key_le_of_minOn? found member⟩

/-- Choices among the same elements have answers of the same rank. -/
theorem ChoosesLowest.map_rank_eq (h : ChoosesLowest rank list answer)
    (h' : ChoosesLowest rank list' answer') (same : ∀ a, a ∈ list ↔ a ∈ list') :
    answer.map rank = answer'.map rank := by
  cases answer with
  | none =>
      obtain rfl : list = [] := h
      cases answer' with
      | none => rfl
      | some b => exact absurd ((same b).mpr h'.1) List.not_mem_nil
  | some a =>
      cases answer' with
      | none =>
          obtain rfl : list' = [] := h'
          exact absurd ((same a).mp h.1) List.not_mem_nil
      | some b =>
          have below := h.2 b ((same b).mpr h'.1)
          have above := h'.2 a ((same a).mp h.1)
          exact congrArg some (le_antisymm below above)

/-- If ranks end on the numbers of the elements, choices among the same elements have answers of
the same number. -/
theorem ChoosesLowest.map_eq {number : α → Int} (last : ∀ a, (rank a).getLast? = some (number a))
    (h : ChoosesLowest rank list answer) (h' : ChoosesLowest rank list' answer')
    (same : ∀ a, a ∈ list ↔ a ∈ list') : answer.map number = answer'.map number := by
  have ranks := h.map_rank_eq h' same
  cases answer with
  | none => exact (Option.map_eq_none_iff.mpr (Option.map_eq_none_iff.mp ranks.symm)).symm
  | some a =>
      cases answer' with
      | none => cases ranks
      | some b =>
          have ends := congrArg List.getLast? (Option.some.inj ranks)
          rw [last, last] at ends
          exact ends

/-- If moreover the numbers tell the elements apart, the answers are the same. -/
theorem ChoosesLowest.unique {number : α → Int} (last : ∀ a, (rank a).getLast? = some (number a))
    (distinct : (list.map number).Nodup) (h : ChoosesLowest rank list answer)
    (h' : ChoosesLowest rank list' answer') (same : ∀ a, a ∈ list ↔ a ∈ list') :
    answer = answer' := by
  have numbers := h.map_eq last h' same
  cases answer with
  | none => exact (Option.map_eq_none_iff.mp numbers.symm).symm
  | some a =>
      cases answer' with
      | none => cases numbers
      | some b =>
          have member := (same b).mpr h'.1
          have number := Option.some.inj numbers
          exact congrArg some (List.inj_on_of_nodup_map distinct h.1 member number)

end ReleaseCatalog.Matching
