/-!
# The first of each key

Several answers of the library are lists without repetition: of a list, the
first element with each key is kept.  `distinctBy` is that list.  Its keys are
pairwise distinct, and they are the keys of the whole list.  `repeatsBy` is the
list of the other elements.
-/

namespace ReleaseCatalog

variable {α β : Type} [DecidableEq β]

/-- The elements that are the first with their key. -/
def distinctBy (key : α → β) : List α → List α
  | [] => []
  | a :: rest => a :: (distinctBy key rest).filter fun b => key b ≠ key a
termination_by structural list => list

/-- The elements whose key is among `seen` or is the key of an earlier element. -/
def repeatsFrom (key : α → β) (seen : List β) : List α → List α
  | [] => []
  | a :: rest =>
      if key a ∈ seen then a :: repeatsFrom key seen rest else repeatsFrom key (key a :: seen) rest
termination_by structural list => list

/-- The elements that are not the first with their key. -/
def repeatsBy (key : α → β) (list : List α) : List α := repeatsFrom key [] list

/-- Only elements of the list are kept, in their order. -/
theorem distinctBy_sublist (key : α → β) (list : List α) : (distinctBy key list).Sublist list := by
  induction list with
  | nil => exact List.Sublist.slnil
  | cons a rest ih => exact (List.filter_sublist.trans ih).cons_cons a

/-- Every key of the list is the key of an element that is kept. -/
theorem exists_mem_distinctBy {key : α → β} {list : List α} {a : α} (h : a ∈ list) :
    ∃ b ∈ distinctBy key list, key b = key a := by
  induction list with
  | nil => cases h
  | cons c rest ih =>
      by_cases hk : key c = key a
      · exact ⟨c, List.mem_cons_self .., hk⟩
      · cases List.mem_cons.mp h with
        | inl he => exact absurd (he ▸ rfl) hk
        | inr hr =>
            obtain ⟨b, hb, hba⟩ := ih hr
            refine ⟨b, List.mem_cons_of_mem _ (List.mem_filter.mpr ⟨hb, ?_⟩), hba⟩
            simpa [hba] using fun h => hk h.symm

/-- No two kept elements have the same key. -/
theorem pairwise_distinctBy (key : α → β) (list : List α) :
    (distinctBy key list).Pairwise fun a b => key a ≠ key b := by
  induction list with
  | nil => exact List.Pairwise.nil
  | cons a rest ih =>
      refine List.Pairwise.cons (fun b hb => ?_) (ih.filter _)
      have := (List.mem_filter.mp hb).2
      simpa using fun h : key a = key b => by simp [h] at this

end ReleaseCatalog
