import Mathlib.Data.List.Infix
import ReleaseCatalog.Proofs.Text.Scanning

/-!
# Readers that need a character

A reader *needs* a class of characters if it reads nothing from a text that has
none of the class.  A sequence needs what any part of it needs, and a choice
needs what all its parts need.  The finder of such a reader has no occurrences
in a text without the class, and so replacing them changes nothing.
-/

namespace ReleaseCatalog

namespace Reader

variable {p : Char → Bool} {first second r : Reader} {readers : List Reader}

/-- A text without a character that satisfies `p` cannot be read. -/
def Needs (p : Char → Bool) (r : Reader) : Prop := ∀ t, (∀ c ∈ t, p c = false) → r t = []

theorem needs_one (p : Char → Bool) : Needs p (one p) := by
  intro t without
  cases t with
  | nil => rfl
  | cons c rest =>
      have hc : p c = false := without c List.mem_cons_self
      simp [one, hc]

theorem Needs.seq_left (h : Needs p first) : Needs p (seq first second) := by
  intro t without
  unfold seq
  rw [h t without, List.flatMap_nil]

theorem Needs.seq_right (shortens : Shortens first) (h : Needs p second) :
    Needs p (seq first second) := by
  intro t without
  refine List.flatMap_eq_nil_iff.mpr fun rest hrest => h rest fun c hc => ?_
  exact without c ((shortens t rest hrest).subset hc)

theorem Needs.choice (h : ∀ r ∈ readers, Needs p r) : Needs p (choice readers) := by
  intro t without
  exact List.flatMap_eq_nil_iff.mpr fun r hr => h r hr t without

/-- It is enough that one reader of a row needs the class. -/
theorem Needs.all (front : List Reader) {back : List Reader}
    (shortens : ∀ f ∈ front, Shortens f) (h : Needs p r) :
    Needs p (all (front ++ r :: back)) := by
  induction front with
  | nil => exact h.seq_left
  | cons f front ih =>
      exact .seq_right (shortens f List.mem_cons_self)
        (ih fun f' hf' => shortens f' (List.mem_cons_of_mem _ hf'))

theorem needs_many1 (p : Char → Bool) : Needs p (many1 p) := (needs_one p).seq_left

theorem needs_between (p : Char → Bool) (lo hi : Nat) : Needs p (between p (lo + 1) hi) := by
  have exact_one : Needs p (exactly p (lo + 1)) := (needs_one p).seq_left
  exact exact_one.seq_left

theorem shortens_word (w : String) : Shortens (word w) := by
  refine Shortens.all fun r hr => ?_
  obtain ⟨l, -, rfl⟩ := List.mem_map.mp hr
  exact shortens_one _

/-- Without the class the finder of the reader has no occurrences. -/
theorem Needs.occurrences_eq_nil (h : Needs p r) (boundary : Option Char → Bool) {t : Text}
    (without : ∀ c ∈ t, p c = false) : (Finder.ofReader boundary r).occurrences t = [] := by
  rw [Finder.occurrences_eq_nil_iff]
  rintro before rest rfl - value length found
  have none : r rest = [] := h rest fun c hc => without c (List.mem_append_right _ hc)
  simp [Finder.ofReader, none] at found

end Reader

end ReleaseCatalog
