import Mathlib.Data.List.Basic
import ReleaseCatalog.Unicode.CaseFold

/-!
# Folding settles at once

Whatever a character folds to is its own folding.  The question is one about the
tables: a run must not lead into another run, nor to a character that has an
expansion, and neither must a member of an expansion.  Two runs are told apart
by their ends, or else by parity where capital and small letters alternate
(`FoldRun.avoids`).  `folded_settle` goes through all pairs once, with the
expansions counted as runs of one character.  So each character of a folded
text is its own folding (`foldChar_of_mem_foldChar`), and with that the text
(`foldCase_eq_self`).
-/

namespace ReleaseCatalog.Unicode

namespace FoldRun

/-- The code point is one that the run folds. -/
def Folds (run : FoldRun) (n : Nat) : Prop :=
  run.first ≤ n ∧ n ≤ run.last ∧ (n - run.first) % run.step = 0

/-- What the last character of the run folds to. -/
def targetEnd (run : FoldRun) : Nat := run.target + (run.last - run.first)

/-- Whether the code points of the run are all even or all odd. -/
def alternates (run : FoldRun) : Bool := run.step == 2 || run.first == run.last

/-- Whether what a run folds to is beyond the ends of another or of the other parity. -/
def avoids (run other : FoldRun) : Bool :=
  Nat.blt other.last run.target || Nat.blt run.targetEnd other.first ||
    (run.alternates && other.alternates && (run.target + other.first) % 2 == 1)

/-- Whether all that a run folds to are code points of characters. -/
def isSound (run : FoldRun) : Bool :=
  Nat.blt run.targetEnd 0xD800 || (Nat.blt 0xDFFF run.target && Nat.blt run.targetEnd 0x110000)

/-- The run of one character that folds to another. -/
def single (n target : Nat) : FoldRun := ⟨n, n, 1, target⟩

theorem folds_single (n target : Nat) : (single n target).Folds n :=
  ⟨Nat.le_refl _, Nat.le_refl _, Nat.mod_one _⟩

variable {run other : FoldRun} {n : Nat}

theorem mod_two_eq (h : run.alternates = true) (folds : run.Folds n) :
    (n - run.first) % 2 = 0 := by
  obtain ⟨first_le, le_last, divides⟩ := folds
  simp only [alternates, Bool.or_eq_true, beq_iff_eq] at h
  cases h with
  | inl two => rwa [two] at divides
  | inr single => omega

theorem not_folds_of_avoids (h : run.avoids other = true) (folds : run.Folds n) :
    ¬ other.Folds (run.target + (n - run.first)) := by
  intro folds'
  simp only [avoids, targetEnd, Bool.or_eq_true, Bool.and_eq_true, Nat.blt_eq, beq_iff_eq] at h
  rcases h with (above | below) | ⟨⟨alternate, alternate'⟩, parity⟩
  · exact absurd folds'.2.1 (by omega)
  · exact absurd folds'.1 (by have := folds.2.1; omega)
  · have even := mod_two_eq alternate folds
    have even' := mod_two_eq alternate' folds'
    have := folds'.1
    omega

theorem isValidChar_of_isSound (h : run.isSound = true) (folds : run.Folds n) :
    (run.target + (n - run.first)).isValidChar := by
  obtain ⟨first_le, le_last, -⟩ := folds
  simp only [isSound, targetEnd, Bool.or_eq_true, Bool.and_eq_true, Nat.blt_eq] at h
  unfold Nat.isValidChar
  omega

end FoldRun

/-! ## The tables -/

/-- Runs that fold to what some entry of the tables folds to. -/
def folded : List FoldRun :=
  foldRuns ++ (foldExpansions.flatMap Prod.snd).map fun n => .single n n

/-- Whether what a run folds to is folded by no entry of the tables. -/
def FoldRun.settles (run : FoldRun) : Bool :=
  run.isSound && foldRuns.all run.avoids && foldExpansions.all fun e => run.avoids (.single e.1 0)

theorem folded_settle : folded.all FoldRun.settles = true := by decide +kernel

/-! ## What a lookup answers -/

theorem foldInRuns_of_not_folds {runs : List FoldRun} {n : Nat}
    (h : ∀ run ∈ runs, ¬ run.Folds n) : foldInRuns runs n = n := by
  induction runs with
  | nil => rfl
  | cons run rest ih =>
      unfold foldInRuns
      split
      · rfl
      · next above =>
          split
          · next below =>
              rw [if_neg fun divides =>
                h run List.mem_cons_self ⟨Nat.le_of_not_lt above, below, divides⟩]
          · exact ih fun run' hr => h run' (List.mem_cons_of_mem _ hr)

theorem foldInRuns_eq_or_folds (runs : List FoldRun) (n : Nat) :
    foldInRuns runs n = n ∨
      ∃ run ∈ runs, run.Folds n ∧ foldInRuns runs n = run.target + (n - run.first) := by
  induction runs with
  | nil => exact .inl rfl
  | cons run rest ih =>
      unfold foldInRuns
      split
      · exact .inl rfl
      · next above =>
          split
          · next below =>
              split
              · next divides =>
                  exact .inr ⟨run, List.mem_cons_self, ⟨Nat.le_of_not_lt above, below, divides⟩, rfl⟩
              · exact .inl rfl
          · cases ih with
            | inl same => exact .inl same
            | inr found =>
                obtain ⟨run', member, folds⟩ := found
                exact .inr ⟨run', List.mem_cons_of_mem _ member, folds⟩

theorem mem_of_findExpansion {expansions : List (Nat × List Nat)} {n : Nat} {expansion : List Nat}
    (h : findExpansion expansions n = some expansion) : (n, expansion) ∈ expansions := by
  induction expansions with
  | nil => cases h
  | cons first rest ih =>
      obtain ⟨code, expansion'⟩ := first
      unfold findExpansion at h
      split at h
      · cases h
      · split at h
        · next same =>
            cases h
            rw [same]
            exact List.mem_cons_self
        · exact List.mem_cons_of_mem _ (ih h)

/-! ## Folding twice -/

/-- A character that no entry of the tables folds is its own folding. -/
theorem foldChar_eq_self {c : Char} (unmoved : ∀ run ∈ foldRuns, ¬ run.Folds c.toNat)
    (unexpanded : ∀ e ∈ foldExpansions, ¬ (FoldRun.single e.1 0).Folds c.toNat) :
    foldChar c = [c] := by
  have short : findExpansion foldExpansions c.toNat = none := by
    refine Option.eq_none_iff_forall_ne_some.mpr fun expansion found => ?_
    exact unexpanded _ (mem_of_findExpansion found) (FoldRun.folds_single _ _)
  unfold foldChar
  rw [short, foldInRuns_of_not_folds unmoved, Char.ofNat_toNat]

/-- What an entry of the tables folds to is the code point of a character. -/
theorem toNat_target {run : FoldRun} (member : run ∈ folded) {n : Nat} (folds : run.Folds n) :
    (Char.ofNat (run.target + (n - run.first))).toNat = run.target + (n - run.first) := by
  have settles := List.all_eq_true.mp folded_settle run member
  unfold FoldRun.settles at settles
  rw [Bool.and_eq_true, Bool.and_eq_true] at settles
  unfold Char.ofNat
  rw [dif_pos (FoldRun.isValidChar_of_isSound settles.1.1 folds)]
  rfl

/-- The character of a code point that an entry of the tables folds to is its own folding. -/
theorem foldChar_target {run : FoldRun} (member : run ∈ folded) {n : Nat} (folds : run.Folds n) :
    foldChar (Char.ofNat (run.target + (n - run.first))) =
      [Char.ofNat (run.target + (n - run.first))] := by
  have settles := List.all_eq_true.mp folded_settle run member
  unfold FoldRun.settles at settles
  rw [Bool.and_eq_true, Bool.and_eq_true, List.all_eq_true, List.all_eq_true] at settles
  obtain ⟨⟨-, runs⟩, expansions⟩ := settles
  have code := toNat_target member folds
  refine foldChar_eq_self (fun other hother => ?_) fun e he => ?_
  · rw [code]
    exact FoldRun.not_folds_of_avoids (runs other hother) folds
  · rw [code]
    exact FoldRun.not_folds_of_avoids (expansions e he) folds

/-- A character folds to itself alone or to what entries of the tables fold to. -/
theorem eq_self_or_target_of_mem_foldChar {c d : Char} (h : d ∈ foldChar c) :
    (d = c ∧ foldChar c = [c]) ∨ ∃ run ∈ folded, ∃ n, run.Folds n ∧
      d = Char.ofNat (run.target + (n - run.first)) := by
  cases found : findExpansion foldExpansions c.toNat with
  | some expansion =>
      unfold foldChar at h
      rw [found] at h
      obtain ⟨n, hn, rfl⟩ := List.mem_map.mp h
      have member : FoldRun.single n n ∈ folded :=
        List.mem_append_right _ (List.mem_map_of_mem
          (List.mem_flatMap.mpr ⟨_, mem_of_findExpansion found, hn⟩))
      refine .inr ⟨_, member, n, FoldRun.folds_single n n, ?_⟩
      rw [FoldRun.single, Nat.sub_self, Nat.add_zero]
  | none =>
      have once : foldChar c = [Char.ofNat (foldInRuns foldRuns c.toNat)] := by
        unfold foldChar
        rw [found]
      rw [once, List.mem_singleton] at h
      rcases foldInRuns_eq_or_folds foldRuns c.toNat with same | ⟨run, member, folds, moved⟩
      · rw [same, Char.ofNat_toNat] at once h
        exact .inl ⟨h, once⟩
      · rw [moved] at h
        exact .inr ⟨run, List.mem_append_left _ member, c.toNat, folds, h⟩

/-- What a character folds to is its own folding. -/
theorem foldChar_of_mem_foldChar {c d : Char} (h : d ∈ foldChar c) : foldChar d = [d] := by
  rcases eq_self_or_target_of_mem_foldChar h with ⟨rfl, fixed⟩ | ⟨run, member, n, folds, rfl⟩
  · exact fixed
  · exact foldChar_target member folds

theorem foldCase_eq_self {t : List Char} (h : ∀ c ∈ t, foldChar c = [c]) : foldCase t = t := by
  unfold foldCase
  exact (List.flatMap_congr h).trans (List.flatMap_singleton' t)

end ReleaseCatalog.Unicode
