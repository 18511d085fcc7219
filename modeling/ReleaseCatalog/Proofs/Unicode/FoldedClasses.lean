import ReleaseCatalog.Proofs.Unicode.Classes
import ReleaseCatalog.Proofs.Unicode.Folding

/-!
# Classes that folding leaves alone

Blank characters, punctuation and control characters have no letter case.  That is a question
about ranges: the code points that the tables of folding list are apart from those classes
(`CodeTable.isUnfolded`).  In the other direction, whatever the tables fold to comes at or
above the small letter a, so a character below it, such as the ampersand, is folded to by itself
alone (`eq_of_mem_foldChar`).
-/

namespace ReleaseCatalog.Unicode

/-- Whether a run folds no character of a class.  A range above the run ends the search, as it ends
a lookup. -/
def FoldRun.misses (run : FoldRun) : CodeTable → Bool
  | [] => true
  | r :: rest => Nat.blt run.last r.1 || (Nat.blt r.2 run.first && misses run rest)
termination_by structural table => table

/-- Whether the tables fold no character of a class. -/
def CodeTable.isUnfolded (table : CodeTable) : Bool :=
  foldRuns.all (fun run => run.misses table) &&
    foldExpansions.all fun e => (FoldRun.single e.1 0).misses table

theorem FoldRun.not_folds_of_misses {run : FoldRun} {table : CodeTable}
    (misses : run.misses table = true) {n : Nat} (h : table.covers n = true) :
    ¬ run.Folds n := by
  induction table with
  | nil => cases h
  | cons r rest ih =>
      simp only [FoldRun.misses, Bool.or_eq_true, Bool.and_eq_true, Nat.blt_eq] at misses
      unfold CodeTable.covers at h
      rintro ⟨first_le, le_last, divides⟩
      split at h
      · cases h
      · split at h
        · omega
        · rcases misses with above | ⟨below, misses⟩
          · omega
          · exact ih misses h ⟨first_le, le_last, divides⟩

/-- The characters of a class that the tables do not fold are their own foldings. -/
theorem foldChar_eq_self_of_covers {table : CodeTable} (unfolded : table.isUnfolded = true)
    {c : Char} (h : table.covers c.toNat = true) : foldChar c = [c] := by
  obtain ⟨runs, expansions⟩ := Bool.and_eq_true_iff.mp unfolded
  refine foldChar_eq_self (fun run hrun => ?_) fun e he => ?_
  · exact FoldRun.not_folds_of_misses (List.all_eq_true.mp runs run hrun) h
  · exact FoldRun.not_folds_of_misses (List.all_eq_true.mp expansions e he) h

theorem foldChar_of_isBlank {c : Char} (h : isBlank c = true) : foldChar c = [c] :=
  foldChar_eq_self_of_covers (by decide +kernel) h

theorem foldChar_of_isPunctuation {c : Char} (h : isPunctuation c = true) : foldChar c = [c] :=
  foldChar_eq_self_of_covers (by decide +kernel) h

theorem foldChar_of_isControl {c : Char} (h : isControl c = true) : foldChar c = [c] :=
  foldChar_eq_self_of_covers (by decide +kernel) h

/-- A character below the small letters is folded to by itself alone. -/
theorem eq_of_mem_foldChar {c d : Char} (h : d ∈ foldChar c) (low : d.toNat < 'a'.toNat) :
    d = c := by
  have targets : ∀ run ∈ folded, 'a'.toNat ≤ run.target := by decide +kernel
  rcases eq_self_or_target_of_mem_foldChar h with ⟨same, -⟩ | ⟨run, member, n, folds, rfl⟩
  · exact same
  · have above := targets run member
    rw [toNat_target member folds] at low
    omega

end ReleaseCatalog.Unicode
