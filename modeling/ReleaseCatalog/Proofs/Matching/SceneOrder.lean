import Mathlib.Data.List.Forall2
import ReleaseCatalog.Proofs.Matching.BestScene

/-!
# The order of scenes

A ranking of scenes loses none, puts lower keys first and keeps the order of those with equal
keys.  `IsStableRanking` says so of a list without saying how it is sorted, and there is but
one such list (`IsStableRanking.unique`).  So what is left of a ranking when some elements are
dropped is the ranking of the rest (`IsStableRanking.filter`), and a selection may restrict the
candidates to a day before or after they are ranked.

The ranking of scored scenes is that of their entries by key (`rankedScenes_eq`).  A key only
reads the title under the policy that compares titles, and under the others entries with new
titles are ranked in the places of the old ones (`rankedScenes_retitled`).
-/

namespace ReleaseCatalog.Matching

variable {α : Type} {rank : α → List Int} {list ranked ranked' : List α}

/-! ## Stable rankings -/

/-- The elements of a list with lower ranks first, and those of equal ranks in the order of the
list. -/
structure IsStableRanking (rank : α → List Int) (list ranked : List α) : Prop where
  perm : ranked.Perm list
  sorted : ranked.Pairwise fun a b => rank a ≤ rank b
  stable : ∀ key, ranked.filter (fun a => rank a = key) = list.filter fun a => rank a = key

/-- The first of a sorted list has the lowest rank. -/
theorem rank_le_of_mem {a b : α} {rest : List α}
    (sorted : (a :: rest).Pairwise fun a b => rank a ≤ rank b) (member : b ∈ a :: rest) :
    rank a ≤ rank b := by
  cases List.mem_cons.mp member with
  | inl first => rw [first]
  | inr later => exact List.rel_of_pairwise_cons sorted later

/-- Two rankings of a list put elements of one rank first, and the elements of this rank stand in
both as they do in the list. -/
theorem IsStableRanking.unique (h : IsStableRanking rank list ranked)
    (h' : IsStableRanking rank list ranked') : ranked = ranked' := by
  have same := h.perm.trans h'.perm.symm
  have equal := fun key => (h.stable key).trans (h'.stable key).symm
  have sorted := h.sorted
  have sorted' := h'.sorted
  clear h h'
  induction ranked generalizing ranked' with
  | nil => exact same.nil_eq
  | cons a rest ih =>
      cases ranked' with
      | nil => exact absurd same.eq_nil (List.cons_ne_nil a rest)
      | cons b rest' =>
          have below := rank_le_of_mem sorted (same.mem_iff.mpr List.mem_cons_self)
          have above := rank_le_of_mem sorted' (same.mem_iff.mp List.mem_cons_self)
          have ranks := le_antisymm below above
          obtain rfl : a = b := by
            have firsts := equal (rank a)
            rw [List.filter_cons_of_pos (by simp), List.filter_cons_of_pos (by simp [ranks])]
              at firsts
            exact (List.cons_eq_cons.mp firsts).1
          refine congrArg (a :: ·) (ih same.cons_inv (fun key => ?_)
            (List.pairwise_cons.mp sorted).2 (List.pairwise_cons.mp sorted').2)
          have tails := equal key
          by_cases first : rank a = key
          · rw [List.filter_cons_of_pos (by simpa using first),
              List.filter_cons_of_pos (by simpa using first)] at tails
            exact (List.cons_eq_cons.mp tails).2
          · rwa [List.filter_cons_of_neg (by simpa using first),
              List.filter_cons_of_neg (by simpa using first)] at tails

/-- What is kept of a ranking is a ranking of what is kept of the list. -/
theorem IsStableRanking.filter (h : IsStableRanking rank list ranked) (keep : α → Bool) :
    IsStableRanking rank (list.filter keep) (ranked.filter keep) where
  perm := h.perm.filter keep
  sorted := h.sorted.filter keep
  stable key := by
    rw [List.filter_comm, h.stable, List.filter_comm]

/-- Sorting ranks a list.  The elements of one rank are a sorted part of the list, and merging
keeps such a part in order. -/
theorem isStableRanking_sortedBy (rank : α → List Int) (list : List α) :
    IsStableRanking rank list (sortedBy rank list) := by
  have perm := perm_sortedBy rank list
  refine ⟨perm, pairwise_sortedBy rank list, fun key => ?_⟩
  have equal : (list.filter fun a => rank a = key).Pairwise fun a b => rank a ≤ rank b := by
    refine List.pairwise_of_forall_mem_list fun a ha b hb => ?_
    rw [of_decide_eq_true (List.mem_filter.mp ha).2, of_decide_eq_true (List.mem_filter.mp hb).2]
  have part := sublist_sortedBy List.filter_sublist equal
  have kept := part.filter fun a => decide (rank a = key)
  rw [List.filter_filter] at kept
  simp only [Bool.and_self] at kept
  exact (kept.eq_of_length (perm.filter _).length_eq.symm).symm

/-- Sorting the kept elements keeps the elements of the sorted list. -/
theorem sortedBy_filter (rank : α → List Int) (list : List α) (keep : α → Bool) :
    sortedBy rank (list.filter keep) = (sortedBy rank list).filter keep :=
  (isStableRanking_sortedBy rank _).unique ((isStableRanking_sortedBy rank list).filter keep)

/-- A function that keeps ranks may be applied before or after sorting. -/
theorem map_sortedBy {β : Type} {rank' : β → List Int} {f : α → β}
    (same : ∀ a ∈ list, rank' (f a) = rank a) :
    (sortedBy rank list).map f = sortedBy rank' (list.map f) := by
  refine List.map_mergeSort fun a ha b hb => ?_
  rw [same a ha, same b hb]

/-! ## The ranking of scenes -/

variable {policy : TieBreak} {candidates candidates' : List Entry} {words : List Text}

/-- The scored scenes are the scores of the entries sorted by their keys. -/
theorem rankedScenes_eq (policy : TieBreak) (candidates : List Entry) (words : List Text) :
    rankedScenes policy candidates words =
      (sortedBy (sceneKey policy (wordTokens words).toFinset) candidates).map
        (score (wordTokens words)) :=
  (rankedScenes_eq_sortedBy policy candidates words).trans
    (map_sortedBy fun e _ => rank_score policy (wordTokens words) e).symm

theorem map_entry_rankedScenes (policy : TieBreak) (candidates : List Entry)
    (words : List Text) : (rankedScenes policy candidates words).map ScoredScene.entry =
      sortedBy (sceneKey policy (wordTokens words).toFinset) candidates := by
  rw [rankedScenes_eq, List.map_map]
  exact List.map_id _

/-- A scene with a higher overlap has a lower key, whatever the policy. -/
theorem creditOverlap_le_of_sceneKey_le {release : Finset Text} {e later : Entry}
    (le : sceneKey policy release e ≤ sceneKey policy release later) :
    creditOverlap release later ≤ creditOverlap release e := by
  have first : -(creditOverlap release e : Int) ≤ -(creditOverlap release later : Int) := by
    cases policy
    all_goals
      rcases List.cons_le_cons_iff.mp (rank_le_iff.mpr le) with below | ⟨same, -⟩
      · exact below.le
      · exact same.le
  omega

/-- Two entries that differ in the title at most. -/
def Retitled (e e' : Entry) : Prop := ∃ title, e' = { e with title }

/-- A key reads the title under one policy only. -/
theorem Retitled.sceneKey_eq {release : Finset Text} {e e' : Entry} (h : Retitled e e')
    (untitled : policy ≠ .titleOverlap) :
    sceneKey policy release e' = sceneKey policy release e := by
  obtain ⟨title, rfl⟩ := h
  cases policy with
  | titleOverlap => exact absurd rfl untitled
  | fewestPerformers => rfl
  | lowestId => rfl

/-- The candidates are paired with the retitled ones, and both rankings list the pairs in one
order. -/
theorem rankedScenes_retitled (untitled : policy ≠ .titleOverlap)
    (retitled : List.Forall₂ Retitled candidates candidates') :
    ∃ order : List (Entry × Entry), order.Perm (candidates.zip candidates') ∧
      order.map Prod.fst = (rankedScenes policy candidates words).map ScoredScene.entry ∧
      order.map Prod.snd = (rankedScenes policy candidates' words).map ScoredScene.entry := by
  have length := retitled.length_eq
  let key := sceneKey policy (wordTokens words).toFinset
  refine ⟨sortedBy (fun pair => key pair.1) (candidates.zip candidates'),
    (isStableRanking_sortedBy _ _).perm, ?_, ?_⟩
  · rw [map_entry_rankedScenes, map_sortedBy fun _ _ => rfl, List.map_fst_zip length.le]
  · have same : ∀ pair ∈ candidates.zip candidates', key pair.2 = key pair.1 := fun pair hp =>
      ((List.forall₂_iff_zip.mp retitled).2 hp).sceneKey_eq untitled
    rw [map_entry_rankedScenes, map_sortedBy same, List.map_snd_zip length.ge]

/-! ## The scene that is selected -/

/-- The scene that is chosen is the first one in the ranking of the day, a single one too. -/
theorem chosenScene_eq_head? (policy : TieBreak) (candidates : List Entry) (date : Text)
    (words : List Text) : chosenScene policy candidates date words =
      ((rankedScenes policy (scenesOn date candidates) words).map ScoredScene.entry).head? := by
  unfold chosenScene
  split
  · next empty =>
      rw [empty, map_entry_rankedScenes, sortedBy, List.mergeSort_nil]
      rfl
  · next e single =>
      rw [single, map_entry_rankedScenes, sortedBy, List.mergeSort_singleton]
      rfl
  · exact List.head?_map.symm

/-- Ranking the scenes of a day restricts the ranking to the day. -/
theorem rankedScenes_scenesOn (policy : TieBreak) (candidates : List Entry) (date : Text)
    (words : List Text) : rankedScenes policy (scenesOn date candidates) words =
      (rankedScenes policy candidates words).filter fun s => s.entry.releaseDate = some date := by
  rw [rankedScenes_eq, rankedScenes_eq, List.filter_map]
  exact congrArg _ (sortedBy_filter _ candidates _)

/-- No scene is chosen exactly if none was published on the day. -/
theorem chosenScene_eq_none_iff {date : Text} : chosenScene policy candidates date words = none ↔
    ∀ e ∈ candidates, e.releaseDate ≠ some date := by
  rw [chosenScene_eq_head?, List.head?_eq_none_iff, map_entry_rankedScenes, sortedBy,
    ← List.length_eq_zero_iff, List.length_mergeSort, List.length_eq_zero_iff]
  unfold scenesOn
  rw [List.filter_eq_nil_iff]
  simp

/-- The ranking is a stable one of all candidates by the key of the policy, each with its
overlaps, those with a larger performer overlap first.  If the policy does not compare titles,
new titles change no place in it.  The scene that is chosen for a day is the first of the day in
the ranking, and there is none exactly if no candidate was published on the day. -/
theorem rankedScenes_ranks (policy : TieBreak) (candidates : List Entry) (words : List Text) :
    let release := (wordTokens words).toFinset
    let ranked := rankedScenes policy candidates words
    IsStableRanking (sceneKey policy release) candidates (ranked.map ScoredScene.entry) ∧
    (∀ s ∈ ranked, s.performerHits = creditOverlap release s.entry ∧
      s.titleHits = titleOverlap release s.entry) ∧
    (ranked.Pairwise fun a b => b.performerHits ≤ a.performerHits) ∧
    (policy ≠ .titleOverlap → ∀ candidates', List.Forall₂ Retitled candidates candidates' →
      ∃ order : List (Entry × Entry), order.Perm (candidates.zip candidates') ∧
        order.map Prod.fst = ranked.map ScoredScene.entry ∧
        order.map Prod.snd =
          (rankedScenes policy candidates' words).map ScoredScene.entry) ∧
    ∀ date, rankedScenes policy (scenesOn date candidates) words =
        (ranked.filter fun s => s.entry.releaseDate = some date) ∧
      chosenScene policy candidates date words =
        ((ranked.filter fun s => s.entry.releaseDate = some date).map ScoredScene.entry).head? ∧
      (chosenScene policy candidates date words = none ↔
        ∀ e ∈ candidates, e.releaseDate ≠ some date) := by
  intro release ranked
  have ranking := isStableRanking_sortedBy (sceneKey policy release) candidates
  have overlaps : ranked = (sortedBy (sceneKey policy release) candidates).map fun e =>
      ⟨e, creditOverlap release e, titleOverlap release e⟩ := by
    rw [← funext (score_eq (wordTokens words))]
    exact rankedScenes_eq policy candidates words
  refine ⟨?_, ?_, ?_, fun untitled candidates' retitled => ?_, fun date => ⟨?_, ?_, ?_⟩⟩
  · rw [map_entry_rankedScenes]
    exact ranking
  · rw [overlaps, List.forall_mem_map]
    exact fun e _ => ⟨rfl, rfl⟩
  · rw [overlaps, List.pairwise_map]
    exact ranking.sorted.imp creditOverlap_le_of_sceneKey_le
  · exact rankedScenes_retitled untitled retitled
  · exact rankedScenes_scenesOn policy candidates date words
  · rw [chosenScene_eq_head?, rankedScenes_scenesOn]
  · exact chosenScene_eq_none_iff

/-- Two scenes of a day and another, ranked for a release of the second one's performer. -/
def nightScenes : List Entry :=
  [{ id := 2, title := "Night".toList, releaseDate := some "2021-01-08".toList },
   { id := 3, title := "Night".toList, releaseDate := some "2021-01-08".toList,
     credits := [{ performerName := "Quinn Waters".toList }] },
   { id := 1, title := "Night".toList, releaseDate := some "2021-01-09".toList }]

/-- The titles of all three scenes change to the name of a performer. -/
theorem rankedScenes_nightScenes :
    let renamed := nightScenes.map fun e => { e with title := "Quinn Waters".toList }
    let words := ["Night".toList, "Waters".toList]
    TieBreak.lowestId ≠ .titleOverlap ∧ List.Forall₂ Retitled nightScenes renamed ∧
      ∃ order : List (Entry × Entry), order.Perm (nightScenes.zip renamed) ∧
        order.map Prod.fst =
          (rankedScenes .lowestId nightScenes words).map ScoredScene.entry ∧
        order.map Prod.snd =
          (rankedScenes .lowestId renamed words).map ScoredScene.entry := by
  intro renamed words
  have untitled : TieBreak.lowestId ≠ .titleOverlap := by decide
  have retitled : List.Forall₂ Retitled nightScenes renamed := by
    rw [List.forall₂_map_right_iff, List.forall₂_same]
    exact fun e _ => ⟨_, rfl⟩
  refine ⟨untitled, retitled, ?_⟩
  exact (rankedScenes_ranks .lowestId nightScenes words).2.2.2.1 untitled renamed retitled

end ReleaseCatalog.Matching
