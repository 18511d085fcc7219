import Mathlib.Data.List.Nodup
import ReleaseCatalog.Matching.SceneRank
import ReleaseCatalog.Proofs.Matching.Lowest
import ReleaseCatalog.Proofs.Title.TokenSet

/-!
# The best scene of a day

`IsBestScene` says which scene a policy takes, without ranking or sorting: the
one whose key is lowest, the overlaps in the key being sizes of sets of tokens.
Every key ends on the number of the entry, so among entries with pairwise
distinct numbers there is at most one such scene (`IsBestScene.unique`), and it
does not matter in which order or how often the scenes are listed
(`IsBestScene.congr`).  The scene that is chosen is the best one
(`isBestScene_chosenScene`), also when a single candidate is taken untested.
-/

namespace ReleaseCatalog.Matching

/-! ## Keys -/

/-- The number of tokens in the names of the performers that a release has. -/
def creditOverlap (release : Finset Text) (e : Entry) : Nat :=
  ((e.credits.flatMap fun c => Title.tokens c.performerName).toFinset ∩ release).card

/-- The number of tokens in the title that a release has. -/
def titleOverlap (release : Finset Text) (e : Entry) : Nat :=
  ((Title.tokens e.title).toFinset ∩ release).card

/-- What a policy compares scenes by, part by part, the lowest first. -/
def sceneKey (policy : TieBreak) (release : Finset Text) (e : Entry) : List Int :=
  match policy with
  | .fewestPerformers => [-creditOverlap release e, e.credits.length, e.id]
  | .lowestId => [-creditOverlap release e, e.id]
  | .titleOverlap =>
      [-creditOverlap release e, -titleOverlap release e, e.credits.length, e.id]

/-- Among the scenes, the one with the lowest key, or none if there are no scenes. -/
def IsBestScene (policy : TieBreak) (release : Finset Text) (scenes : List Entry) :
    Option Entry → Prop
  | none => scenes = []
  | some e => e ∈ scenes ∧ ∀ other ∈ scenes, other ≠ e →
      sceneKey policy release e < sceneKey policy release other

variable {policy : TieBreak} {release : Finset Text} {scenes scenes' : List Entry}

/-- The number of the entry is the last part of its key. -/
theorem getLast?_sceneKey (policy : TieBreak) (release : Finset Text) (e : Entry) :
    (sceneKey policy release e).getLast? = some e.id := by
  cases policy
  all_goals rfl

theorem id_eq_of_sceneKey_eq {e other : Entry}
    (same : sceneKey policy release e = sceneKey policy release other) : e.id = other.id := by
  have last := congrArg List.getLast? same
  rw [getLast?_sceneKey, getLast?_sceneKey] at last
  exact Option.some.inj last

/-- The overlap with the performers is the size of a set. -/
theorem performerHits_eq (e : Entry) (words : List Text) :
    performerHits e words = creditOverlap words.toFinset e := by
  unfold performerHits castTokens creditOverlap
  rw [Title.countP_contains_eq_card (nodup_distinctBy_id _)]
  refine congrArg (fun s => (s ∩ words.toFinset).card) (Finset.ext fun token => ?_)
  rw [List.mem_toFinset, List.mem_toFinset, mem_distinctBy_id]

/-- The overlaps of a score are sizes of sets. -/
theorem score_eq (words : List Text) (e : Entry) :
    score words e = ⟨e, creditOverlap words.toFinset e, titleOverlap words.toFinset e⟩ := by
  have titles : titleHits e words = titleOverlap words.toFinset e :=
    Title.countP_contains_eq_card (Title.nodup_tokens _)
  unfold score
  rw [performerHits_eq, titles]

/-- The rank of a scored scene is its key. -/
theorem rank_score (policy : TieBreak) (words : List Text) (e : Entry) :
    (score words e).rank policy = sceneKey policy words.toFinset e := by
  rw [score_eq]
  cases policy
  all_goals rfl

/-! ## One best scene -/

theorem IsBestScene.unique {answer answer' : Option Entry}
    (h : IsBestScene policy release scenes answer)
    (h' : IsBestScene policy release scenes answer') : answer = answer' := by
  cases answer with
  | none =>
      cases answer' with
      | none => rfl
      | some e' =>
          have empty : scenes = [] := h
          rw [empty] at h'
          exact absurd h'.1 List.not_mem_nil
  | some e =>
      cases answer' with
      | none =>
          have empty : scenes = [] := h'
          rw [empty] at h
          exact absurd h.1 List.not_mem_nil
      | some e' =>
          by_contra differ
          have ne : e ≠ e' := fun same => differ (congrArg some same)
          have below := h.2 e' h'.1 ne.symm
          have above := h'.2 e h.1 ne
          exact List.lt_irrefl _ (List.lt_trans below above)

/-- Only which scenes are listed matters. -/
theorem IsBestScene.congr {answer : Option Entry} (h : IsBestScene policy release scenes answer)
    (same : ∀ e, e ∈ scenes ↔ e ∈ scenes') : IsBestScene policy release scenes' answer := by
  cases answer with
  | none =>
      have empty : scenes = [] := h
      refine List.eq_nil_iff_forall_not_mem.mpr fun e he => ?_
      have := (same e).mpr he
      rw [empty] at this
      exact List.not_mem_nil this
  | some e =>
      refine ⟨(same e).mp h.1, fun other ho ne => ?_⟩
      exact h.2 other ((same other).mpr ho) ne

/-! ## The scene that is chosen -/

/-- The ranking of scenes sorts their scores. -/
theorem rankedScenes_eq_sortedBy (policy : TieBreak) (candidates : List Entry)
    (words : List Text) : rankedScenes policy candidates words =
      sortedBy (ScoredScene.rank policy) (candidates.map (score (wordTokens words))) :=
  congrArg (fun le => List.mergeSort _ le) (funext₂ fun _ _ => decide_eq_decide.mpr rank_le_iff)

theorem pairwise_rankedScenes (policy : TieBreak) (candidates : List Entry) (words : List Text) :
    (rankedScenes policy candidates words).Pairwise fun a b => a.rank policy ≤ b.rank policy := by
  rw [rankedScenes_eq_sortedBy]
  exact pairwise_sortedBy _ _

theorem perm_rankedScenes (policy : TieBreak) (candidates : List Entry) (words : List Text) :
    (rankedScenes policy candidates words).Perm (candidates.map (score (wordTokens words))) :=
  List.mergeSort_perm _ _

/-- The chosen scene is one of the day, and the key of no other is below its key. -/
theorem choosesLowest_chosenScene (policy : TieBreak) (candidates : List Entry) (date : Text)
    (words : List Text) :
    ChoosesLowest (sceneKey policy (wordTokens words).toFinset) (scenesOn date candidates)
      (chosenScene policy candidates date words) := by
  unfold chosenScene
  split
  · next none => exact none
  · next e single =>
      rw [single]
      refine ⟨List.mem_singleton_self e, fun other ho => ?_⟩
      rw [List.mem_singleton.mp ho]
  · next several _ =>
      have sorted := pairwise_rankedScenes policy (scenesOn date candidates) words
      have same := perm_rankedScenes policy (scenesOn date candidates) words
      unfold bestScene
      cases ranked : rankedScenes policy (scenesOn date candidates) words with
      | nil =>
          rw [ranked] at same
          exact absurd (List.map_eq_nil_iff.mp same.nil_eq.symm) several
      | cons first rest =>
          rw [ranked] at sorted same
          obtain ⟨e, he, rfl⟩ := List.mem_map.mp (same.mem_iff.mp List.mem_cons_self)
          refine ⟨he, fun other ho => ?_⟩
          rw [← rank_score, ← rank_score]
          cases List.mem_cons.mp (same.mem_iff.mpr (List.mem_map_of_mem ho)) with
          | inl equal => exact (congrArg (ScoredScene.rank policy) equal).ge
          | inr later => exact (List.pairwise_cons.mp sorted).1 _ later

/-- The chosen scene is the best one, if no two scenes of the day have the same number. -/
theorem isBestScene_chosenScene {candidates : List Entry} {date : Text} {words : List Text}
    (distinct : ∀ e ∈ candidates, ∀ other ∈ candidates, e.id = other.id → e = other) :
    IsBestScene policy (wordTokens words).toFinset (scenesOn date candidates)
      (chosenScene policy candidates date words) := by
  have chosen := choosesLowest_chosenScene policy candidates date words
  cases answer : chosenScene policy candidates date words with
  | none =>
      rw [answer] at chosen
      exact chosen
  | some e =>
      rw [answer] at chosen
      obtain ⟨he, lowest⟩ := chosen
      refine ⟨he, fun other ho ne => lt_of_le_of_ne (lowest other ho) fun same => ne ?_⟩
      exact distinct other (List.mem_of_mem_filter ho) e (List.mem_of_mem_filter he)
        (id_eq_of_sceneKey_eq same).symm

end ReleaseCatalog.Matching
