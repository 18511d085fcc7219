import ReleaseCatalog.Matching.TitleMatch
import ReleaseCatalog.Proofs.Matching.BestScene

/-!
# Choices do not depend on order

The tokens of a release are a set, and a store may list its entries in any order.  Neither
order decides a choice: the number of the entry that is chosen stays the same, whichever way
the candidates are listed and the words of the release are ordered, repeated or grouped
(`selection_independent_of_order`).

Both choices are of a lowest rank that ends on the number of the entry, so all of it is read
off `ChoosesLowest`.  The words of a release count only by the set of its tokens, and this set
is that of its words between spaces (`SameWords.toFinset_wordTokens`).  If the candidates have
different numbers, no two of them have the same rank, and then a sorted list has but one order
(`rankedScenes_congr`).
-/

namespace ReleaseCatalog.Matching

variable {policy : TieBreak} {candidates candidates' : List Entry} {words words' : List Text}

/-! ## The words of a release -/

/-- Two lists of texts have the same words between spaces, in whatever order, however often and
however they are grouped to texts. -/
def SameWords (ts ts' : List Text) : Prop :=
  ∀ w, w ∈ ts.flatMap (Text.words (· == ' ')) ↔ w ∈ ts'.flatMap (Text.words (· == ' '))

theorem mem_wordTokens {token : Text} : token ∈ wordTokens words ↔
    ∃ w ∈ words.flatMap (Text.words (· == ' ')), token ∈ Title.tokens w := by
  unfold wordTokens
  rw [Title.mem_tokens_unwords]
  constructor
  · rintro ⟨t, listed, member⟩
    obtain ⟨w, word, member⟩ := Title.mem_tokens_iff_exists_word.mp member
    exact ⟨w, List.mem_flatMap.mpr ⟨t, listed, word⟩, member⟩
  · rintro ⟨w, word, member⟩
    obtain ⟨t, listed, word⟩ := List.mem_flatMap.mp word
    exact ⟨t, listed, Title.mem_tokens_iff_exists_word.mpr ⟨w, word, member⟩⟩

/-- The same words have the same tokens. -/
theorem SameWords.toFinset_wordTokens (same : SameWords words words') :
    (wordTokens words).toFinset = (wordTokens words').toFinset := by
  ext token
  rw [List.mem_toFinset, List.mem_toFinset, mem_wordTokens, mem_wordTokens]
  constructor
  · rintro ⟨w, word, member⟩
    exact ⟨w, (same w).mp word, member⟩
  · rintro ⟨w, word, member⟩
    exact ⟨w, (same w).mpr word, member⟩

/-! ## Scenes -/

/-- Scenes with different numbers have one ranking. -/
theorem rankedScenes_congr (order : candidates.Perm candidates') (same : SameWords words words')
    (distinct : (candidates.map Entry.id).Nodup) :
    rankedScenes policy candidates words = rankedScenes policy candidates' words' := by
  have scores : score (wordTokens words) = score (wordTokens words') := by
    funext e
    rw [score_eq, score_eq, same.toFinset_wordTokens]
  have listed := perm_rankedScenes policy candidates words
  have listed' := perm_rankedScenes policy candidates' words'
  rw [← scores] at listed'
  refine List.Perm.eq_of_pairwise ?_ (pairwise_rankedScenes policy candidates words)
    (pairwise_rankedScenes policy candidates' words')
    (listed.trans ((order.map _).trans listed'.symm))
  intro s s' hs hs' below above
  obtain ⟨e, he, rfl⟩ := List.mem_map.mp (listed.mem_iff.mp hs)
  obtain ⟨e', he', rfl⟩ := List.mem_map.mp (listed'.mem_iff.mp hs')
  have ranks := le_antisymm below above
  rw [rank_score, rank_score] at ranks
  have number := id_eq_of_sceneKey_eq ranks
  rw [List.inj_on_of_nodup_map distinct he (order.mem_iff.mpr he') number]

theorem mem_scenesOn_congr (order : candidates.Perm candidates') (date : Text) (e : Entry) :
    e ∈ scenesOn date candidates ↔ e ∈ scenesOn date candidates' := by
  unfold scenesOn
  rw [List.mem_filter, List.mem_filter, order.mem_iff]

theorem choosesLowest_of_sameWords (policy : TieBreak) (candidates : List Entry) (date : Text)
    (same : SameWords words words') :
    ChoosesLowest (sceneKey policy (wordTokens words).toFinset) (scenesOn date candidates)
      (chosenScene policy candidates date words') := by
  rw [same.toFinset_wordTokens]
  exact choosesLowest_chosenScene policy candidates date words'

/-! ## Titles -/

/-- The rank of an entry for a year ends on its number. -/
theorem getLast?_yearRank (year : Option Int) (e : Entry) :
    (yearRank year e).getLast? = some e.id := by
  unfold yearRank
  split
  all_goals rfl

theorem mem_accepted_congr {titles titles' : List Text} {excluded excluded' : List Int}
    (sameTitles : ∀ t, t ∈ titles ↔ t ∈ titles') (sameNumbers : ∀ n, n ∈ excluded ↔ n ∈ excluded')
    (sameEntries : ∀ e, e ∈ candidates ↔ e ∈ candidates') (e : Entry) :
    e ∈ accepted titles excluded candidates ↔ e ∈ accepted titles' excluded' candidates' := by
  unfold accepted
  simp only [List.mem_filter, Bool.and_eq_true, Bool.not_eq_true', List.contains_iff_mem,
    List.mem_map, Bool.eq_false_iff, ne_eq, sameTitles, sameNumbers, sameEntries]

/-! ## The choice -/

/-- The number of the chosen scene does not depend on the order of the candidates, nor on the
order, the repetition or the grouping of the words of the release, and the number of the entry
nearest in year does not depend on the order and the repetition of titles, excluded numbers and
candidates.  If the candidates have different numbers, the entry itself and the whole ranking do
not depend on them either. -/
theorem selection_independent_of_order :
    (∀ (policy : TieBreak) (date : Text) {candidates candidates' : List Entry}
        {words words' : List Text}, candidates.Perm candidates' → SameWords words words' →
      (chosenScene policy candidates date words).map Entry.id =
        (chosenScene policy candidates' date words').map Entry.id ∧
      ((candidates.map Entry.id).Nodup →
        chosenScene policy candidates date words = chosenScene policy candidates' date words' ∧
        rankedScenes policy candidates words = rankedScenes policy candidates' words')) ∧
    (∀ (year : Option Int) {titles titles' : List Text} {excluded excluded' : List Int}
        {candidates candidates' : List Entry}, (∀ t, t ∈ titles ↔ t ∈ titles') →
        (∀ n, n ∈ excluded ↔ n ∈ excluded') → (∀ e, e ∈ candidates ↔ e ∈ candidates') →
      (nearestByTitle titles year excluded candidates).map Entry.id =
        (nearestByTitle titles' year excluded' candidates').map Entry.id ∧
      ((candidates.map Entry.id).Nodup →
        nearestByTitle titles year excluded candidates =
          nearestByTitle titles' year excluded' candidates')) := by
  constructor
  · intro policy date candidates candidates' words words' order same
    have chosen := choosesLowest_chosenScene policy candidates date words
    have chosen' := choosesLowest_of_sameWords policy candidates' date same
    have last := getLast?_sceneKey policy (wordTokens words).toFinset
    have members := mem_scenesOn_congr order date
    refine ⟨chosen.map_eq last chosen' members, fun distinct => ⟨?_, ?_⟩⟩
    · exact chosen.unique last (distinct.sublist (List.filter_sublist.map _)) chosen' members
    · exact rankedScenes_congr order same distinct
  · intro year titles titles' excluded excluded' candidates candidates' sameTitles sameNumbers
      sameEntries
    have nearest := choosesLowest_minOn? (yearRank year) (accepted titles excluded candidates)
    have nearest' := choosesLowest_minOn? (yearRank year) (accepted titles' excluded' candidates')
    rw [← nearestByTitle_eq_minOn?] at nearest nearest'
    have last := getLast?_yearRank year
    have members := mem_accepted_congr sameTitles sameNumbers sameEntries
    refine ⟨nearest.map_eq last nearest' members, fun distinct => ?_⟩
    exact nearest.unique last (distinct.sublist (List.filter_sublist.map _)) nearest' members

/-- Three scenes of a day, two of them with one number. -/
def shuffledScenes : List Entry :=
  [{ id := 2, title := "Night".toList, releaseDate := some "2021-01-08".toList },
   { id := 1, title := "Day".toList, releaseDate := some "2021-01-08".toList,
     credits := [{ performerName := "Quinn Waters".toList }] },
   { id := 1, title := "Night and Day".toList, releaseDate := some "2021-01-08".toList }]

/-- The scenes are listed backwards and the words of the release regrouped.  Only the first two
scenes have different numbers. -/
theorem selection_of_quinn_waters :
    let day := "2021-01-08".toList
    let words := ["Quinn Waters".toList, "Sage".toList]
    let words' := ["Sage Quinn".toList, "Waters".toList, "Sage".toList]
    let two := shuffledScenes.take 2
    shuffledScenes.Perm shuffledScenes.reverse ∧ SameWords words words' ∧
      (chosenScene .titleOverlap shuffledScenes day words).map Entry.id =
        (chosenScene .titleOverlap shuffledScenes.reverse day words').map Entry.id ∧
      (two.map Entry.id).Nodup ∧
      rankedScenes .lowestId two words = rankedScenes .lowestId two.reverse words' ∧
      (∀ e, e ∈ two ↔ e ∈ two ++ two.reverse) ∧
      nearestByTitle ["Night".toList, "day".toList] none [2, 2] two =
        nearestByTitle ["day".toList, "Night".toList] none [2] (two ++ two.reverse) := by
  intro day words words' two
  obtain ⟨scenes, titles⟩ := selection_independent_of_order
  have sameWords : SameWords words words' := by
    have forth : ∀ w ∈ words.flatMap (Text.words (· == ' ')),
        w ∈ words'.flatMap (Text.words (· == ' ')) := by decide
    have back : ∀ w ∈ words'.flatMap (Text.words (· == ' ')),
        w ∈ words.flatMap (Text.words (· == ' ')) := by decide
    exact fun w => ⟨forth w, back w⟩
  have backwards : ∀ list : List Entry, list.Perm list.reverse :=
    fun list => (List.reverse_perm list).symm
  have distinct : (two.map Entry.id).Nodup := by decide
  have twice : ∀ e, e ∈ two ↔ e ∈ two ++ two.reverse := by simp
  refine ⟨backwards _, sameWords, (scenes .titleOverlap day (backwards _) sameWords).1, distinct,
    ((scenes .lowestId day (backwards two) sameWords).2 distinct).2, twice, ?_⟩
  exact (titles none (by simp [or_comm]) (by simp) twice).2 distinct

end ReleaseCatalog.Matching
