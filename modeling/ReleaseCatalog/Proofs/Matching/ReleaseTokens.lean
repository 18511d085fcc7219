import ReleaseCatalog.Proofs.Matching.BestScene
import ReleaseCatalog.Proofs.Release.Recognition
import ReleaseCatalog.Proofs.Title.StackedEndings

/-!
# Tokens of a release that are read again

A ranking reads the tokens of a release as if they were words of it, and so it reads them once more
than the names of performers.  That changes nothing unless endings are stacked, and then it does
(`listed_tokens_settle`).  For the overlap with a performer only the endings in the name count: the
tokens of a name that stands in a title are tokens of the title, and without stacked endings they
stay (`tokens_le_performerHits_iff`).
-/

namespace ReleaseCatalog.Matching

open Release (Parser Detection)
open Title (tokens Lists StandsIn HasStackedEndings)

variable {e : Entry} {release listing : List Text} {name title : Text}

/-- The performer overlap is at least the number of tokens of a credited name that are all found. -/
theorem length_tokens_le_performerHits {c : Credit} (credited : c ∈ e.credits)
    (found : ∀ w ∈ tokens c.performerName, w ∈ release) :
    (tokens c.performerName).length ≤ performerHits e release := by
  rw [performerHits_eq, creditOverlap, ← List.toFinset_card_of_nodup (Title.nodup_tokens _)]
  refine Finset.card_le_card fun w member => ?_
  rw [List.mem_toFinset] at member
  rw [Finset.mem_inter, List.mem_toFinset, List.mem_toFinset, List.mem_flatMap]
  exact ⟨⟨c, credited, member⟩, found w member⟩

/-- If the overlap with a single performer is no less than the number of tokens of the name, they
are all found. -/
theorem mem_of_length_tokens_le (single : e.credits = [{ performerName := name }])
    (le : (tokens name).length ≤ performerHits e release) : ∀ w ∈ tokens name, w ∈ release := by
  rw [performerHits_eq, creditOverlap, single, List.flatMap_singleton,
    ← List.toFinset_card_of_nodup (Title.nodup_tokens _)] at le
  have all := Finset.eq_of_subset_of_card_le Finset.inter_subset_left le
  intro w member
  rw [← List.mem_toFinset, ← all, Finset.mem_inter] at member
  exact List.mem_toFinset.mp member.2

/-- The scenes of a ranking are the candidates with their overlaps. -/
theorem performerHits_of_mem_rankedScenes {policy : TieBreak} {candidates : List Entry}
    {words : List Text} {s : ScoredScene} (ranked : s ∈ rankedScenes policy candidates words) :
    s.performerHits = performerHits s.entry (wordTokens words) := by
  obtain ⟨e, -, rfl⟩ := List.mem_map.mp ((perm_rankedScenes policy candidates words).mem_iff.mp ranked)
  rfl

/-- The overlap with a performer whose name stands in a title is at least the number of its tokens,
for every such title, exactly if the name has no stacked endings. -/
theorem tokens_le_performerHits_iff :
    (∀ {title : Text} {listing : List Text}, StandsIn name title → Lists listing title →
      ∀ (policy : TieBreak) (candidates : List Entry),
        ∀ s ∈ rankedScenes policy candidates listing,
        (∃ c ∈ s.entry.credits, c.performerName = name) →
        (tokens name).length ≤ s.performerHits) ↔
      ¬ HasStackedEndings name := by
  constructor
  · intro enough
    let alone : Entry := { id := 0, credits := [{ performerName := name }] }
    have ranked : score (wordTokens (tokens name)) alone ∈
        rankedScenes .lowestId [alone] (tokens name) :=
      (perm_rankedScenes .lowestId [alone] (tokens name)).mem_iff.mpr List.mem_cons_self
    have whole : StandsIn name name := ⟨[], [], by simp, rfl, rfl⟩
    have le := enough whole (fun w => Iff.rfl) .lowestId [alone] _ ranked
      ⟨_, List.mem_cons_self, rfl⟩
    exact (Title.subset_tokens_unwords_iff fun w => Iff.rfl).mp (mem_of_length_tokens_le rfl le)
  · rintro unstacked title listing stands lists policy candidates s ranked ⟨c, credited, rfl⟩
    rw [performerHits_of_mem_rankedScenes ranked]
    refine length_tokens_le_performerHits credited fun w member => ?_
    refine Title.mem_tokens_unwords_of_settled lists (stands.mem_tokens member) ?_
    refine Bool.eq_false_iff.mpr fun possessive => ?_
    exact unstacked (Title.hasStackedEndings_iff.mpr ⟨w, member, possessive⟩)

/-- Any listing of the tokens of a title has just these tokens, the tokens of a release that is read
stay as they are for a ranking, and the overlap with a performer named in the title is at least the
number of tokens of the name, each exactly if no endings are stacked: in the title, in the title
that is read, and in the name. -/
theorem listed_tokens_settle (parser : Parser) (detection : Detection) (raw title name : Text) :
    (∀ {listing : List Text}, Lists listing title →
      ((tokens (Text.unwords listing)).toFinset = (tokens title).toFinset ↔
        ¬ HasStackedEndings title)) ∧
    (∀ {listing : List Text}, (∀ w, w ∈ listing ↔ w ∈ (parser.parse detection raw).tokens) →
      ((wordTokens listing).toFinset = (parser.parse detection raw).tokens.toFinset ↔
        ¬ HasStackedEndings (parser.parse detection raw).title)) ∧
    ((∀ {title : Text} {listing : List Text}, StandsIn name title → Lists listing title →
        ∀ (policy : TieBreak) (candidates : List Entry),
          ∀ s ∈ rankedScenes policy candidates listing,
          (∃ c ∈ s.entry.credits, c.performerName = name) →
          (tokens name).length ≤ s.performerHits) ↔
      ¬ HasStackedEndings name) := by
  refine ⟨Title.toFinset_tokens_unwords_iff, fun lists => ?_, tokens_le_performerHits_iff⟩
  have read := ((parser.reads_recognise raw).isConsistent
    (Parser.detectionOf detection raw).quality).tokens
  rw [← Parser.parse] at read
  rw [read] at lists ⊢
  exact Title.toFinset_tokens_unwords_iff lists

/-- The tokens of a release with a possessive name are listed backwards. -/
theorem tokens_of_waters_night :
    let reading := ({} : Parser).parse .off "Studio.21.01.08.Quinn.Waters’s.Night.mp4".toList
    let listing := ["night".toList, "waters".toList, "quinn".toList]
    let name := "Quinn Waters’s".toList
    let cast : Entry := { id := 1, credits := [{ performerName := name }] }
    Lists listing reading.title ∧ ¬ HasStackedEndings reading.title ∧
      (tokens (Text.unwords listing)).toFinset = (tokens reading.title).toFinset ∧
      (∀ w, w ∈ listing ↔ w ∈ reading.tokens) ∧
      (wordTokens listing).toFinset = reading.tokens.toFinset ∧
      ¬ HasStackedEndings name ∧ StandsIn name reading.title ∧
      (∃ s ∈ rankedScenes .titleOverlap [cast] listing, s.entry = cast ∧ 2 ≤ s.performerHits) := by
  intro reading listing name cast
  obtain ⟨settle, release, overlap⟩ := listed_tokens_settle {} .off
    "Studio.21.01.08.Quinn.Waters’s.Night.mp4".toList reading.title name
  have title : reading.title = "Quinn Waters’s Night".toList := by decide +kernel
  have read : reading.tokens = ["quinn".toList, "waters".toList, "night".toList] := by decide +kernel
  have split : tokens reading.title = ["quinn".toList, "waters".toList, "night".toList] := by
    rw [title]
    decide +kernel
  have backwards : ∀ w, w ∈ listing ↔ w ∈ ["quinn".toList, "waters".toList, "night".toList] :=
    fun w => (List.reverse_perm _).mem_iff.symm
  have lists : Lists listing reading.title := by
    intro w
    rw [split]
    exact backwards w
  have listsRead : ∀ w, w ∈ listing ↔ w ∈ reading.tokens := by
    intro w
    rw [read]
    exact backwards w
  have unstacked : ¬ HasStackedEndings reading.title := by
    rw [Title.hasStackedEndings_iff, split]
    decide +kernel
  have unstackedName : ¬ HasStackedEndings name := by
    rw [Title.hasStackedEndings_iff]
    decide +kernel
  have stands : StandsIn name reading.title := by
    rw [title]
    exact ⟨[], " Night".toList, by decide, rfl, by decide⟩
  refine ⟨lists, unstacked, (settle lists).mpr unstacked, listsRead,
    (release listsRead).mpr unstacked, unstackedName, stands,
    score (wordTokens listing) cast, ?_⟩
  have ranked : score (wordTokens listing) cast ∈ rankedScenes .titleOverlap [cast] listing :=
    (perm_rankedScenes .titleOverlap [cast] listing).mem_iff.mpr List.mem_cons_self
  have two : (tokens name).length = 2 := by decide +kernel
  refine ⟨ranked, rfl, ?_⟩
  rw [← two]
  exact overlap.mpr unstackedName stands lists .titleOverlap [cast] _ ranked
    ⟨_, List.mem_cons_self, rfl⟩

/-- With stacked endings the tokens of a release are not those that a ranking reads, and a performer
with the very name of the title has no overlap. -/
theorem stacked_endings_lost :
    let reading := ({} : Parser).parse .off "Studio.21.01.08.Quinn's's".toList
    let cast : Entry := { id := 1, credits := [{ performerName := "Quinn's's".toList }] }
    reading.title = "Quinn's's".toList ∧ reading.tokens = ["quinn's".toList] ∧
      tokens (Text.unwords reading.tokens) = ["quinn".toList] ∧
      (tokens "Quinn's's".toList).length = 1 ∧
      performerHits cast (wordTokens reading.tokens) = 0 := by
  decide +kernel

end ReleaseCatalog.Matching
