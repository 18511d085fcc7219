import ReleaseCatalog.Matching.SceneRank
import ReleaseCatalog.Proofs.Title.TokenForm

/-!
# Names that are linked

A cast may be written as a line of names with any links between them, in any order and with any
repetition.  The tokens of such a line are those of the cast (`tokens_of_linked_names`), and each of
them has the form of a token.
-/

namespace ReleaseCatalog.Matching

open Title (tokens IsLink IsTokenForm Linked)

/-- The tokens of a cast are those of the names in it. -/
theorem mem_castTokens {e : Entry} {token : Text} :
    token ∈ castTokens e ↔ ∃ c ∈ e.credits, token ∈ tokens c.performerName := by
  unfold castTokens
  rw [mem_distinctBy_id, List.mem_flatMap]

/-- The tokens on both sides of a link together are the tokens of the line.  A line of the names of
a cast with links between them, in whatever order and however often, has the tokens of the cast.
Tokens are listed once each and have the form of tokens. -/
theorem tokens_of_linked_names :
    (∀ {link : Text} (s t : Text), IsLink link →
      (tokens (s ++ link ++ t)).toFinset = (tokens s).toFinset ∪ (tokens t).toFinset) ∧
    (∀ (e : Entry) {names : List Text} {line : Text},
      (∀ name, name ∈ names ↔ ∃ c ∈ e.credits, c.performerName = name) → Linked names line →
      (castTokens e).toFinset = (tokens line).toFinset) ∧
    ∀ title, (tokens title).Nodup ∧ ∀ w ∈ tokens title, IsTokenForm w := by
  refine ⟨fun s t isLink => ?_, fun e names line cast linked => ?_, fun title => ?_⟩
  · ext token
    rw [Finset.mem_union, List.mem_toFinset, List.mem_toFinset, List.mem_toFinset,
      isLink.separates.mem_tokens_append]
  · ext token
    rw [List.mem_toFinset, List.mem_toFinset, mem_castTokens, linked.mem_tokens_iff]
    constructor
    · rintro ⟨c, credited, member⟩
      exact ⟨_, (cast _).mpr ⟨c, credited, rfl⟩, member⟩
    · rintro ⟨name, listed, member⟩
      obtain ⟨c, credited, rfl⟩ := (cast name).mp listed
      exact ⟨c, credited, member⟩
  · exact ⟨Title.nodup_tokens title, fun w => Title.isTokenForm_of_mem_tokens⟩

/-- Two performers are linked the other way round, one of them twice. -/
theorem tokens_of_quinn_and_carrie :
    let cast : Entry := { id := 1, credits :=
      [{ performerName := "Quinn Waters".toList }, { performerName := "Carrie".toList }] }
    let names := ["Carrie".toList, "Quinn Waters".toList, "Carrie".toList]
    let line := "Carrie AND Quinn Waters&Carrie".toList
    IsLink " AND ".toList ∧
      (tokens "Quinn AND Carrie".toList).toFinset =
        (tokens "Quinn".toList).toFinset ∪ (tokens "Carrie".toList).toFinset ∧
      (∀ name, name ∈ names ↔ ∃ c ∈ cast.credits, c.performerName = name) ∧ Linked names line ∧
      (castTokens cast).toFinset = (tokens line).toFinset ∧
      "quinn".toList ∈ tokens line ∧ IsTokenForm "quinn".toList := by
  intro cast names line
  obtain ⟨union, credits, form⟩ := tokens_of_linked_names
  have spoken : IsLink " AND ".toList := .spacedAnd (w := "AND".toList) (by decide)
  have listed : ∀ name, name ∈ names ↔ ∃ c ∈ cast.credits, c.performerName = name := by
    have forth : ∀ name ∈ names, ∃ c ∈ cast.credits, c.performerName = name := by decide
    have back : ∀ c ∈ cast.credits, c.performerName ∈ names := by decide
    exact fun name => ⟨forth name, fun ⟨c, credited, same⟩ => same ▸ back c credited⟩
  have linked : Linked names line :=
    .more "Carrie".toList spoken (.more "Quinn Waters".toList .ampersand (.one "Carrie".toList))
  have pieces : "Quinn AND Carrie".toList =
      "Quinn".toList ++ " AND ".toList ++ "Carrie".toList := by decide
  have both := union "Quinn".toList "Carrie".toList spoken
  rw [← pieces] at both
  have member : "quinn".toList ∈ tokens line := by decide +kernel
  exact ⟨spoken, both, listed, linked, credits cast listed linked, member, (form line).2 _ member⟩

end ReleaseCatalog.Matching
